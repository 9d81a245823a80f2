import XoLedger.Act
import XoLedger.Url.Parse

/-!
# Networks

What is sent over a network and what comes back, and a network in which the answers are known
beforehand.
-/

namespace XoLedger

/-- What is asked of a server. -/
inductive Method where
  /-- To tell something. -/
  | get
  /-- To take something. -/
  | post
deriving DecidableEq, Repr

/-- The word for a method. -/
def Method.word : Method → String
  | get => "GET"
  | post => "POST"

/-- A request to a server. -/
structure Request where
  /-- What is asked. -/
  method : Method
  /-- Whom and about what. -/
  url : Url
  /-- The type of the body, if there is one. -/
  contentType : Option String
  /-- What is sent along. -/
  body : Bytes
deriving DecidableEq

/-- What becomes of a request. -/
inductive Reply where
  /-- An answer arrives. -/
  | answer (status : Nat) (body : Bytes)
  /-- An answer breaks off. -/
  | truncated
  /-- No answer arrives. -/
  | dropped
deriving DecidableEq, Repr

/-- A way to send requests from a world of type `σ`. -/
abbrev Carrier (σ : Type) : Type := Request → Act σ Reply

/-- A network with answers that are known beforehand. -/
structure Network where
  /-- Whether requests leave the machine. -/
  isUp : Bool
  /-- The answers still to be given, in order. -/
  replies : List Reply
  /-- The answer when no other is left. -/
  fallback : Reply
  /-- The requests that have left, in order. -/
  requests : List Request

namespace Network

/-- A network that lets no request through. -/
def down : Network := ⟨false, [], .dropped, []⟩

/-- A network whose server gives these answers, and then one and the same. -/
def scripted (replies : List Reply) (fallback : Reply) : Network := ⟨true, replies, fallback, []⟩

/-- Sends a request. -/
def send (request : Request) (net : Network) : Reply × Network :=
  if net.isUp then
    let net := { net with requests := net.requests ++ [request] }
    match net.replies with
    | [] => (net.fallback, net)
    | reply :: rest => (reply, { net with replies := rest })
  else (.dropped, net)

/-- Sending as a way to reach servers. -/
def carrier : Carrier Network := fun request => Act.change (send request)

end Network

end XoLedger
