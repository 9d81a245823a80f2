import XoLedger.Gateway.Basic
import XoLedger.Gateway.Network

/-!
# Gateways behind a REST interface

A gateway that is reached by requests to a server. Every call is one request, and nothing is tried
again here.
-/

namespace XoLedger

/-- A server that is known by the URL its interface starts at. -/
structure RestApi where
  /-- The URL, without slashes at its end. -/
  baseUrl : String
deriving DecidableEq, Repr

namespace RestApi

/-- Why a URL cannot be used for a server. -/
inductive Error where
  /-- The text is not a URL. -/
  | badUrl (url : String) (cause : Url.Error)
  /-- The scheme is another than those for the web. -/
  | badScheme (scheme : String)
  /-- No URL can be made for an endpoint. -/
  | badEndpoint (path : String) (cause : Url.Error)
deriving DecidableEq, Repr

/-- The wording of such an error. -/
def Error.message : Error → String
  | badUrl url cause => s!"Invalid REST API URL {Quoted.text url}: {cause.message}"
  | badScheme scheme => s!"REST API URL must be http or https, got {scheme}"
  | badEndpoint path cause => s!"Invalid endpoint {path}: {cause.message}"

/-- Such an error as a fault. -/
def Error.toFault (e : Error) : Fault :=
  .badRequest e.message

/-- A URL without the slashes at its end. -/
def withoutSlashes (url : String) : String :=
  String.ofList (dropEndWhile (· = '/') url.toList)

/-- Whether a URL has a scheme for the web. -/
def hasWebScheme (url : Url) : Bool :=
  url.scheme = "http".toList || url.scheme = "https".toList

/-- The server with a given URL. -/
def ofUrl (url : String) : Except Error RestApi :=
  match Url.parse url with
  | .error cause => .error (.badUrl url cause)
  | .ok parsed =>
    if hasWebScheme parsed then .ok ⟨withoutSlashes url⟩
    else .error (.badScheme (String.ofList parsed.scheme))

/-! ### Endpoints -/

/-- Where batches are submitted. -/
def batchesPath : String := "batches"

/-- Where to ask about batches. -/
def statusesPath : String := "batch_statuses"

/-- Where to ask about the state. -/
def statePath : String := "state"

/-- The type of what is submitted. -/
def batchesType : String := "application/octet-stream"

/-- The URL of an endpoint. -/
def endpoint (api : RestApi) (path : String) (pairs : List (String × String)) :
    Except Error Url :=
  match Url.parse (api.baseUrl ++ "/" ++ path) with
  | .error cause => .error (.badEndpoint path cause)
  | .ok url => .ok (url.withPairs pairs)

/-! ### Exchanges -/

/-- Why an exchange with a server gave no answer. -/
inductive ExchangeError where
  /-- No request can be made for the URL. -/
  | unusable
  /-- No answer came. -/
  | noAnswer
  /-- The answer broke off. -/
  | brokenOff
deriving DecidableEq, Repr

/-- The wording of such an error for a request to `url`. -/
def ExchangeError.message (url : Url) : ExchangeError → String
  | unusable => s!"builder error for url ({url.text})"
  | noAnswer => s!"error sending request for url ({url.text})"
  | brokenOff => s!"error decoding response body for url ({url.text})"

/-- Such an error as a fault. The user is not shown. -/
def ExchangeError.toFault (url : Url) (e : ExchangeError) : Fault :=
  .transport (e.message url.withoutUser)

/-- Whether a request can be made for a URL: the name of the server may not hold certain
characters that the URL itself allows. -/
def isSendable (url : Url) : Bool :=
  match url.authority.map Url.Authority.host with
  | some (.name cs) => !cs.any "\"`\x7b\x7d".toList.contains
  | _ => true

/-- The body of a reply, unless the reply says that the request failed. -/
def readReply (url : Url) : Reply → Except Fault Bytes
  | .dropped => .error (ExchangeError.noAnswer.toFault url)
  | .truncated => .error (ExchangeError.brokenOff.toFault url)
  | .answer status body =>
    if 200 ≤ status ∧ status < 300 then .ok body
    else .error (.http status (Utf8.decodeLossy body))

/-- Sends a request and reads the answer. -/
def exchange {σ α : Type} (carrier : Carrier σ) (read : Json.Decoder α) (request : Request) :
    Course σ α := do
  if isSendable request.url then
    let reply ← carrier request
    let body ← Course.ofExcept id (readReply request.url reply)
    Course.ofExcept (fun e => .malformedResponse e.message) (Json.decode read body)
  else throw (ExchangeError.unusable.toFault request.url)

/-! ### The three calls -/

/-- A question without a body. -/
def question (url : Url) : Request := ⟨.get, url, none, []⟩

/-- Submits batches and reads the identifier off the link in the answer. -/
def submit {σ : Type} (api : RestApi) (carrier : Carrier σ) (list : BatchList) :
    Course σ Submission := do
  let url ← Course.ofExcept Error.toFault (api.endpoint batchesPath [])
  let body := list.encode
  Course.note .debug s!"POST {url.text} ({list.batches.length} batches, {body.length} bytes)"
  let answer ← exchange carrier Acknowledgement.shape.read ⟨.post, url, some batchesType, body⟩
  let batchId ← Course.ofExcept LinkError.toFault (batchIdOfLink answer.link)
  return ⟨answer.link, batchId⟩

/-- The report about a batch among several: the first with its identifier, or else the first. -/
def reportOf (batchId : String) (reports : List BatchReport) : Except Fault BatchReport :=
  match reports with
  | [] => .error (.malformedResponse s!"no status reported for batch {batchId}")
  | first :: _ => .ok ((reports.find? (·.id = batchId)).getD first)

/-- Asks what has become of a batch. -/
def status {σ : Type} (api : RestApi) (carrier : Carrier σ) (batchId : String)
    (waitSecs : UInt64) : Course σ BatchReport := do
  let url ← Course.ofExcept Error.toFault
    (api.endpoint statusesPath [("id", batchId), ("wait", toString waitSecs.toNat)])
  Course.note .debug s!"GET {url.text}"
  let answer ← exchange carrier StatusAnswer.shape.read (question url)
  Course.ofExcept id (reportOf batchId answer.data)

/-- Asks for entries of the state. -/
def fetch {σ : Type} (api : RestApi) (carrier : Carrier σ) (address : String) :
    Course σ (List StateEntry) := do
  let url ← Course.ofExcept Error.toFault (api.endpoint statePath [("address", address)])
  Course.note .debug s!"GET {url.text}"
  let answer ← exchange carrier StateAnswer.shape.read (question url)
  return answer.data

/-- The server as a gateway. -/
def gateway {σ : Type} (api : RestApi) (carrier : Carrier σ) : Gateway σ where
  submit := api.submit carrier
  status := api.status carrier
  fetch := api.fetch carrier

end RestApi

end XoLedger
