import XoLedger.Url.Host

/-!
# URLs

The parts of an absolute URL, and its written form.
-/

namespace XoLedger

namespace Url

/-- How the text after a scheme is laid out. -/
inductive SchemeKind where
  /-- There always is a host. The port is left out where it is the usual one. -/
  | special (usualPort : Nat)
  /-- There may be a host, but no user and no port. -/
  | file
  /-- There may be a host. -/
  | general
deriving DecidableEq, Repr

/-- The schemes that always have a host, each with its usual port. -/
def specialPorts : List (String × Nat) :=
  [("http", 80), ("https", 443), ("ws", 80), ("wss", 443), ("ftp", 21)]

/-- How the text after a given scheme is laid out. -/
def SchemeKind.of (scheme : List Char) : SchemeKind :=
  match specialPorts.find? fun entry => entry.1.toList = scheme with
  | some (_, port) => special port
  | none => if scheme = "file".toList then file else general

/-- Whether backslashes count as slashes and apostrophes in the query are encoded. -/
def SchemeKind.isSpecial : SchemeKind → Bool
  | special _ | file => true
  | general => false

/-- The usual port, if there is one. -/
def SchemeKind.usualPort? : SchemeKind → Option Nat
  | special port => some port
  | file | general => none

/-- Who serves a URL, and as whom it is asked for. An empty user name or password is none. -/
structure Authority where
  /-- The user name. -/
  username : List Char
  /-- The password. -/
  password : List Char
  /-- The host. -/
  host : Host
  /-- The port, unless it is the usual one. -/
  port : Option Nat
deriving DecidableEq, Repr

/-- The path of a URL. -/
inductive Path where
  /-- Segments, each after a slash. -/
  | segments (segments : List (List Char))
  /-- A text that is no sequence of segments. -/
  | plain (text : List Char)
deriving DecidableEq, Repr

end Url

/-- An absolute URL. -/
structure Url where
  /-- The scheme, in lowercase. -/
  scheme : List Char
  /-- Who serves it. -/
  authority : Option Url.Authority
  /-- The path. -/
  path : Url.Path
  /-- What stands after the question mark. -/
  query : Option (List Char)
  /-- What stands after the number sign. -/
  fragment : Option (List Char)
deriving DecidableEq, Repr

namespace Url

/-- The user name and the password as they stand before a host. -/
def Authority.userinfo (a : Authority) : List Char :=
  if a.username = [] ∧ a.password = [] then []
  else a.username ++ (if a.password = [] then [] else ':' :: a.password) ++ ['@']

/-- The port as it stands after a host. -/
def Authority.portText (a : Authority) : List Char :=
  match a.port with
  | some port => ':' :: (toString port).toList
  | none => []

/-- The written form of an authority. -/
def Authority.text (a : Authority) : List Char :=
  a.userinfo ++ a.host.text ++ a.portText

/-- The same without the user. -/
def Authority.withoutUser (a : Authority) : Authority :=
  { a with username := [], password := [] }

/-- The written form of a path. -/
def Path.text : Path → List Char
  | segments all => all.flatMap ('/' :: ·)
  | plain cs => cs

/-- A part that stands after a mark, if there is one. -/
def partAfter (mark : Char) : Option (List Char) → List Char
  | some cs => mark :: cs
  | none => []

/-- What stands between the scheme and the path. Without a host, a path that starts with two
slashes is told apart from one by a dot. -/
def beforePath (url : Url) : List Char :=
  match url.authority, url.path with
  | some a, _ => '/' :: '/' :: a.text
  | none, .segments ([] :: _ :: _) => ['/', '.']
  | none, _ => []

/-- The characters of a URL. -/
def toList (url : Url) : List Char :=
  url.scheme ++ ':' :: url.beforePath ++ url.path.text ++ partAfter '?' url.query
    ++ partAfter '#' url.fragment

/-- The written form of a URL. -/
def text (url : Url) : String :=
  String.ofList url.toList

/-- The URL without its user. -/
def withoutUser (url : Url) : Url :=
  { url with authority := url.authority.map Authority.withoutUser }

/-- The URL without its fragment. -/
def withoutFragment (url : Url) : Url :=
  { url with fragment := none }

end Url

end XoLedger
