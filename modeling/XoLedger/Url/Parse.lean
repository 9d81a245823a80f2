import XoLedger.Text.Blank
import XoLedger.Url.Basic
import XoLedger.Url.Form

/-!
# Reading URLs

An absolute URL is read in one pass from the left. Only the scheme and the authority can be wrong;
path, query and fragment take whatever is left, and encode what may not stand there.
-/

namespace XoLedger.Url

/-! ### Scheme -/

/-- Whether a character is dropped wherever it stands. -/
def isLineOrTab (c : Char) : Bool :=
  c = '\t' || c = '\n' || c = '\r'

/-- Whether a character is dropped at both ends. -/
def isEdge (c : Char) : Bool :=
  c.toNat ≤ 32

/-- The text without what is dropped before reading. -/
def clean (cs : List Char) : List Char :=
  (dropEndWhile isEdge (cs.dropWhile isEdge)).filter fun c => !isLineOrTab c

/-- Whether a character may stand in a scheme after its first letter. -/
def isSchemeChar (c : Char) : Bool :=
  c.isAlphanum || c = '+' || c = '-' || c = '.'

/-- The scheme, in lowercase, and what stands after its colon. -/
def splitScheme? (cs : List Char) : Option (List Char × List Char) :=
  match cs.dropWhile isSchemeChar with
  | ':' :: rest =>
    if (cs.head?.map Char.isAlpha).getD false then
      some ((cs.takeWhile isSchemeChar).map Domain.lowerAscii, rest)
    else none
  | _ => none

/-! ### Authority -/

/-- Whether a character counts as a slash. -/
def isSlash (special : Bool) (c : Char) : Bool :=
  c = '/' || (special && c = '\\')

/-- Whether a character ends an authority. -/
def endsAuthority (special : Bool) (c : Char) : Bool :=
  isSlash special c || c = '?' || c = '#'

/-- What stands before the last at sign, if there is one, and what stands after it. -/
def splitUserinfo (cs : List Char) : Option (List Char) × List Char :=
  let after := (cs.reverse.takeWhile (· ≠ '@')).reverse
  if '@' ∈ cs then (some (cs.take (cs.length - after.length - 1)), after) else (none, cs)

/-- The user name of a text before an at sign. -/
def usernameOf (userinfo : List Char) : List Char :=
  Percent.encode Percent.inUserinfo (userinfo.takeWhile (· ≠ ':'))

/-- The password of a text before an at sign. -/
def passwordOf (userinfo : List Char) : List Char :=
  Percent.encode Percent.inUserinfo ((userinfo.dropWhile (· ≠ ':')).drop 1)

/-- A host, and the colon and the port after it. Colons in brackets belong to the host. -/
def splitHost : (inBrackets : Bool) → List Char → List Char × List Char
  | _, [] => ([], [])
  | inBrackets, c :: cs =>
    if c = ':' ∧ !inBrackets then ([], c :: cs)
    else
      let (host, rest) := splitHost (c = '[' || (inBrackets && c ≠ ']')) cs
      (c :: host, rest)

/-- Reads a port up to a backslash or the end. No digits are no port, and the usual port is none
either. -/
def parsePort (usual : Option Nat) (cs : List Char) : Except Error (Option Nat × List Char) :=
  let digits := cs.takeWhile Char.isDigit
  let rest := cs.dropWhile Char.isDigit
  let port := digits.foldl (fun n c => 10 * n + (c.toNat - 48)) 0
  if 65535 < port then .error .badPort
  else
    match rest with
    | [] | '\\' :: _ =>
      .ok (if digits = [] ∨ usual = some port then none else some port, rest)
    | _ => .error .badPort

/-- Reads a host under a scheme of a given kind. -/
def parseHost (kind : SchemeKind) (cs : List Char) : Except Error Host :=
  match kind with
  | .special _ => if cs = [] then .error .emptyHost else Host.parseSpecial cs
  | .file => Host.parseSpecial cs
  | .general => Host.parseGeneral cs

/-- Reads an authority, and returns what it leaves over. `last` says that nothing follows it. -/
def parseAuthority (kind : SchemeKind) (last : Bool) (cs : List Char) :
    Except Error (Authority × List Char) :=
  let (userinfo, rest) := splitUserinfo cs
  if userinfo = some [] ∧ rest = [] ∧ !last then .error .emptyHost
  else
    let (hostText, portText) := splitHost false rest
    let username := usernameOf (userinfo.getD [])
    let password := passwordOf (userinfo.getD [])
    do
      let host ← parseHost kind hostText
      match portText with
      | [] =>
        if host = .empty ∧ ¬ (username = [] ∧ password = []) then .error .emptyHost
        else return (⟨username, password, host, none⟩, [])
      | _ :: digits =>
        if host = .empty then .error .emptyHost
        else
          let (port, left) ← parsePort kind.usualPort? digits
          return (⟨username, password, host, port⟩, left)

/-! ### Path, query and fragment -/

/-- What stands before the first mark, and what stands after it, if there is one. -/
def cutAt (mark : Char) (cs : List Char) : List Char × Option (List Char) :=
  match cs.dropWhile (· ≠ mark) with
  | [] => (cs.takeWhile (· ≠ mark), none)
  | _ :: rest => (cs.takeWhile (· ≠ mark), some rest)

/-- The segments of a path between slashes. -/
def splitSegments (special : Bool) (cs : List Char) : List (List Char) :=
  splitChars '/' (cs.map fun c => if isSlash special c then '/' else c)

/-- A segment with its encoded dots written out. -/
def writtenDots : List Char → List Char
  | '%' :: '2' :: 'e' :: rest => '.' :: writtenDots rest
  | '%' :: '2' :: 'E' :: rest => '.' :: writtenDots rest
  | c :: rest => c :: writtenDots rest
  | [] => []

/-- What a segment does to a path. -/
inductive Step where
  /-- It stays where it is. -/
  | stay
  /-- It leaves the last segment. -/
  | leave
  /-- It enters a segment. -/
  | enter
deriving DecidableEq

/-- One dot stays, two dots leave, and everything else enters. -/
def Step.of (segment : List Char) : Step :=
  match writtenDots segment with
  | ['.'] => stay
  | ['.', '.'] => leave
  | _ => enter

/-- The segments that are reached by following `segments` from `path`. A path that ends with a
segment of dots ends with a slash. -/
def follow (path : List (List Char)) : List (List Char) → List (List Char)
  | [] => path
  | segment :: rest =>
    let encoded := Percent.encode Percent.inPath segment
    match Step.of encoded with
    | .enter => follow (path ++ [encoded]) rest
    | .stay => follow (if rest = [] then path ++ [[]] else path) rest
    | .leave => follow (if rest = [] then path.dropLast ++ [[]] else path.dropLast) rest

/-- The path of a text that may start with a slash. -/
def parsePath (special : Bool) (cs : List Char) : Path :=
  match cs with
  | [] => .segments (if special then [[]] else [])
  | c :: rest => .segments (follow [] (splitSegments special (if isSlash special c then rest else c :: rest)))

/-- A URL without path, query and fragment. -/
structure Front where
  /-- The scheme. -/
  scheme : List Char
  /-- The authority. -/
  authority : Option Authority

/-- Completes a URL with what follows its authority. `readPath` reads the path. -/
def Front.complete (front : Front) (readPath : List Char → Path) (cs : List Char) : Url :=
  let (beforeFragment, fragment) := cutAt '#' cs
  let (path, query) := cutAt '?' beforeFragment
  let inQuery :=
    if (SchemeKind.of front.scheme).isSpecial then Percent.inSpecialQuery else Percent.inQuery
  { scheme := front.scheme
    authority := front.authority
    path := readPath path
    query := query.map (Percent.encode inQuery)
    fragment := fragment.map (Percent.encode Percent.inFragment) }

/-! ### The whole -/

/-- Reads what follows two slashes. -/
def parseHosted (scheme : List Char) (kind : SchemeKind) (cs : List Char) : Except Error Url := do
  let special := kind.isSpecial
  let front := cs.takeWhile fun c => !endsAuthority special c
  let tail := cs.dropWhile fun c => !endsAuthority special c
  let (authority, left) ← parseAuthority kind tail.isEmpty front
  return Front.complete ⟨scheme, some authority⟩ (parsePath special) (left ++ tail)

/-- Whether a text is the name of a drive. -/
def isDrive : List Char → Bool
  | [letter, mark] => letter.isAlpha && (mark = ':' || mark = '|')
  | _ => false

/-- The authority of a URL for a file without a host. -/
def noHost : Authority := ⟨[], [], .empty, none⟩

/-- Reads what follows the scheme of a file. The machine itself is no host. -/
def parseFile (scheme : List Char) (cs : List Char) : Except Error Url := do
  let slashes := (cs.take 2).takeWhile (isSlash true)
  if slashes.length = 2 then
    let rest := cs.drop 2
    let hostText := rest.takeWhile fun c => !endsAuthority true c
    if isDrive hostText then
      return Front.complete ⟨scheme, some noHost⟩ (parsePath true) ('/' :: rest)
    else
      let host ← if hostText = [] then pure .empty else parseHost .file hostText
      let host := if host = .name "localhost".toList then .empty else host
      return Front.complete ⟨scheme, some { noHost with host }⟩ (parsePath true)
        (rest.drop hostText.length)
  else return Front.complete ⟨scheme, some noHost⟩ (parsePath true) cs

/-- Reads what follows the colon of a scheme. -/
def parseAfterScheme (scheme : List Char) (cs : List Char) : Except Error Url :=
  match SchemeKind.of scheme with
  | .special port => parseHosted scheme (.special port) (cs.dropWhile (isSlash true))
  | .file => parseFile scheme cs
  | .general =>
    match cs with
    | '/' :: '/' :: rest => parseHosted scheme .general rest
    | '/' :: rest => .ok (Front.complete ⟨scheme, none⟩ (parsePath false) ('/' :: rest))
    | rest => .ok (Front.complete ⟨scheme, none⟩ (.plain ∘ Percent.encode Percent.isControl) rest)

/-- Reads an absolute URL. -/
def parse (text : String) : Except Error Url :=
  match splitScheme? (clean text.toList) with
  | none => .error .relative
  | some (scheme, rest) => parseAfterScheme scheme rest

/-! ### Queries -/

/-- The pairs of the query. -/
def queryPairs (url : Url) : List (String × String) :=
  Form.pairs (url.query.getD [])

/-- The URL with pairs added to its query. -/
def withPairs (url : Url) (pairs : List (String × String)) : Url :=
  if pairs = [] then url else { url with query := some (Form.append (url.query.getD []) pairs) }

end XoLedger.Url
