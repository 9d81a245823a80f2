import XoLedger.Settings.Environment
import XoLedger.Text.AlphanumericRanges
import XoLedger.Text.Blank

/-!
# Files of variables

A file that gives values to variables that the environment leaves open, one `NAME=value` to a line.
A value may be quoted, weakly or strongly, and then go on over several lines; it may refer to other
variables, and a comment may follow it. Reading stops without notice at the first thing that makes
no sense, and what was read before it counts.
-/

namespace XoLedger.EnvFile

/-! ### Lines -/

/-- The lines of a file, each with its line feed. -/
def rawLines : Bytes → List Bytes
  | [] => []
  | b :: rest =>
    if b = 10 then [b] :: rawLines rest
    else
      match rawLines rest with
      | [] => [[b]]
      | line :: lines => (b :: line) :: lines

/-- The file without the mark that says it is UTF-8. -/
def withoutMark : Bytes → Bytes
  | 0xEF :: 0xBB :: 0xBF :: rest => rest
  | b => b

/-- The lines that can be read as text, up to the first that cannot. -/
def readableLines : List Bytes → List (List Char)
  | [] => []
  | line :: rest =>
    match Utf8.decodeChars line with
    | .ok cs => cs :: readableLines rest
    | .error _ => []

/-- Where the search for the end of an entry stands. -/
inductive Scan where
  /-- Outside quotes. -/
  | bare
  /-- After a blank, where a comment may start. -/
  | blank
  /-- After a backslash outside quotes. -/
  | escape
  /-- Between quotes, of which a strong one is single. -/
  | quoted (strong : Bool)
  /-- After a backslash between quotes. -/
  | quotedEscape (strong : Bool)
deriving DecidableEq

/-- What a character outside quotes does. -/
def Scan.outside (c : Char) : Scan :=
  if c = '\\' then escape
  else if c = '"' then quoted false
  else if c = '\'' then quoted true
  else bare

/-- Whether a character is a blank within a line. -/
def isInnerBlank (c : Char) : Bool :=
  isBlank c && c ≠ '\n' && c ≠ '\r'

/-- Takes one character into the search. -/
def Scan.step (c : Char) : Scan → Scan
  | bare => if isInnerBlank c then blank else outside c
  | blank => outside c
  | escape => bare
  | quoted strong =>
    if c = '\\' then quotedEscape strong
    else if c = (if strong then '\'' else '"') then bare
    else quoted strong
  | quotedEscape strong => quoted strong

/-- Searches a line. Returns what stands before a comment, if one starts, and where the search
stands at the end. -/
def scan : Scan → List Char → Option (List Char) × Scan
  | state, [] => (none, state)
  | state, c :: rest =>
    if state = .blank ∧ c = '#' then (some [], .bare)
    else
      let (before, last) := scan (state.step c) rest
      (before.map (c :: ·), last)

/-- Drops one line feed, and a carriage return before it. -/
def withoutLineEnd (cs : List Char) : List Char :=
  match cs.reverse with
  | '\n' :: '\r' :: rest => rest.reverse
  | '\n' :: rest => rest.reverse
  | _ => cs

/-- Whether a text is a comment. -/
def isComment (cs : List Char) : Bool :=
  (cs.dropWhile isBlank).head? = some '#'

/-- The entries of a file: lines, joined where quotes are open at the end of one. `before` holds
the lines of an entry that has begun. An entry without an end is left out. -/
def entries : Scan → (before : List Char) → List (List Char) → List (List Char)
  | _, _, [] => []
  | state, before, line :: rest =>
    if isComment (before ++ line) then entries .bare [] rest
    else
      match scan state line with
      | (some beforeComment, _) => (before ++ beforeComment) :: entries .bare [] rest
      | (none, .bare) => withoutLineEnd (before ++ line) :: entries .bare [] rest
      | (none, last) => entries last (before ++ line) rest

/-! ### Values -/

/-- Where the reading of a value stands. Weak quotes may lie around everything but the end. -/
inductive ValueState where
  /-- In text. -/
  | text (weak : Bool)
  /-- Between strong quotes. -/
  | strong
  /-- After a backslash. -/
  | escape (weak : Bool)
  /-- In the name of a variable after a dollar sign. -/
  | name (weak : Bool) (read : List Char)
  /-- In the name of a variable in braces. -/
  | braced (weak : Bool) (read : List Char)
  /-- After the value. -/
  | past

/-- The character that an escape stands for. -/
def unescape? (c : Char) : Option Char :=
  if c = '\\' ∨ c = '\'' ∨ c = '"' ∨ c = '$' ∨ c = ' ' then some c
  else if c = 'n' then some '\n'
  else none

/-- Takes a character in text into a value. -/
def textStep (weak : Bool) (c : Char) : ValueState × List Char :=
  if c = '$' then (.name weak [], [])
  else if c = '\\' then (.escape weak, [])
  else if c = '"' then (.text (!weak), [])
  else if weak then (.text weak, [c])
  else if c = '\'' then (.strong, [])
  else if c = ' ' ∨ c = '\t' then (.past, [])
  else (.text weak, [c])

/-- Reads a value. `lookUp` gives the texts of variables. -/
def readValue (lookUp : List Char → List Char) : ValueState → List Char → Option (List Char)
  | .text weak, [] => if weak then none else some []
  | .escape weak, [] => if weak then none else some []
  | .name weak read, [] => if weak then none else some (lookUp read)
  | .past, [] => some []
  | .strong, [] => none
  | .braced _ _, [] => none
  | .text weak, c :: rest =>
    let (state, out) := textStep weak c
    (readValue lookUp state rest).map (out ++ ·)
  | .strong, c :: rest =>
    if c = '\'' then readValue lookUp (.text false) rest
    else (readValue lookUp .strong rest).map (c :: ·)
  | .escape weak, c :: rest =>
    match unescape? c with
    | none => none
    | some out => (readValue lookUp (.text weak) rest).map (out :: ·)
  | .name weak read, c :: rest =>
    if isAlphanumeric c then readValue lookUp (.name weak (read ++ [c])) rest
    else if c = '\x7b' ∧ read = [] then readValue lookUp (.braced weak []) rest
    else if c = '$' then (readValue lookUp (.name weak []) rest).map (lookUp read ++ ·)
    else (readValue lookUp (.text weak) rest).map (lookUp read ++ c :: ·)
  | .braced weak read, c :: rest =>
    if c = '\x7d' then (readValue lookUp (.text weak) rest).map (lookUp read ++ ·)
    else readValue lookUp (.braced weak (read ++ [c])) rest
  | .past, c :: rest =>
    if c = ' ' ∨ c = '\t' then readValue lookUp .past rest
    else if c = '#' then some []
    else none

/-! ### Assignments -/

/-- Whether a character may start a name. -/
def isNameStart (c : Char) : Bool :=
  c.isAlpha || c = '_'

/-- Whether a character may stand in a name. -/
def isNameChar (c : Char) : Bool :=
  c.isAlphanum || c = '_' || c = '.'

/-- Takes a name and the blanks after it off the front. -/
def takeName (cs : List Char) : Option (List Char × List Char) :=
  if (cs.head?.map isNameStart).getD false then
    some (cs.takeWhile isNameChar, (cs.dropWhile isNameChar).dropWhile isBlank)
  else none

/-- Takes a name and an equals sign off the front. The word `export` may stand before. -/
def takeTarget (cs : List Char) : Option (List Char × List Char) :=
  match takeName cs with
  | none => none
  | some (name, '=' :: rest) => some (name, rest)
  | some (name, rest) =>
    if name = "export".toList then
      match takeName rest with
      | some (name, '=' :: rest) => some (name, rest)
      | _ => none
    else none

/-- What has been read: the environment, and the value of each variable in the file. -/
structure Progress where
  /-- The environment. -/
  env : Environment
  /-- The variables that were given a value in the file, the last first. -/
  values : List (String × String)

/-- The text of a variable that a value refers to. -/
def Progress.lookUp (p : Progress) (name : List Char) : List Char :=
  let name := String.ofList name
  match p.env.text? name with
  | some s => s.toList
  | none => ((p.values.find? (·.1 = name)).map fun v => v.2.toList).getD []

/-- What an entry says. -/
inductive Entry where
  /-- Nothing. -/
  | nothing
  /-- A variable has a value. -/
  | assignment (name value : String)

/-- Reads an entry. -/
def readEntry (lookUp : List Char → List Char) (cs : List Char) : Option Entry :=
  let cs := (dropEndWhile isBlank cs).dropWhile isBlank
  if cs = [] ∨ isComment cs then some .nothing
  else
    match takeTarget cs with
    | none => none
    | some (name, rest) =>
      let written := rest.dropWhile isBlank
      let value := if isComment written then some [] else readValue lookUp (.text false) written
      value.map fun value => .assignment (String.ofList name) (String.ofList value)

/-- Takes entries into what has been read, up to the first that makes no sense. -/
def readEntries : Progress → List (List Char) → Progress
  | p, [] => p
  | p, entry :: rest =>
    match readEntry p.lookUp entry with
    | none => p
    | some .nothing => readEntries p rest
    | some (.assignment name value) =>
      readEntries ⟨p.env.setIfUnread name value, (name, value) :: p.values⟩ rest

/-- The environment with the variables of a file. -/
def load (env : Environment) (file : Bytes) : Environment :=
  (readEntries ⟨env, []⟩ (entries .bare [] (readableLines (rawLines (withoutMark file))))).env

end XoLedger.EnvFile
