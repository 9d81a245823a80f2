import XoLedger.Text.Numeral
import XoLedger.Text.Utf8

/-!
# Arguments

What the words after the program's name ask for. Options may stand before and after the command,
and a double hyphen after the command ends them. A value is checked when the next option or value
arrives or when the words are at an end, so asking for help is heard unless something before it is
wrong.
-/

namespace XoLedger.Command

/-! ### Commands -/

/-- The words that a command starts with. -/
inductive Verb where
  /-- Open a game. -/
  | create
  /-- Put a mark into a cell. -/
  | take
  /-- Tell all games. -/
  | list
  /-- Tell one game. -/
  | board
  /-- Tell all games whenever they change. -/
  | watch
  /-- Make a key. -/
  | keygen
deriving DecidableEq, Repr

/-- A value that a command needs. -/
inductive Slot where
  /-- The name of a game. -/
  | name
  /-- The number of a cell. -/
  | space
deriving DecidableEq, Repr

namespace Verb

/-- Every verb. -/
def all : List Verb :=
  [create, take, list, board, watch, keygen]

/-- The word for a verb. -/
def word : Verb → String
  | create => "create"
  | take => "take"
  | list => "list"
  | board => "show"
  | watch => "watch"
  | keygen => "keygen"

/-- The values that a command needs. -/
def slots : Verb → List Slot
  | create | board => [.name]
  | take => [.name, .space]
  | list | watch | keygen => []

/-- The verb with a given word. -/
def ofWord? (word : Bytes) : Option Verb :=
  all.find? fun verb => Utf8.encode verb.word = word

end Verb

/-- A command. -/
inductive Task where
  /-- Open a game. -/
  | create (name : String)
  /-- Put a mark into a cell. -/
  | take (name : String) (space : UInt8)
  /-- Tell all games. -/
  | list
  /-- Tell one game. -/
  | board (name : String)
  /-- Tell all games whenever they change. -/
  | watch
  /-- Make a key. -/
  | keygen
deriving DecidableEq, Repr

/-- What the words ask for. -/
inductive Request where
  /-- How the program is used. -/
  | help
  /-- Which program this is. -/
  | version
  /-- A command, maybe with another URL. -/
  | run (url : Option String) (task : Task)
deriving DecidableEq, Repr

/-! ### Values -/

/-- Reads a whole number with an optional sign, if it lies between 0 and 255. -/
def readSpace? (s : String) : Option UInt8 :=
  match s.toList with
  | '-' :: digits =>
    match Numeral.readDigits 1 0 digits with
    | .ok _ => if digits = [] then none else some 0
    | .error _ => none
  | cs =>
    match Numeral.readChars 256 cs with
    | .ok n => some (UInt8.ofNat n)
    | .error _ => none

/-- A value that has been checked. -/
inductive Value where
  /-- A text. -/
  | text (s : String)
  /-- The number of a cell. -/
  | space (n : UInt8)

/-- Checks a value. -/
def Slot.check? (slot : Slot) (octets : Bytes) : Option Value :=
  match Utf8.decode octets with
  | .error _ => none
  | .ok s =>
    match slot with
    | .name => some (.text s)
    | .space => (readSpace? s).map .space

/-- The command of a verb and its values. -/
def Verb.task? : Verb → List Value → Option Task
  | create, [.text name] => some (.create name)
  | take, [.text name, .space n] => some (.take name n)
  | list, [] => some .list
  | board, [.text name] => some (.board name)
  | watch, [] => some .watch
  | keygen, [] => some .keygen
  | _, _ => none

/-! ### Words -/

/-- What a word looks like. -/
inductive Word where
  /-- The double hyphen. -/
  | escape
  /-- A word after two hyphens, maybe with a value after an equals sign. -/
  | long (name : Bytes) (value : Option Bytes)
  /-- Letters after a hyphen. -/
  | short (first : UInt8)
  /-- Anything else. -/
  | plain

/-- What a word looks like. -/
def Word.of : Bytes → Word
  | [45, 45] => escape
  | 45 :: 45 :: rest =>
    match rest.dropWhile (· ≠ 61) with
    | [] => long rest none
    | _ :: value => long (rest.takeWhile (· ≠ 61)) (some value)
  | 45 :: first :: _ => short first
  | _ => plain

/-- An option. -/
inductive Switch where
  /-- The URL to use; its value stands in the same word or in the next. -/
  | url (value : Option Bytes)
  /-- Help is asked for. -/
  | help
  /-- The version is asked for. -/
  | version

/-- The option that a word is, if it is one. `atRoot` says that no command has been read. -/
def Switch.of? (atRoot : Bool) : Word → Option Switch
  | .long name value =>
    if name = Utf8.encode "url" then some (url value)
    else if name = Utf8.encode "help" ∧ value = none then some help
    else if atRoot ∧ name = Utf8.encode "version" ∧ value = none then some version
    else none
  | .short first =>
    if first = 104 then some help
    else if atRoot ∧ first = 86 then some version
    else none
  | .escape | .plain => none

/-! ### Reading -/

/-- A value that has been read and not been checked. -/
inductive Pending where
  /-- None. -/
  | nothing
  /-- A URL, or the place for one. -/
  | url (value : Option Bytes)
  /-- A value of the command. -/
  | positional (slot : Slot) (value : Bytes)

/-- What has been read before or after the verb. -/
structure Level where
  /-- The URL. -/
  url : Option String
  /-- The values of the command. -/
  values : List Value
  /-- The last value read. -/
  pending : Pending

namespace Level

/-- Nothing has been read. -/
def start : Level := ⟨none, [], .nothing⟩

/-- Takes a URL, of which there may be one. -/
def takeUrl? (level : Level) (octets : Bytes) : Option Level :=
  match level.url, Utf8.decode octets with
  | none, .ok s => some { level with url := some s, pending := .nothing }
  | _, _ => none

/-- Checks the last value. -/
def settle? (level : Level) : Option Level :=
  match level.pending with
  | .nothing => some level
  | .url none => none
  | .url (some octets) => level.takeUrl? octets
  | .positional slot octets =>
    (slot.check? octets).map fun value =>
      { level with values := level.values ++ [value], pending := .nothing }

/-- Whether the next word is the URL. -/
def awaitsUrl (level : Level) : Bool :=
  match level.pending with
  | .url none => true
  | _ => false

/-- Takes an option. Either the level goes on, or the reading ends with a request. -/
def switch? (level : Level) (s : Switch) : Option (Level ⊕ Request) := do
  let level ← level.settle?
  match s with
  | .help => return .inr .help
  | .version => return .inr .version
  | .url none => return .inl { level with pending := .url none }
  | .url (some octets) => return .inl (← level.takeUrl? octets)

end Level

/-- Reads the words after a verb. `trailing` says that options are over. -/
def readAfterVerb (verb : Verb) :
    (slots : List Slot) → (trailing : Bool) → Level → List Bytes → Option (Level ⊕ Request)
  | slots, _, level, [] =>
    if slots = [] then level.settle?.map .inl else none
  | slots, trailing, level, word :: rest =>
    let shape := if trailing then .plain else Word.of word
    match shape with
    | .escape => readAfterVerb verb slots true level rest
    | .plain =>
      if level.awaitsUrl ∧ !trailing then
        readAfterVerb verb slots trailing { level with pending := .url (some word) } rest
      else
        match level.settle?, slots with
        | some level, slot :: slots =>
          readAfterVerb verb slots trailing { level with pending := .positional slot word } rest
        | _, _ => none
    | shape =>
      match (Switch.of? false shape).bind level.switch? with
      | some (.inl level) => readAfterVerb verb slots trailing level rest
      | some (.inr request) => some (.inr request)
      | none => none

/-- Whether help can be given on the commands that words name: on none, or on one. -/
def helpExists : List Bytes → Bool
  | [] => true
  | [word] => (Verb.ofWord? word).isSome || word = Utf8.encode "help"
  | _ => false

/-- The request of a verb with what was read before and after it. The URL after it counts first. -/
def finish? (verb : Verb) (before after : Level) : Option Request := do
  let before ← before.settle?
  let task ← verb.task? after.values
  return .run (after.url <|> before.url) task

/-- Reads the words up to the verb, and what follows. -/
def readBeforeVerb : Level → List Bytes → Option Request
  | _, [] => none
  | level, word :: rest =>
    match Word.of word with
    | .escape => none
    | .plain =>
      if level.awaitsUrl then readBeforeVerb { level with pending := .url (some word) } rest
      else if word = Utf8.encode "help" then if helpExists rest then some .help else none
      else
        match Verb.ofWord? word with
        | none => none
        | some verb =>
          match readAfterVerb verb verb.slots false .start rest with
          | none => none
          | some (.inr request) => some request
          | some (.inl after) => finish? verb level after
    | shape =>
      match (Switch.of? true shape).bind level.switch? with
      | some (.inl level) => readBeforeVerb level rest
      | some (.inr request) => some request
      | none => none

/-- What the words after the program's name ask for, if they make sense. -/
def parse? (words : List Bytes) : Option Request :=
  readBeforeVerb .start words

end XoLedger.Command
