import XoLedger.Bytes.Hex
import XoLedger.Text.CombiningClasses
import XoLedger.Text.CompositionRows
import XoLedger.Text.Split

/-!
# Composed form

A letter with marks can be written as one character or as several. The composed form takes every
character apart, puts the marks of each letter in the order of their classes, and then joins what
can be joined, so that a text has one form however it was written.
-/

namespace XoLedger

/-! ### Tables in rows -/

/-- The number that hexadecimal digits write. -/
def hexNumber (digits : List Char) : Nat :=
  digits.foldl (fun n c => 16 * n + (Hex.value? c.toNat).getD 0) 0

/-- A character that two others make up. -/
structure Composite where
  /-- The character that comes first. -/
  first : Nat
  /-- The character that comes second. -/
  second : Nat
  /-- The character that both make up. -/
  whole : Nat
deriving DecidableEq, Repr

/-- The composites of an entry whose first character is given. -/
def compositesOf (first : Nat) : List Nat → List Composite
  | second :: whole :: rest => ⟨first, second, whole⟩ :: compositesOf first rest
  | _ => []

/-- Reads one entry. -/
def readEntry (entry : List Char) : List Composite :=
  match ((splitChars ' ' entry).filter (· ≠ [])).map hexNumber with
  | [] => []
  | first :: rest => compositesOf first rest

/-- The composites that have an entry. -/
def composites : List Composite :=
  compositionRows.flatMap fun row => (splitChars ';' row.toList).flatMap readEntry

/-! ### Syllables -/

/-- The first leading consonant. -/
def firstLead : Nat := 0x1100

/-- The first vowel. -/
def firstVowel : Nat := 0x1161

/-- The code point before the first trailing consonant. -/
def beforeTrail : Nat := 0x11A7

/-- The first syllable. -/
def firstSyllable : Nat := 0xAC00

/-- Whether a code point is a syllable. -/
def isSyllable (n : Nat) : Bool :=
  firstSyllable ≤ n && n < firstSyllable + 19 * 21 * 28

/-- The two parts of a syllable: one without its trailing consonant and that consonant, or the
leading consonant and the vowel. -/
def syllableParts (n : Nat) : Nat × Nat :=
  let index := n - firstSyllable
  if index % 28 = 0 then (firstLead + index / (21 * 28), firstVowel + index / 28 % 21)
  else (n - index % 28, beforeTrail + index % 28)

/-- The syllable that two parts make up. -/
def syllable? (first second : Nat) : Option Nat :=
  if firstLead ≤ first ∧ first < firstLead + 19 ∧ firstVowel ≤ second ∧ second < firstVowel + 21 then
    some (firstSyllable + ((first - firstLead) * 21 + (second - firstVowel)) * 28)
  else if isSyllable first ∧ (first - firstSyllable) % 28 = 0
      ∧ beforeTrail < second ∧ second < beforeTrail + 28 then
    some (first + (second - beforeTrail))
  else none

/-! ### The three steps -/

/-- The two parts of a character. -/
def parts? (n : Nat) : Option (Nat × Nat) :=
  if isSyllable n then some (syllableParts n)
  else (composites.find? (·.whole = n)).map fun c => (c.first, c.second)

/-- The character that two others make up. -/
def whole? (first second : Nat) : Option Nat :=
  match syllable? first second with
  | some n => some n
  | none => (composites.find? fun c => c.first = first && c.second = second).map (·.whole)

/-- Takes a character apart, as often as `depth` says; only the first part has parts again. -/
def takeApart : Nat → Nat → List Nat
  | 0, n => [n]
  | depth + 1, n =>
    match parts? n with
    | some (first, second) => takeApart depth first ++ [second]
    | none => [n]

/-- How often a character can be taken apart at most. -/
def deepest : Nat := 3

/-- Puts a character before a text whose marks are in order, and orders it among them. -/
def settle (n : Nat) : List Nat → List Nat
  | [] => [n]
  | m :: rest =>
    if combiningClass m ≠ 0 ∧ combiningClass m < combiningClass n then m :: settle n rest
    else n :: m :: rest

/-- Joins what can be joined. A mark reaches the character `start` unless one of the marks `kept`
after it, last first, is of its class or a higher one. -/
def joinFrom (start : Nat) (kept : List Nat) : List Nat → List Nat
  | [] => start :: kept.reverse
  | n :: rest =>
    let isReached := kept.head?.all fun m => combiningClass m < combiningClass n
    match (if isReached then whole? start n else none) with
    | some whole => joinFrom whole kept rest
    | none =>
      if combiningClass n = 0 then start :: kept.reverse ++ joinFrom n [] rest
      else joinFrom start (n :: kept) rest

/-- The composed form of a text, by code points. -/
def composed (ns : List Nat) : List Nat :=
  match (ns.flatMap (takeApart deepest)).foldr settle [] with
  | [] => []
  | n :: rest => joinFrom n [] rest

end XoLedger
