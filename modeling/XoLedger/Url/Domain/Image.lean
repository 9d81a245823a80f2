import XoLedger.Text.Composed
import XoLedger.Text.Ranges
import XoLedger.Url.Domain.ImageRows
import XoLedger.Url.Domain.ValidRanges

/-!
# Images of characters

What stands in a domain name for a character: a capital letter becomes small, a letter that only
looks different becomes the plain one, and a character without an image is left out.
-/

namespace XoLedger.Url.Domain

/-- The lowercase form of an ASCII letter. -/
def lowerAscii (c : Char) : Char :=
  if 'A' ≤ c ∧ c ≤ 'Z' then Char.ofNat (c.toNat + 32) else c

/-- A row of the table: the images of a character and of those that follow it. -/
structure ImageRow where
  /-- The first character. -/
  first : Nat
  /-- What stands for it and for its followers, if the table says it. -/
  images : List (Option (List Nat))

/-- Reads an item of a row. -/
def readImage (item : List Char) : Option (List Nat) :=
  if item = ['-'] then none else some ((splitChars '+' item).map hexNumber)

/-- Reads a row. -/
def readImageRow (row : String) : ImageRow :=
  match splitChars ' ' row.toList with
  | [] => ⟨0, []⟩
  | first :: items => ⟨hexNumber first, items.map readImage⟩

/-- The rows that are read. -/
def imageTable : List ImageRow :=
  imageRows.map readImageRow

/-- The image that a row gives a character. -/
def ImageRow.image? (row : ImageRow) (n : Nat) : Option (List Nat) :=
  if row.first ≤ n then (row.images[n - row.first]?).join else none

/-- What stands in a domain name for a character, if it may stand for anything. -/
def image? (n : Nat) : Option (List Nat) :=
  if n < 128 then some [(lowerAscii (Char.ofNat n)).toNat]
  else if ignoredRanges.contains n then some []
  else if validRanges.contains n then some [n]
  else imageTable.findSome? (·.image? n)

/-- What stands in a domain name for a text, marks and letters joined. -/
def image (cs : List Char) : Option (List Nat) :=
  (cs.mapM fun c => image? c.toNat).map fun parts => composed parts.flatten

end XoLedger.Url.Domain
