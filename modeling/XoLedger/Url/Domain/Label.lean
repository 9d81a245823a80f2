import XoLedger.Text.Composed
import XoLedger.Text.MarkRanges
import XoLedger.Url.Domain.Direction
import XoLedger.Url.Domain.Joining
import XoLedger.Url.Domain.Punycode
import XoLedger.Url.Domain.ValidRanges

/-!
# Labels

The parts of a domain name between its dots. A label that is already written in ASCII behind a
sign of its own is read first, so that it obeys the same rules as one that is not.
-/

namespace XoLedger.Url.Domain

/-- The sign that a label is written in ASCII. -/
def asciiSign : List Nat := [120, 110, 45, 45]

/-- A label. -/
structure Label where
  /-- The label as it is read, by code points. -/
  points : List Nat
  /-- The label as it is written in ASCII. -/
  ascii : List Char
deriving DecidableEq, Repr

namespace Label

/-- The greatest number of characters in a label that is to be written in ASCII. -/
def longest : Nat := 1000

/-- The greatest number of characters in a label that is written in ASCII. -/
def longestWritten : Nat := 2000

/-- Whether a character beyond ASCII stands in a list of code points. -/
def isWide (ns : List Nat) : Bool :=
  ns.any (128 ≤ ·)

/-- Whether a label with characters beyond ASCII is well formed: it does not begin with a mark or
with the sign, and its joiners fit. -/
def isSound (ns : List Nat) : Bool :=
  !ns.head?.any isMark && !asciiSign.isPrefixOf ns && joinersFit [] ns

/-- Reads what stands behind the sign. The label has to be the image of itself. -/
def readWritten? (ns : List Nat) : Option Label :=
  let body := ns.drop asciiSign.length
  if isWide body || body = [] || body.getLast? = some 45 || longestWritten < body.length then none
  else
    match Punycode.decode? (body.map Char.ofNat) with
    | none => none
    | some points =>
      if points.all validRanges.contains && composed points = points && isSound points then
        some ⟨points, ns.map Char.ofNat⟩
      else none

/-- Reads a label. -/
def read? (ns : List Nat) : Option Label :=
  if asciiSign.isPrefixOf ns then readWritten? ns
  else if !isWide ns then some ⟨ns, ns.map Char.ofNat⟩
  else if isSound ns && ns.length ≤ longest then
    some ⟨ns, asciiSign.map Char.ofNat ++ Punycode.encode ns⟩
  else none

/-! ### Direction -/

/-- The directions of the characters of a label. -/
def directions (label : Label) : List Direction :=
  label.points.map direction

/-- Whether a label holds a character that is written from the right. -/
def hasRight (label : Label) : Bool :=
  label.directions.any ([.right, .arabicNumber].contains ·)

/-- The direction in which a label ends, marks passed over. -/
def lastDirection? (label : Label) : Option Direction :=
  (label.directions.reverse.dropWhile (· = .mark)).head?

/-- Whether a label may stand beside one that is written from the right: it is written in one
direction from its first character to its last. -/
def hasOneDirection (label : Label) : Bool :=
  match label.directions with
  | [] => true
  | .left :: rest =>
    rest.all ([.left, .europeanNumber, .neutral, .mark].contains ·)
      && label.lastDirection?.any ([.left, .europeanNumber].contains ·)
  | .right :: rest =>
    rest.all ([.right, .arabicNumber, .europeanNumber, .neutral, .mark].contains ·)
      && label.lastDirection?.any ([.right, .arabicNumber, .europeanNumber].contains ·)
      && !(rest.contains .arabicNumber && rest.contains .europeanNumber)
  | _ => false

end Label

end XoLedger.Url.Domain
