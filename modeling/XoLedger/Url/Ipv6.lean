import XoLedger.Text.Split
import XoLedger.Url.Ipv4

/-!
# IPv6 addresses

Eight pieces of 16 bits with colons between them. One run of zero pieces may be left out, and the
last two pieces may be written as an IPv4 address. In the written form the longest run of zeros is
left out, if it is longer than one piece.
-/

namespace XoLedger.Url.Ipv6

/-- Whether a character is a hexadecimal digit. -/
def isHexDigit (c : Char) : Bool :=
  Ipv4.digitValue c < 16

/-- The value of one of the four decimal numbers of an embedded IPv4 address. -/
def octet? (cs : List Char) : Option Nat :=
  match Ipv4.number? 10 cs with
  | none => none
  | some n =>
    if cs = [] ∨ (cs.head? = some '0' ∧ cs.length ≠ 1) ∨ 255 < n then none else some n

/-- The two pieces of an embedded IPv4 address. -/
def embedded? (cs : List Char) : Option (List Nat) :=
  match (splitChars '.' cs).mapM octet? with
  | some [a, b, c, d] => some [256 * a + b, 256 * c + d]
  | _ => none

/-- Pieces read so far, and how many of them stand before the run that is left out. -/
structure State where
  /-- The pieces. -/
  pieces : List Nat
  /-- The place of the run. -/
  gap : Option Nat

/-- Leaves out a run after a zero piece. -/
def State.openGap? (s : State) : Option State :=
  match s.gap with
  | some _ => none
  | none => some ⟨s.pieces ++ [0], some (s.pieces.length + 1)⟩

/-- Reads pieces to the end of the text. Each takes a character at least. -/
def readPieces : (budget : Nat) → State → List Char → Option State
  | _, s, [] => some s
  | 0, _, _ => none
  | budget + 1, s, c :: cs =>
    if s.pieces.length = 8 then none
    else if c = ':' then do
      let s ← s.openGap?
      readPieces budget s cs
    else
      let digits := ((c :: cs).take 4).takeWhile isHexDigit
      let rest := (c :: cs).drop digits.length
      let read := digits.foldl (fun n c => 16 * n + Ipv4.digitValue c) 0
      match rest with
      | [] => some { s with pieces := s.pieces ++ [read] }
      | '.' :: _ =>
        if digits = [] ∨ 6 < s.pieces.length then none
        else (embedded? (c :: cs)).map fun two => { s with pieces := s.pieces ++ two }
      | [':'] => none
      | ':' :: rest =>
        if digits = [] then none
        else readPieces budget { s with pieces := s.pieces ++ [read] } rest
      | _ => none

/-- The eight pieces, the run of zeros filled in. -/
def State.finish? (s : State) : Option (List Nat) :=
  match s.gap with
  | none => if s.pieces.length = 8 then some s.pieces else none
  | some gap =>
    some (s.pieces.take gap ++ List.replicate (8 - s.pieces.length) 0 ++ s.pieces.drop gap)

/-- The pieces that a text stands for. -/
def parse? (cs : List Char) : Option (List Nat) := do
  let s ←
    match cs with
    | [] | [_] => none
    | ':' :: ':' :: rest => readPieces rest.length ⟨[0], some 1⟩ rest
    | ':' :: _ => none
    | cs => readPieces cs.length ⟨[], none⟩ cs
  s.finish?

/-! ### Writing -/

/-- The length of the run of zeros at the start. -/
def zeroRun (pieces : List Nat) : Nat :=
  (pieces.takeWhile (· = 0)).length

/-- The start and the length of the longest run of zeros, the first of several. -/
def longestRun (pieces : List Nat) : Nat × Nat :=
  (List.range pieces.length).foldl
    (fun best i =>
      let run := zeroRun (pieces.drop i)
      if best.2 < run then (i, run) else best)
    (0, 0)

/-- Pieces in hexadecimal with colons between them. -/
def piecesText (pieces : List Nat) : String :=
  ":".intercalate (pieces.map fun p => String.ofList (Nat.toDigits 16 p))

/-- The written form of eight pieces. -/
def text (pieces : List Nat) : String :=
  let (start, run) := longestRun pieces
  if run < 2 then piecesText pieces
  else piecesText (pieces.take start) ++ "::" ++ piecesText (pieces.drop (start + run))

end XoLedger.Url.Ipv6
