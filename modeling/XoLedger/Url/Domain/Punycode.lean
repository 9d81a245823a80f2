/-!
# Punycode

A label that holds characters beyond ASCII is written in ASCII: first its ASCII characters in
order, then a hyphen, then for each other character, in the order of their code points, how many
states of a decoder lie between the one before and it. The decoder stands at a place of the text
and at a code point, and moves to the next place, or past the last one to the next code point.
A count is written in digits of base 36 whose last one is known by a threshold, and the thresholds
follow the size of the counts before.
-/

namespace XoLedger.Url.Domain.Punycode

/-! ### Digits and thresholds -/

/-- The digit of a number below 36: letters, then decimal digits. -/
def digit (n : Nat) : Char :=
  if n < 26 then Char.ofNat (97 + n) else Char.ofNat (22 + n)

/-- The value of a digit. -/
def value? (c : Char) : Option Nat :=
  if 'a' ≤ c ∧ c ≤ 'z' then some (c.toNat - 97)
  else if '0' ≤ c ∧ c ≤ '9' then some (c.toNat - 22)
  else none

/-- The threshold of the digit at a position, which counts in steps of 36. -/
def threshold (bias position : Nat) : Nat :=
  min 26 (max 1 (position - bias))

/-- Takes digits off a large count and adds a step for each. -/
def shrink (delta steps : Nat) : Nat × Nat :=
  if 455 < delta then shrink (delta / 35) (steps + 36) else (delta, steps)
termination_by delta
decreasing_by exact Nat.div_lt_self (by omega) (by omega)

/-- The bias after a count, when `points` characters are in place. -/
def adapt (delta points : Nat) (isFirst : Bool) : Nat :=
  let scaled := if isFirst then delta / 700 else delta / 2
  let (rest, steps) := shrink (scaled + scaled / points) 0
  steps + 36 * rest / (rest + 38)

/-- The bias before the first count. -/
def firstBias : Nat := 72

/-- The first code point beyond ASCII. -/
def firstPoint : Nat := 128

/-! ### Writing -/

/-- The digits of a count. -/
def writeCount (bias position count : Nat) : List Char :=
  let t := threshold bias position
  if count < t then [digit count]
  else digit (t + (count - t) % (36 - t)) :: writeCount bias (position + 36) ((count - t) / (36 - t))
termination_by count
decreasing_by
  have h : 1 ≤ threshold bias position := by unfold threshold; omega
  have : (count - threshold bias position) / (36 - threshold bias position)
      ≤ count - threshold bias position := Nat.div_le_self _ _
  omega

/-- The state of a writer: what is written, the count so far, the bias, and how many characters
are in place. -/
structure Writer where
  /-- What is written. -/
  text : List Char
  /-- The states that lie between the last character and the present place. -/
  count : Nat
  /-- The bias of the next count. -/
  bias : Nat
  /-- How many characters are in place. -/
  placed : Nat

/-- Passes a character of the label while the code point `point` is written; `basic` is the number
of ASCII characters. -/
def Writer.pass (basic point : Nat) (w : Writer) (n : Nat) : Writer :=
  if n < point then { w with count := w.count + 1 }
  else if n = point then
    { text := w.text ++ writeCount w.bias 36 w.count, count := 0,
      bias := adapt w.count (w.placed + 1) (w.placed = basic), placed := w.placed + 1 }
  else w

/-- Writes the code points in ascending order; `next` is the first one that is not passed yet. -/
def writePoints (label : List Nat) (basic : Nat) : List Nat → Nat → Writer → Writer
  | [], _, w => w
  | point :: rest, next, w =>
    let reached := { w with count := w.count + (point - next) * (w.placed + 1) }
    let written := label.foldl (Writer.pass basic point) reached
    writePoints label basic rest (point + 1) { written with count := written.count + 1 }

/-- Puts a number into an ascending list that does not hold it. -/
def insert (n : Nat) : List Nat → List Nat
  | [] => [n]
  | m :: rest =>
    if n < m then n :: m :: rest else if n = m then m :: rest else m :: insert n rest

/-- The written form of a label. -/
def encode (label : List Nat) : List Char :=
  let basic := label.filter (· < firstPoint)
  let points := (label.filter (firstPoint ≤ ·)).foldr insert []
  let start : Writer := ⟨[], 0, firstBias, basic.length⟩
  basic.map Char.ofNat ++ (if basic = [] then [] else ['-'])
    ++ (writePoints label basic.length points firstPoint start).text

/-! ### Reading -/

/-- Reads the digits of a count; gives what is left after them. -/
def readCount? (bias position weight count : Nat) : List Char → Option (Nat × List Char)
  | [] => none
  | c :: rest =>
    match value? c with
    | none => none
    | some d =>
      let t := threshold bias position
      if d < t then some (count + d * weight, rest)
      else readCount? bias (position + 36) (weight * (36 - t)) (count + d * weight) rest

/-- Reading a count uses up a digit. -/
theorem length_readCount? {bias position weight count : Nat} {cs : List Char}
    {r : Nat × List Char} (h : readCount? bias position weight count cs = some r) :
    r.2.length < cs.length := by
  induction cs generalizing position weight count with
  | nil => simp [readCount?] at h
  | cons c rest ih =>
    rw [readCount?] at h
    split at h
    · simp at h
    · dsimp only at h
      split at h
      · cases h
        simp
      · exact Nat.lt_succ_of_lt (ih h)

/-- Whether a number is the code point of a character. -/
def isPoint (n : Nat) : Bool :=
  n < 0xD800 || (0xDFFF < n && n < 0x110000)

/-- Puts the characters that are left into their places; the next one is counted from the place
`place` and the code point `point`. -/
def readPoints? (bias point place : Nat) (label : List Nat) (cs : List Char) : Option (List Nat) :=
  match cs with
  | [] => some label
  | c :: rest =>
    match h : readCount? bias 36 1 0 (c :: rest) with
    | none => none
    | some (count, left) =>
      let points := label.length + 1
      let found := point + (place + count) / points
      let spot := (place + count) % points
      if isPoint found then
        readPoints? (adapt count points (place = 0)) found (spot + 1)
          (label.insertIdx spot found) left
      else none
termination_by cs.length
decreasing_by simpa using length_readCount? h

/-- The label that is written as `cs`. A hyphen at the start is no mark between the two parts. -/
def decode? (cs : List Char) : Option (List Nat) :=
  let tail := (cs.reverse.takeWhile (· ≠ '-')).reverse
  let basic := (cs.take (cs.length - tail.length)).dropLast
  readPoints? firstBias firstPoint 0 (basic.map (·.toNat)) (if basic = [] then cs else tail)

end XoLedger.Url.Domain.Punycode
