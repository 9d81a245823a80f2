/-!
# The shortest decimal of a binary fraction

A positive binary64 number stands for all reals that round to it. Of the decimals in that interval
the one with the fewest digits is taken, of several the nearest, and of two that are as near the
even one. The search tries ever finer decimal grids and looks, on each, at the two neighbours of
the number; it works on integers throughout.
-/

namespace XoLedger

/-- A positive decimal: `digits` times ten to the power `exponent`. -/
structure Decimal where
  /-- The digits as one number. -/
  digits : Nat
  /-- The power of ten of the last digit. -/
  exponent : Int
deriving DecidableEq, Repr

namespace Decimal

/-- A positive binary64 number with the interval of reals that round to it. All three numbers
count units of two to the power `unit`. -/
structure Interval where
  /-- The lower end. -/
  low : Nat
  /-- The number. -/
  middle : Nat
  /-- The upper end. -/
  high : Nat
  /-- The power of two of the unit. -/
  unit : Int
  /-- Whether the ends belong to the interval. -/
  closed : Bool

/-- The interval of the number with these bits, the sign left out. Where the exponent steps up,
the gap below the number is half the gap above it. -/
def Interval.ofBits (bits : Nat) : Interval :=
  let fraction : Nat := bits % Nat.pow 2 52
  let biased : Nat := bits / Nat.pow 2 52 % Nat.pow 2 11
  let m : Nat := if biased = 0 then fraction else fraction + Nat.pow 2 52
  let q : Int := (if biased = 0 then 1 else (biased : Int)) - 1075
  { low := if fraction = 0 ∧ 1 < biased then 4 * m - 1 else 4 * m - 2
    middle := 4 * m
    high := 4 * m + 2
    unit := q - 2
    closed := decide (m % 2 = 0) }

/-- `n` units of two to the power `unit`, divided by ten to the power `k`, as a fraction. -/
def scaled (n : Nat) (unit k : Int) : Nat × Nat :=
  (n * Nat.pow 2 unit.toNat * Nat.pow 10 (-k).toNat,
    Nat.pow 2 (-unit).toNat * Nat.pow 10 k.toNat)

/-- Whether `d` times ten to the power `k` lies in the interval. -/
def Interval.holds (i : Interval) (d : Nat) (k : Int) : Bool :=
  let (low, den) := scaled i.low i.unit k
  let (high, _) := scaled i.high i.unit k
  if i.closed then low ≤ d * den ∧ d * den ≤ high else low < d * den ∧ d * den < high

/-- The decimal on the grid of ten to the power `k` that is nearest to the number among those in
the interval, if there is one; of two that are as near the even one. -/
def Interval.onGrid? (i : Interval) (k : Int) : Option Nat :=
  let (num, den) := scaled i.middle i.unit k
  let below := num / den
  let above := below + 1
  match i.holds below k && decide (0 < below), i.holds above k with
  | true, true =>
    let down := num - below * den
    let up := above * den - num
    some (if down < up ∨ down = up ∧ below % 2 = 0 then below else above)
  | true, false => some below
  | false, true => some above
  | false, false => none

/-- Tries the grids from the power `k` downwards. -/
def Interval.search (i : Interval) : (tries : Nat) → (k : Int) → Decimal
  | 0, k => ⟨0, k⟩
  | tries + 1, k =>
    match i.onGrid? k with
    | some d => ⟨d, k⟩
    | none => i.search tries (k - 1)

/-- The shortest decimal of the positive number with these bits. Numbers lie between the powers
-324 and 308, and seventeen digits tell any two apart. -/
def shortest (bits : Nat) : Decimal :=
  (Interval.ofBits bits).search 660 309

/-! ### Text -/

/-- The text of a decimal: positional where the leading digit stands for a power of ten between
-5 and 15, with a point and a digit after it at least, and otherwise with a signed exponent. -/
def text (d : Decimal) : String :=
  let ds := Nat.toDigits 10 d.digits
  let lead : Int := d.exponent + (ds.length : Int) - 1
  let zeros (n : Nat) := List.replicate n '0'
  let chars : List Char :=
    if lead < -5 ∨ 15 < lead then
      let fraction := ds.drop 1
      let sign := if lead < 0 then '-' else '+'
      ds.take 1 ++ (if fraction = [] then [] else '.' :: fraction) ++ 'e' :: sign ::
        Nat.toDigits 10 lead.natAbs
    else if 0 ≤ d.exponent then ds ++ zeros d.exponent.toNat ++ ['.', '0']
    else if 0 ≤ lead then ds.take (lead.toNat + 1) ++ '.' :: ds.drop (lead.toNat + 1)
    else '0' :: '.' :: zeros (-lead - 1).toNat ++ ds
  String.ofList chars

/-- The text of a finite binary64 number: the shortest decimal that reads back. -/
def floatText (f : Float) : String :=
  let bits := f.toBits.toNat
  let sign := if Nat.pow 2 63 ≤ bits then "-" else ""
  let magnitude := bits % Nat.pow 2 63
  sign ++ if magnitude = 0 then "0.0" else (shortest magnitude).text

end Decimal

end XoLedger
