/-!
# Arithmetic to a modulus

Sums and products need no functions of their own. What does is subtraction, which must not stop at
zero, powers, and the inverse, found by the extended form of Euclid's algorithm.
-/

namespace XoLedger.Modular

/-- The difference of `a` and `b` to the modulus `m`. -/
def sub (m a b : Nat) : Nat :=
  (a + (m - b % m)) % m

/-- The `e`-th power of `a` to the modulus `m`, by squaring. -/
def power (m a e : Nat) : Nat :=
  if e = 0 then 1 % m
  else
    let h := power m (a * a % m) (e / 2)
    if e % 2 = 1 then a * h % m else h
termination_by e

/-- Runs Euclid's algorithm on `r` and `r'`. The coefficients say how often the number that was
started from goes into each remainder; the one that belongs to the last remainder is the result. -/
def euclid (r : Nat) (s : Int) (r' : Nat) (s' : Int) : Int :=
  if r = 0 then s' else euclid (r' % r) (s' - (r' / r : Nat) * s) r s
termination_by r
decreasing_by exact Nat.mod_lt _ (by omega)

/-- The inverse of `a` to the modulus `m`, if the two have no common factor. -/
def inverse (m a : Nat) : Nat :=
  (euclid (a % m) 1 m 0 % (m : Int)).toNat

end XoLedger.Modular
