/-!
# Fixed width

A text is filled up to a width counted in characters, or cut down to it. A text that is already
wide enough stays as it is. Of an odd filling the larger half goes to the right.
-/

namespace XoLedger.Padding

/-- `n` copies of the filling character. -/
def filling (c : Char) (n : Nat) : String :=
  String.ofList (List.replicate n c)

/-- The text followed by blanks. -/
def left (width : Nat) (s : String) : String :=
  s ++ filling ' ' (width - s.length)

/-- The text preceded by blanks. -/
def right (width : Nat) (s : String) : String :=
  filling ' ' (width - s.length) ++ s

/-- The text between two fillings of `c`. -/
def center (c : Char) (width : Nat) (s : String) : String :=
  let missing := width - s.length
  filling c (missing / 2) ++ s ++ filling c (missing - missing / 2)

/-- The first `width` characters of the text. -/
def cut (width : Nat) (s : String) : String :=
  String.ofList (s.toList.take width)

end XoLedger.Padding
