import XoLedger.Text.HiddenRanges

/-!
# Quoted text

A message that quotes a value shows it between quotes, with the quote and the backslash escaped,
the usual short names for tab, line feed, carriage return and NUL, and every other character
without an image of its own as a hexadecimal number in braces. So a quoted value is one line and
can be told apart from the words around it.
-/

namespace XoLedger.Quoted

/-- The hexadecimal digits of a number, lowercase, without leading zeros. -/
def hexDigits (n : Nat) : List Char :=
  Nat.toDigits 16 n

/-- A character as it stands between the quote characters `quote`. -/
def escape (quote c : Char) : List Char :=
  if c = '\x00' then ['\\', '0']
  else if c = '\t' then ['\\', 't']
  else if c = '\r' then ['\\', 'r']
  else if c = '\n' then ['\\', 'n']
  else if c = quote ∨ c = '\\' then ['\\', c]
  else if hiddenRanges.contains c.toNat then '\\' :: 'u' :: '\x7b' :: hexDigits c.toNat ++ ['\x7d']
  else [c]

/-- A text between double quotes. -/
def text (s : String) : String :=
  String.ofList ('"' :: s.toList.flatMap (escape '"') ++ ['"'])

/-- A character between single quotes. -/
def char (c : Char) : String :=
  String.ofList ('\'' :: escape '\'' c ++ ['\''])

end XoLedger.Quoted
