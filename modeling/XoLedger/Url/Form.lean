import XoLedger.Text.Split
import XoLedger.Url.Percent

/-!
# Queries as pairs

The usual way to put names and values into a query: pairs with ampersands between them, name and
value with an equals sign between them, blanks as plus signs, and everything that could be taken
for any of these encoded. Reading passes over empty pairs, takes a missing value for an empty one
and replaces what is not UTF-8.
-/

namespace XoLedger.Url.Form

/-- Whether an octet stands for itself in a name or a value. -/
def isPlain (b : UInt8) : Bool :=
  (48 ≤ b && b ≤ 57) || (65 ≤ b && b ≤ 90) || (97 ≤ b && b ≤ 122) || Percent.isOneOf "*-._" b

/-- A name or a value as it is written. -/
def encode (s : String) : List Char :=
  (Utf8.encode s).flatMap fun b =>
    if isPlain b then [Char.ofNat b.toNat] else if b = 32 then ['+'] else Percent.octet b

/-- A pair as it is written. -/
def encodePair (pair : String × String) : List Char :=
  encode pair.1 ++ '=' :: encode pair.2

/-- A query with pairs added at its end. -/
def append (query : List Char) : List (String × String) → List Char
  | [] => query
  | pair :: pairs =>
    append ((if query = [] then [] else query ++ ['&']) ++ encodePair pair) pairs

/-- A name or a value as it is read. -/
def decode (cs : List Char) : String :=
  Utf8.decodeLossy (Percent.decode (Utf8.encodeChars (cs.map fun c => if c = '+' then ' ' else c)))

/-- A pair as it is read. -/
def decodePair (cs : List Char) : String × String :=
  (decode (cs.takeWhile (· != '=')), decode ((cs.dropWhile (· != '=')).drop 1))

/-- The pairs of a query. -/
def pairs (query : List Char) : List (String × String) :=
  ((splitChars '&' query).filter (· ≠ [])).map decodePair

end XoLedger.Url.Form
