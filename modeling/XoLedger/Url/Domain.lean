import XoLedger.Text.Split
import XoLedger.Text.Utf8
import XoLedger.Url.Domain.Image
import XoLedger.Url.Domain.Label
import XoLedger.Url.Error

/-!
# Domain names

A domain name is compared in lowercase ASCII, label by label, whatever the script it is written
in. Characters with a meaning of their own in a URL may not stand in one.
-/

namespace XoLedger.Url.Domain

/-- Whether a character may not stand in a domain name. -/
def isForbidden (c : Char) : Bool :=
  c.toNat ≤ 32 || c.toNat = 127 || "%#/:<>?@[\\]^|".toList.contains c

/-- Whether the labels of a name agree in direction. -/
def directionsAgree (labels : List Label) : Bool :=
  !labels.any Label.hasRight || labels.all Label.hasOneDirection

/-- The labels of a name. -/
def labels? (cs : List Char) : Option (List Label) :=
  match image cs with
  | none => none
  | some ns => (splitChars '.' (ns.map Char.ofNat)).mapM fun part => Label.read? (part.map (·.toNat))

/-- The form of a name in lowercase ASCII. -/
def toAscii (octets : Bytes) : Except Error (List Char) :=
  match Utf8.decodeChars octets with
  | .error _ => .error .badDomain
  | .ok cs =>
    match labels? cs with
    | none => .error .badDomain
    | some labels =>
      let ascii := joinChars '.' (labels.map Label.ascii)
      if ascii.any isForbidden || !directionsAgree labels then .error .badDomain else .ok ascii

end XoLedger.Url.Domain
