import XoLedger.Url.Domain
import XoLedger.Url.Ipv6
import XoLedger.Url.Percent

/-!
# Hosts

The host of a URL is a name or an address. Under a special scheme a name is a domain name, decoded
and put into its ASCII form first, and a name that ends in a number has to be an IPv4 address.
Under any other scheme a name is kept as it is written.
-/

namespace XoLedger.Url

/-- A host. -/
inductive Host where
  /-- A name, which may be empty under a scheme that is not special. -/
  | name (cs : List Char)
  /-- An IPv4 address. -/
  | ipv4 (address : Nat)
  /-- An IPv6 address. -/
  | ipv6 (pieces : List Nat)
deriving DecidableEq, Repr

namespace Host

/-- The host without a name. -/
def empty : Host := name []

/-- The written form of a host. -/
def text : Host → List Char
  | name cs => cs
  | ipv4 address => (Ipv4.text address).toList
  | ipv6 pieces => '[' :: (Ipv6.text pieces).toList ++ [']']

/-- Reads an address in brackets, after the opening one. -/
def parseBracketed (cs : List Char) : Except Error Host :=
  if cs.getLast? = some ']' then
    match Ipv6.parse? cs.dropLast with
    | some pieces => .ok (.ipv6 pieces)
    | none => .error .badIpv6
  else .error .badIpv6

/-- Takes a domain name in its ASCII form for a name or for an IPv4 address. -/
def ofDomain (cs : List Char) : Except Error Host :=
  if cs = [] then .error .emptyHost
  else if Ipv4.endsInNumber cs then
    match Ipv4.parse? cs with
    | some address => .ok (.ipv4 address)
    | none => .error .badIpv4
  else .ok (.name cs)

/-- Reads a host under a special scheme. -/
def parseSpecial : List Char → Except Error Host
  | '[' :: rest => parseBracketed rest
  | cs => do
    let ascii ← Domain.toAscii (Percent.decode (Utf8.encodeChars cs))
    ofDomain ascii

/-- Whether a character may not stand in a host under a scheme that is not special. -/
def isForbidden (c : Char) : Bool :=
  c = '\x00' || "\t\n\r #/:<>?@[\\]^|".toList.contains c

/-- Reads a host under a scheme that is not special. -/
def parseGeneral : List Char → Except Error Host
  | '[' :: rest => parseBracketed rest
  | cs =>
    if cs.any isForbidden then .error .badHostCharacter
    else .ok (.name (Percent.encode Percent.isControl cs))

end Host

end XoLedger.Url
