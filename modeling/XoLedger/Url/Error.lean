/-!
# URL errors

Why a text is not an absolute URL.
-/

namespace XoLedger.Url

/-- Why a text is not an absolute URL. -/
inductive Error where
  /-- There is no scheme. -/
  | relative
  /-- The host is empty where there has to be one. -/
  | emptyHost
  /-- The domain name has no form in ASCII. -/
  | badDomain
  /-- The port is no number below 65536. -/
  | badPort
  /-- The host looks like an IPv4 address and is none. -/
  | badIpv4
  /-- The host stands in brackets and is no IPv6 address. -/
  | badIpv6
  /-- The host holds a character that no host may hold. -/
  | badHostCharacter
deriving DecidableEq, Repr

/-- The wording of a URL error. -/
def Error.message : Error → String
  | relative => "relative URL without a base"
  | emptyHost => "empty host"
  | badDomain => "invalid international domain name"
  | badPort => "invalid port number"
  | badIpv4 => "invalid IPv4 address"
  | badIpv6 => "invalid IPv6 address"
  | badHostCharacter => "invalid domain character"

end XoLedger.Url
