/-!
# Why a text is no URL
-/

namespace ServiceProbe

/-- Why a text is no URL. -/
inductive UrlFault where
  | noScheme | emptyHost | badPort | badIpv4 | badIpv6
  /-- A character that no domain name has. -/
  | badDomain
  /-- A character that no host has where any scheme is allowed. -/
  | badHostCharacter
deriving DecidableEq

def UrlFault.message : UrlFault → String
  | .noScheme => "relative URL without a base"
  | .emptyHost => "empty host"
  | .badPort => "invalid port number"
  | .badIpv4 => "invalid IPv4 address"
  | .badIpv6 => "invalid IPv6 address"
  | .badDomain => "invalid international domain name"
  | .badHostCharacter => "invalid domain character"

end ServiceProbe
