/-!
# Why a text is no URI

- `UriError`: the causes.
- `UriError.message`: how each is worded.
-/

namespace SessionGate

/-- Why a text is no URI. -/
inductive UriError where
  | noScheme
  | emptyHost
  | badService
  | badIpv4
  | badIpv6
  | badHostCharacter
  | badDomain
  deriving DecidableEq

namespace UriError

/-- The wording of a cause. -/
def message : UriError → String
  | noScheme => "relative URL without a base"
  | emptyHost => "empty host"
  | badService => "invalid port number"
  | badIpv4 => "invalid IPv4 address"
  | badIpv6 => "invalid IPv6 address"
  | badHostCharacter => "invalid domain character"
  | badDomain => "invalid international domain name"

end UriError

end SessionGate
