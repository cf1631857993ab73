/-!
# Reasons why a text is no URL
-/

namespace LinkedCharts.Url

/-- Why a text cannot be read as a URL. -/
inductive Failure
  | emptyHost
  | internationalName
  | port
  | ipv4
  | ipv6
  | hostCharacter
  | relativeWithoutBase
  | relativeToOpaque
deriving DecidableEq

/-- The reason in words. -/
def Failure.message : Failure → String
  | .emptyHost => "empty host"
  | .internationalName => "invalid international domain name"
  | .port => "invalid port number"
  | .ipv4 => "invalid IPv4 address"
  | .ipv6 => "invalid IPv6 address"
  | .hostCharacter => "invalid domain character"
  | .relativeWithoutBase => "relative URL without a base"
  | .relativeToOpaque => "relative URL with a cannot-be-a-base base"

end LinkedCharts.Url
