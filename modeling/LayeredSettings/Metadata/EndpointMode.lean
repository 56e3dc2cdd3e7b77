import LayeredSettings.Text.Letter

/-
  This file defines the endpoint modes of the instance
  metadata service.

  Key definitions include:
    * `EndpointMode`
    * `EndpointMode.name`
    * `EndpointMode.endpoint`
    * `EndpointMode.ofName`
    * `UnknownEndpointMode`

  A mode is read by its name, in any ASCII letter case.
-/

namespace LayeredSettings

/- The version of the protocol that reaches the service. -/
inductive EndpointMode where
  | ipv4
  | ipv6
  deriving DecidableEq, Repr

namespace EndpointMode

/- The name of a mode. -/
def name : EndpointMode → String
| .ipv4 => "IPv4"
| .ipv6 => "IPv6"

/- The endpoint of a mode if no other is configured. -/
def endpoint : EndpointMode → String
| .ipv4 => "http://169.254.169.254"
| .ipv6 => "http://[fd00:ec2::254]"

end EndpointMode

/- A text that names no endpoint mode. -/
structure UnknownEndpointMode where
  token : String
  deriving DecidableEq, Repr

/- The wording of an unknown endpoint mode. -/
def UnknownEndpointMode.message
    (e : UnknownEndpointMode) : String :=
  "`" ++ e.token ++
    "` is not a valid endpoint mode. " ++
    "Valid values are [`IPv4`, `IPv6`]"

/- The mode with a name, up to letter case. -/
def EndpointMode.ofName
    (s : String) : Except UnknownEndpointMode EndpointMode :=
  if Text.equalIgnoringCase s "ipv4" then .ok .ipv4
  else if Text.equalIgnoringCase s "ipv6" then .ok .ipv6
  else .error ⟨s⟩

end LayeredSettings
