import Udapcfg.Udap.Ops.GetIp
import Udapcfg.Udap.Udp

/-!
# How a network configuration is printed

`netconfig.rs`: what the answer to `get_ip` looks like as a text.
-/

namespace Udap

open Infra

/-- `Ipv4Addr::is_unspecified`. -/
def isUnspecified (ip : Ipv4Addr) : Bool := ip = ⟨0, 0, 0, 0⟩

/-- `or_dash`. -/
def orDash : Option Ipv4Addr → String
  | some ip => if isUnspecified ip then "-" else ipText ip
  | none => "-"

/-- `Display` of a `NetworkConfig`. -/
def NetworkConfig.display (config : NetworkConfig) : String :=
  "IP:      " ++ orDash config.ip ++ "\nSubnet:  " ++ orDash config.subnetMask ++ "\nGateway: "
    ++ orDash config.gateway

end Udap
