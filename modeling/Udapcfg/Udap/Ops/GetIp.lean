import Udapcfg.Udap.Ops.Reply

/-!
# `get_ip`

`ops/getip.rs` and `netconfig.rs`: a device's active network configuration.
-/

namespace Udap

open Infra

/-- `NetworkConfig`. Devices may leave any field out. -/
structure NetworkConfig where
  ip : Option Ipv4Addr
  subnetMask : Option Ipv4Addr
  gateway : Option Ipv4Addr
deriving DecidableEq

namespace GetIp

def tlvIpAddr : UInt8 := 0x05
def tlvSubnetMask : UInt8 := 0x06
def tlvGatewayAddr : UInt8 := 0x07

/-- One round of `parse_response`: only four-byte values are addresses. -/
def applyEntry (config : NetworkConfig) (entry : Tlv) : NetworkConfig :=
  match entry.value with
  | [a, b, c, d] =>
    let addr : Ipv4Addr := ⟨a, b, c, d⟩
    if entry.tag = tlvIpAddr then { config with ip := some addr }
    else if entry.tag = tlvSubnetMask then { config with subnetMask := some addr }
    else if entry.tag = tlvGatewayAddr then { config with gateway := some addr }
    else config
  | _ => config

/-- `getip::parse_response`. -/
def parseResponse (data : Bytes) : NetworkConfig :=
  (Tlv.decode data).foldl applyEntry ⟨none, none, none⟩

end GetIp

variable {σ : Type} (T : Transport σ)

/-- What `get_ip` makes of the reply. -/
def getIpReply (device : Device) (reply : Packet) (payload : Bytes) :
    Except OpError NetworkConfig :=
  if reply.ucpMethod = Method.getIp then .ok (GetIp.parseResponse payload)
  else .error (replyError device reply payload)

/-- `get_ip`. -/
def getIp (device : Device) (s : Session σ) : Except OpError NetworkConfig × Session σ :=
  if device.mac.isZero then (.error (.zeroMac "GetIP"), s)
  else
    match s.request T device Method.getIp (.ok []) with
    | (.error e, s) => (.error e, s)
    | (.ok (reply, payload), s) => (getIpReply device reply payload, s)

end Udap
