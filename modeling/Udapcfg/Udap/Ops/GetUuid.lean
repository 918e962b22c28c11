import Udapcfg.Udap.Ops.Reply

/-!
# `get_uuid`

`ops/getuuid.rs`: a device's 16-byte UUID as lowercase hex.
-/

namespace Udap

open Infra

namespace GetUuid

def tlvUuid : UInt8 := 0x0d
def uuidLen : Nat := 16

/-- `getuuid::parse_response`. A UUID of the wrong length is none. -/
def parseResponse (data : Bytes) : Except OpError String :=
  match (Tlv.decode data).find? (fun entry => entry.tag = tlvUuid ∧ entry.value.length = uuidLen)
  with
  | some entry => .ok (Hex.encode entry.value)
  | none => .error .missingUuid

end GetUuid

variable {σ : Type} (T : Transport σ)

/-- What `get_uuid` makes of the reply. -/
def getUuidReply (device : Device) (reply : Packet) (payload : Bytes) : Except OpError String :=
  if reply.ucpMethod = Method.getUuid then GetUuid.parseResponse payload
  else .error (replyError device reply payload)

/-- `get_uuid`. -/
def getUuid (device : Device) (s : Session σ) : Except OpError String × Session σ :=
  if device.mac.isZero then (.error (.zeroMac "GetUUID"), s)
  else
    match s.request T device Method.getUuid (.ok []) with
    | (.error e, s) => (.error e, s)
    | (.ok (reply, payload), s) => (getUuidReply device reply payload, s)

end Udap
