import Udapcfg.Udap.Session
import Udapcfg.Udap.Tlv

/-!
# Replies that are not a success

`ops/mod.rs`: the error TLV, and the switch that `set`, `get_ip` and `get_uuid` share.
-/

namespace Udap

open Infra

/-- `TLV_ERROR_MESSAGE`. -/
def tlvErrorMessage : UInt8 := 0x03

/-- The value of the first error-message entry. -/
def errorMessage (payload : Bytes) : Option Bytes :=
  ((Tlv.decode payload).find? (fun entry => entry.tag = tlvErrorMessage)).map Tlv.value

/-- `reply_error`. -/
def replyError (device : Device) (packet : Packet) (payload : Bytes) : OpError :=
  let mac := device.mac.format
  if packet.ucpMethod = Method.error then
    match errorMessage payload with
    | some value => .device mac (fromUtf8Lossy value)
    | none => .deviceNoMessage mac
  else if packet.ucpMethod = Method.credentialsError then .credentialsRejected mac
  else .unexpectedMethod mac packet.ucpMethod

end Udap
