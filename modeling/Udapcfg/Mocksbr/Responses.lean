import Udapcfg.Mocksbr.Device
import Udapcfg.Mocksbr.State
import Udapcfg.Mocksbr.Wire
import Udapcfg.Udap.Tlv

/-!
# Reply builders

`mocksbr/responses.rs`: the header of a reply and the body of each kind.
-/

namespace Mocksbr

open Infra Udap

/-- `UNRECOGNISED_METHOD`. -/
def unrecognisedMethod : UInt16 := 0x9999

/-- `build_header`: addresses swapped, sequence echoed, request bit cleared. -/
def buildHeader (request : Packet) (cfg : DeviceConfig) (method : UInt16) : Packet where
  dstBroadcast := 0
  dstType := addrTypeEth
  dstAddress := request.srcAddress
  srcBroadcast := 0
  srcType := addrTypeEth
  srcAddress := cfg.mac
  sequence := request.sequence
  udapType := udapTypeUcp
  ucpFlags := 0x00
  uapClass := uapClassUcp
  ucpMethod := method

/-- `discovery_response`. -/
def discoveryResponse (request : Packet) (cfg : DeviceConfig) : Bytes :=
  (buildHeader request cfg request.ucpMethod).toBytes ++
    (Tlv.encode 0x0c (strBytes cfg.state) ++ (Tlv.encode 0x0b (strBytes cfg.deviceId) ++
      (Tlv.encode 0x0a (strBytes cfg.hardware) ++ (Tlv.encode 0x09 (strBytes cfg.firmware) ++
        (Tlv.encode 0x03 (strBytes cfg.model) ++ Tlv.encode 0x02 (strBytes cfg.name))))))

/-- `get_ip_response`. -/
def getIpResponse (request : Packet) (cfg : DeviceConfig) : Bytes :=
  (buildHeader request cfg request.ucpMethod).toBytes ++
    (Tlv.encode 0x05 cfg.ip.octets ++ (Tlv.encode 0x06 cfg.subnetMask.octets ++
      Tlv.encode 0x07 cfg.gateway.octets))

/-- `get_uuid_response`. -/
def getUuidResponse (request : Packet) (cfg : DeviceConfig) : Bytes :=
  (buildHeader request cfg request.ucpMethod).toBytes ++ Tlv.encode 0x0d cfg.uuid.toList

/-- The walk over the offsets a `get_data` request asks for. The requested lengths are ignored. -/
def getDataLoop (state : DeviceState) (payload : Bytes) : Nat → Nat → List Item
  | 0, _ => []
  | n + 1, pos =>
    if payload.length < pos + 4 then []
    else
      let offset := u16At payload pos
      match byOffset offset with
      | none => getDataLoop state payload n (pos + 4)
      | some param =>
        match param.encode ((state.get param.name).getD []) with
        -- a stored value that does not encode is left out
        | .error _ => getDataLoop state payload n (pos + 4)
        | .ok encoded => (offset, encoded) :: getDataLoop state payload n (pos + 4)

/-- The items of a `get_data` response. -/
def getDataItems (state : DeviceState) (payload : Bytes) : List Item :=
  if credentialFields + 2 ≤ payload.length then
    getDataLoop state payload (u16At payload credentialFields).toNat (credentialFields + 2)
  else []

/-- `get_data_response`. -/
def getDataResponse (request : Packet) (cfg : DeviceConfig) (state : DeviceState)
    (payload : Bytes) : Bytes :=
  let method := if cfg.malformed = .unknownMethod then unrecognisedMethod else request.ucpMethod
  (buildHeader request cfg method).toBytes ++
    match cfg.malformed with
    | .oversizedCount => u16ToBe 0xFFFF
    | .lengthExceedsPayload => u16ToBe 1 ++ (u16ToBe 0 ++ u16ToBe 1000)
    | .none | .unknownMethod =>
      let items := getDataItems state payload
      u16ToBe (u16OrMax items.length) ++ encodeItems items

/-- `reset_response`. -/
def resetResponse (request : Packet) (cfg : DeviceConfig) : Bytes :=
  (buildHeader request cfg request.ucpMethod).toBytes

/-- `error_response`. An empty message sends no entry at all. -/
def errorResponse (request : Packet) (cfg : DeviceConfig) (message : String) : Bytes :=
  (buildHeader request cfg Method.error).toBytes ++
    if message = "" then [] else Tlv.encode 0x03 (strBytes message)

/-- `set_data_response`. -/
def setDataResponse (request : Packet) (cfg : DeviceConfig) (accepted : UInt16) : Bytes :=
  (buildHeader request cfg request.ucpMethod).toBytes ++ u16ToBe accepted

end Mocksbr
