import Udapcfg.Infra.Utf8
import Udapcfg.Udap.GetData
import Udapcfg.Udap.Mac

/-!
# Discovered devices

`device.rs`: what discovery found, plus the NVRAM values most recently read. Fields that carry raw
device bytes are bytes; the others are text we made ourselves.
-/

namespace Udap

open Infra

/-- `Device`. `parameters` is the output of `getAll`, the cache of `set`, and the record of what is
persisted. -/
structure Device where
  mac : Mac
  ip : String
  name : Bytes
  model : String
  firmware : Bytes
  hardwareRev : Bytes
  uuid : String
  state : Bytes
  parameters : Params
deriving DecidableEq

/-- `Device::default()`. -/
def Device.default : Device where
  mac := Mac.zero
  ip := ""
  name := []
  model := ""
  firmware := []
  hardwareRev := []
  uuid := ""
  state := []
  parameters := OrdMap.empty

/-- `PRODUCT_BY_ID`. -/
def productById : List (String × String) := [
  ("02", "Squeezebox 2"),
  ("03", "Squeezebox 3"),
  ("04", "Transporter"),
  ("05", "SoftSqueeze"),
  ("06", "Squeezebox Boom"),
  ("07", "Squeezebox Receiver"),
  ("08", "Squeezebox Touch"),
  ("09", "Squeezebox Radio"),
  ("0a", "Squeezebox Controller"),
  ("0b", "Squeezeslave")]

/-- `combine_model`: a product name, or what the device says of itself. -/
def combineModel (deviceType deviceId : Bytes) : String :=
  let deviceId := fromUtf8Lossy deviceId
  match productById.find? (fun row => row.1 = deviceId) with
  | some (_, product) => product
  | none =>
    let deviceType := fromUtf8Lossy deviceType
    match deviceType.isEmpty, deviceId.isEmpty with
    | false, false => deviceType ++ " (id=" ++ deviceId ++ ")"
    | false, true => deviceType
    | true, _ => ""

/-- A handle that knows the MAC of its device and nothing else. -/
def Device.withMac (mac : Mac) : Device := { Device.default with mac := mac }

end Udap
