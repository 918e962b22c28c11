import Udapcfg.Udap.Device
import Udapcfg.Udap.Protocol

/-!
# Virtual devices

`mocksbr/device.rs`: the configuration of one virtual Squeezebox Receiver, fault injection included.
-/

namespace Mocksbr

open Infra Udap

/-- `Op`: a UDAP operation, for the failure knobs. -/
inductive Op where
  | discover
  | get
  | set
  | save
  | reset
  | getIp
  | getUuid
deriving DecidableEq

namespace Op

/-- `from_method`. A set and a save are one wire method, reported as `set`. -/
def fromMethod (method : UInt16) : Option Op :=
  if method = Method.advDisc then some discover
  else if method = Method.getData then some get
  else if method = Method.setData then some set
  else if method = Method.reset then some reset
  else if method = Method.getIp then some getIp
  else if method = Method.getUuid then some getUuid
  else none

/-- `as_str`. -/
def asStr : Op → String
  | discover => "discover"
  | get => "get"
  | set => "set"
  | save => "save"
  | reset => "reset"
  | getIp => "getip"
  | getUuid => "getuuid"

end Op

/-- `Malformed`: a deliberately broken `get_data` reply. -/
inductive Malformed where
  | none
  | oversizedCount
  | lengthExceedsPayload
  | unknownMethod
deriving DecidableEq

/-- `DeviceConfig`. The delay is in nanoseconds. -/
structure DeviceConfig where
  mac : Mac
  name : String
  model : String
  deviceId : String
  firmware : String
  hardware : String
  state : String
  ip : Ipv4Addr
  subnetMask : Ipv4Addr
  gateway : Ipv4Addr
  uuid : Octets 16
  failOn : List Op
  failMessage : Option String
  unreachable : Bool
  dropGetIp : Bool
  dropGetUuid : Bool
  malformed : Malformed
  nvram : Params
  slow : Nat
deriving DecidableEq

namespace DeviceConfig

/-- `fails_on`. Naming either of `set` and `save` rejects both. -/
def failsOn (cfg : DeviceConfig) (op : Op) : Bool :=
  cfg.failOn.any fun configured =>
    configured = op || (op = .set && configured = .save) || (op = .save && configured = .set)

/-- `default_with_mac`. -/
def defaultWithMac (mac : Mac) : DeviceConfig where
  mac := mac
  name := "Mock SBR"
  model := "squeezebox"
  deviceId := "07"
  firmware := "77"
  hardware := "0005"
  state := "wait_slimserver"
  ip := ⟨0, 0, 0, 0⟩
  subnetMask := ⟨0, 0, 0, 0⟩
  gateway := ⟨0, 0, 0, 0⟩
  uuid := ⟨[0x01, 0x23, 0x45, 0x67, 0x89, 0xab, 0xcd, 0xef,
    0xfe, 0xdc, 0xba, 0x98, 0x76, 0x54, 0x32, 0x10], rfl⟩
  failOn := []
  failMessage := none
  unreachable := false
  dropGetIp := false
  dropGetUuid := false
  malformed := .none
  nvram := OrdMap.empty
  slow := 0

/-- A device with no fault configured. -/
structure FaultFree (cfg : DeviceConfig) : Prop where
  failOn : cfg.failOn = []
  unreachable : cfg.unreachable = false
  dropGetIp : cfg.dropGetIp = false
  dropGetUuid : cfg.dropGetUuid = false
  malformed : cfg.malformed = .none
  slow : cfg.slow = 0

theorem faultFree_defaultWithMac (mac : Mac) : (defaultWithMac mac).FaultFree :=
  ⟨rfl, rfl, rfl, rfl, rfl, rfl⟩

theorem FaultFree.failsOn {cfg : DeviceConfig} (h : cfg.FaultFree) (op : Op) :
    cfg.failsOn op = false := by
  rw [DeviceConfig.failsOn, h.failOn]
  rfl

end DeviceConfig

end Mocksbr
