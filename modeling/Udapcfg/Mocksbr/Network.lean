import Udapcfg.Mocksbr.Responses

/-!
# A network of virtual devices

`mocksbr/network.rs`: a request goes to every device in turn. Discovery is answered by all, the
directed operations by the device they name.
-/

namespace Mocksbr

open Infra Udap

/-- `ScheduledReply`: a reply and how long the device takes to send it. -/
structure ScheduledReply where
  bytes : Bytes
  src : String
  delay : Nat
deriving DecidableEq

/-- `Network`. The states are indexed in step with the devices. -/
structure Network where
  devices : List DeviceConfig
  state : List DeviceState
  aligned : state.length = devices.length
deriving DecidableEq

/-! ## One device -/

/-- The map a `set_data` request updates working memory with. -/
def setDataUpdates (items : List SetDataItem) : Params :=
  OrdMap.empty.insertAll
    (items.filterMap fun item => item.name.map fun name => (name, decodeParamValue item.value))

/-- The reply of the dispatch on the method, and the state after it. -/
def dispatch (request : Packet) (payload : Bytes) (cfg : DeviceConfig) (state : DeviceState) :
    Option Bytes × DeviceState :=
  let method := request.ucpMethod
  if method = Method.advDisc then (some (discoveryResponse request cfg), state)
  else if method = Method.getIp ∧ cfg.dropGetIp then (none, state)
  else if method = Method.getUuid ∧ cfg.dropGetUuid then (none, state)
  else if method = Method.getIp then (some (getIpResponse request cfg), state)
  else if method = Method.getUuid then (some (getUuidResponse request cfg), state)
  else if method = Method.getData then (some (getDataResponse request cfg state payload), state)
  else if method = Method.setData then
    -- saved on every set, so a later reset finds it
    let items := parseSetDataRequest payload
    let state := (state.applySet (setDataUpdates items)).applySave
    (some (setDataResponse request cfg (u16OrMax items.length)), state)
  else if method = Method.reset then (some (resetResponse request cfg), state.applyReset)
  else (none, state)

/-- The message of an injected failure. -/
def failureMessage (cfg : DeviceConfig) (op : Op) : String :=
  cfg.failMessage.getD ("mocksbr: configured to fail " ++ op.asStr)

/-- What a device that is addressed answers: an injected failure goes before the dispatch. -/
def respond (request : Packet) (payload : Bytes) (cfg : DeviceConfig) (state : DeviceState) :
    Option ScheduledReply × DeviceState :=
  match (Op.fromMethod request.ucpMethod).filter cfg.failsOn with
  | some op =>
    (some ⟨errorResponse request cfg (failureMessage cfg op), cfg.mac.format, cfg.slow⟩, state)
  | none =>
    let r := dispatch request payload cfg state
    (r.1.map fun bytes => ⟨bytes, cfg.mac.format, cfg.slow⟩, r.2)

/-- The three filters in front of a device. -/
def isAddressed (request : Packet) (cfg : DeviceConfig) : Bool :=
  !cfg.unreachable &&
  (request.ucpMethod ≠ Method.advDisc || !cfg.failsOn .discover) &&
  (request.ucpMethod = Method.advDisc || request.dstAddress = cfg.mac)

/-! ## All devices -/

/-- The pass over the devices from `index` on, threading the state vector. -/
def receiveFrom (request : Packet) (payload : Bytes) : Nat → List DeviceConfig →
    List DeviceState → List ScheduledReply × List DeviceState
  | _, [], states => ([], states)
  | index, cfg :: rest, states =>
    if isAddressed request cfg then
      match states[index]? with
      | none => receiveFrom request payload (index + 1) rest states
      | some state =>
        let r := respond request payload cfg state
        let rs := receiveFrom request payload (index + 1) rest (states.set index r.2)
        (r.1.toList ++ rs.1, rs.2)
    else receiveFrom request payload (index + 1) rest states

theorem length_receiveFrom (request : Packet) (payload : Bytes) :
    ∀ (index : Nat) (devices : List DeviceConfig) (states : List DeviceState),
    (receiveFrom request payload index devices states).2.length = states.length
  | _, [], _ => rfl
  | index, cfg :: rest, states => by
    unfold receiveFrom
    split
    · split
      · exact length_receiveFrom request payload (index + 1) rest states
      · simp only [length_receiveFrom request payload (index + 1) rest, List.length_set]
    · exact length_receiveFrom request payload (index + 1) rest states

namespace Network

/-- `Network::new`. -/
def new (devices : List DeviceConfig) : Network where
  devices := devices
  state := devices.map fun cfg => DeviceState.factoryWith cfg.nvram
  aligned := List.length_map _

/-- Device number `i` of `with_auto_devices`. -/
def autoDevice (i : Nat) : DeviceConfig :=
  { DeviceConfig.defaultWithMac (Mac.auto (UInt8.ofNat i)) with name := "Mock SBR " ++ toString i }

/-- `Network::with_auto_devices`, which panics above 255. -/
def withAutoDevices (n : Nat) : Option Network :=
  if n ≤ 255 then some (new ((List.range' 1 n).map autoDevice)) else none

/-- `Network::receive`: the replies to one datagram, and the network after it. -/
def receive (n : Network) (packet : Bytes) : List ScheduledReply × Network :=
  match Packet.fromBytes packet with
  | .error _ => ([], n)
  | .ok (request, payload) =>
    let r := receiveFrom request payload 0 n.devices n.state
    (r.1, ⟨n.devices, r.2, (length_receiveFrom ..).trans n.aligned⟩)

end Network

end Mocksbr
