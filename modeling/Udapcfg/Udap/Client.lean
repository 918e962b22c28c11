import Udapcfg.Udap.Session
import Udapcfg.Udap.Tlv

/-!
# The client

`client.rs`: a session and the devices that discovery has found, by MAC.

The loop of `discover` is written with a bound on its rounds, as that of `waitForReply` is. More
than the datagrams in flight it cannot receive.
-/

namespace Udap

open Infra

/-! ## Discovery responses

The tags are those of `tlv_code`.
-/

namespace TlvCode

def deviceName : UInt8 := 0x02
def deviceType : UInt8 := 0x03
def firmwareRev : UInt8 := 0x09
def hardwareRev : UInt8 := 0x0a
def deviceId : UInt8 := 0x0b
def deviceStatus : UInt8 := 0x0c
def uuid : UInt8 := 0x0d

end TlvCode

/-- A device while its entries are read. Its type and its identifier become the model. -/
structure Described where
  device : Device
  deviceType : Bytes
  deviceId : Bytes
deriving DecidableEq

/-- One entry. A later one of the same tag replaces it, an unknown tag is skipped. -/
def Described.applyEntry (acc : Described) (entry : Tlv) : Described :=
  if entry.tag = TlvCode.deviceName then
    { acc with device := { acc.device with name := entry.value } }
  else if entry.tag = TlvCode.deviceType then { acc with deviceType := entry.value }
  else if entry.tag = TlvCode.firmwareRev then
    { acc with device := { acc.device with firmware := entry.value } }
  else if entry.tag = TlvCode.deviceId then { acc with deviceId := entry.value }
  else if entry.tag = TlvCode.deviceStatus then
    { acc with device := { acc.device with state := entry.value } }
  else if entry.tag = TlvCode.hardwareRev then
    { acc with device := { acc.device with hardwareRev := entry.value } }
  else if entry.tag = TlvCode.uuid then
    { acc with device := { acc.device with uuid := Hex.encode entry.value } }
  else acc

/-- `parse_discovery_response`. -/
def parseDiscoveryResponse (payload : Bytes) (src : String) (packet : Packet) : Device :=
  let device := { Device.default with mac := packet.srcAddress, ip := src }
  let described := (Tlv.decode payload).foldl Described.applyEntry ⟨device, [], []⟩
  let device :=
    { described.device with model := combineModel described.deviceType described.deviceId }
  if device.name.isEmpty then { device with name := strBytes "Squeezebox Device" } else device

/-! ## The registry -/

/-- The devices found so far. Each is kept under its own MAC. -/
structure Registry where
  byMac : OrdMap Mac Device
  keyed : ∀ mac device, byMac.get? mac = some device → device.mac = mac

namespace Registry

def empty : Registry := ⟨OrdMap.empty, fun _ _ h => by cases h⟩

def insert (r : Registry) (device : Device) : Registry where
  byMac := r.byMac.insert device.mac device
  keyed mac device' h := by
    rw [OrdMap.get?_insert] at h
    split at h
    · next hmac =>
      cases h
      exact hmac.symm
    · exact r.keyed mac device' h

/-- `devices`: every device, ordered by MAC. -/
def devices (r : Registry) : List Device := r.byMac.entries.map Prod.snd

@[ext] theorem ext' {r r' : Registry} (h : ∀ mac, r.byMac.get? mac = r'.byMac.get? mac) : r = r' := by
  cases r
  cases r'
  cases OrdMap.ext_get? h
  rfl

/-- `handle_discovery_reply`. Our own packets have the request bit set and are left out. -/
def handleDiscoveryReply (r : Registry) (d : Datagram) : Registry :=
  if isRequestPacket d.1 then r
  else
    match Packet.fromBytes d.1 with
    | .error _ => r
    | .ok (packet, payload) =>
      -- the method is not looked at
      if packet.srcType ≠ addrTypeEth then r
      else r.insert (parseDiscoveryResponse payload d.2 packet)

end Registry

/-! ## Discovery -/

/-- `ClientError`, as far as `discover` goes. -/
inductive ClientError where
  | send (source : TransportError)
  | recv (source : TransportError)
deriving DecidableEq

/-- `Client`, over a transport with states `σ`. -/
structure Client (σ : Type) where
  session : Session σ
  devices : Registry

namespace Client

variable {σ : Type} (T : Transport σ)

/-- `Client::new` and `set_retries`. -/
def new (transport : σ) (retries : Nat) : Client σ := ⟨⟨transport, retries, 0⟩, Registry.empty⟩

/-- The loop of `discover`, `fuel` rounds at most. -/
def discoverLoop : Nat → Registry → σ → Except ClientError Unit × Registry × σ
  | 0, r, t => (.ok (), r, t)
  | fuel + 1, r, t =>
    match T.recv t with
    | (.ok d, t) => discoverLoop fuel (r.handleDiscoveryReply d) t
    | (.error .cancelled, t) => (.ok (), r, t)
    | (.error e, t) => (.error (.recv e), r, t)

/-- `discover`. -/
def discover (c : Client σ) : Except ClientError Unit × Client σ :=
  let (packet, s) := c.session.header Mac.zero Method.advDisc true
  match s.sendRetried T packet.toBytes with
  | (.error e, s) => (.error (.send e), { c with session := s })
  | (.ok (), s) =>
    let r := discoverLoop T (T.inFlight s.transport + 1) c.devices s.transport
    (r.1, ⟨{ s with transport := r.2.2 }, r.2.1⟩)

end Client

end Udap
