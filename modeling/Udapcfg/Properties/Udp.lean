import Udapcfg.Properties.ForeignDatagrams
import Udapcfg.Properties.Simulation
import Udapcfg.Udap.Udp

/-!
# Programs over UDP

The UDP transport drops every datagram with the request bit set and hands on the others, cut to the
size of its buffer. It could hand on everything: a client drops what it has sent itself in any case.

* `waitForReply_unfiltered`, `drain_unfiltered` — the two loops that receive
* `udp_agrees` — a socket comes to the same as the script of everything it reads
* `filter_unobservable` — the filter cannot be observed by any program
-/

namespace Udap

open Infra

/-! ## Everything a socket reads -/

/-- What a `send_to` is to the transport. -/
def sendAnswer : Except String Unit → Except TransportError Unit
  | .ok () => .ok ()
  | .error message => .error (.io message)

namespace SocketEvent

/-- What an event comes to in the hands of the caller, if nothing is filtered. -/
def raw : SocketEvent → Except TransportError Datagram
  | .datagram bytes ip => .ok (bytes.take recvBuf, ipText ip)
  | .error message => .error (.io message)
  | .cancelled => .error .cancelled

/-- A datagram with the request bit set. -/
def isRequest : SocketEvent → Bool
  | .datagram bytes _ => isRequestPacket (bytes.take recvBuf)
  | _ => false

end SocketEvent

namespace UdpSocket

/-- The script of everything a socket reads. -/
def unfiltered (s : UdpSocket) : Script := ⟨s.sends.map sendAnswer, s.events.map SocketEvent.raw⟩

theorem recv_request {event : SocketEvent} (h : event.isRequest = true)
    (sends : List (Except String Unit)) (events : List SocketEvent) :
    transport.recv ⟨sends, event :: events⟩ = transport.recv ⟨sends, events⟩ := by
  cases event with
  | cancelled => cases h
  | error message => cases h
  | datagram bytes ip =>
    have hskip : recvLoop (.datagram bytes ip :: events) = recvLoop events := by
      rw [recvLoop]
      exact if_pos h
    simp only [transport, hskip]

theorem recv_other {event : SocketEvent} (h : event.isRequest = false)
    (sends : List (Except String Unit)) (events : List SocketEvent) :
    transport.recv ⟨sends, event :: events⟩ = (event.raw, ⟨sends, events⟩) := by
  cases event with
  | cancelled => rfl
  | error message => rfl
  | datagram bytes ip =>
    have hnext : recvLoop (.datagram bytes ip :: events)
        = (.ok (bytes.take recvBuf, ipText ip), events) := by
      rw [recvLoop]
      exact if_neg (by simpa [SocketEvent.isRequest] using h)
    simp only [transport, hnext, SocketEvent.raw]

end UdpSocket

/-- Every datagram with the request bit set that a socket reads is foreign to handles in `D`. -/
def RequestsForeign (D : Mac → Prop) (events : List SocketEvent) : Prop :=
  ∀ bytes ip, .datagram bytes ip ∈ events → isRequestPacket (bytes.take recvBuf) = true →
    ∀ device : Device, D device.mac → Foreign device (bytes.take recvBuf, ipText ip)

theorem RequestsForeign.tail {D : Mac → Prop} {event : SocketEvent} {events : List SocketEvent}
    (h : RequestsForeign D (event :: events)) : RequestsForeign D events :=
  fun bytes ip hmem => h bytes ip (List.mem_cons_of_mem event hmem)

/-- A socket, and the script of everything it reads. -/
structure Unfiltered (D : Mac → Prop) (s : UdpSocket) (t : Script) : Prop where
  script : t = s.unfiltered
  foreign : RequestsForeign D s.events

/-! ## The loops that receive -/

section Loops

variable {D : Mac → Prop} (sends : List (Except String Unit)) {events : List SocketEvent}

/-- A wait, by induction on what there is to read. -/
theorem waitForReply_unfiltered {device : Device} (hdevice : D device.mac)
    (hforeign : RequestsForeign D events) (retries : Nat) (sequence : UInt16) :
    Session.Answers (Session.Alike (Unfiltered D))
      (Session.waitForReply UdpSocket.transport device ⟨⟨sends, events⟩, retries, sequence⟩)
      (Session.waitForReply Script.transport device
        ⟨UdpSocket.unfiltered ⟨sends, events⟩, retries, sequence⟩) := by
  induction events with
  | nil =>
    rw [Session.waitForReply_eq, Session.waitForReply_eq]
    exact ⟨rfl, ⟨rfl, hforeign⟩, rfl, rfl⟩
  | cons event events ih =>
    have hrest := ih hforeign.tail
    cases hrequest : event.isRequest with
    | true =>
      -- dropped by the socket, and by the wait if it is handed on
      have hkept : Session.waitForReply UdpSocket.transport device
            ⟨⟨sends, event :: events⟩, retries, sequence⟩
          = Session.waitForReply UdpSocket.transport device ⟨⟨sends, events⟩, retries, sequence⟩ := by
        rw [Session.waitForReply_eq, UdpSocket.recv_request hrequest]
        exact (Session.waitForReply_eq UdpSocket.transport device
          ⟨⟨sends, events⟩, retries, sequence⟩).symm
      rw [hkept, Session.waitForReply_eq Script.transport]
      cases event with
      | cancelled => cases hrequest
      | error message => cases hrequest
      | datagram bytes ip =>
        have hskip : Session.accept device (bytes.take recvBuf, ipText ip) = none :=
          accept_foreign (hforeign bytes ip List.mem_cons_self hrequest device hdevice)
        simp only [UdpSocket.unfiltered, List.map_cons, SocketEvent.raw, Script.transport, hskip]
        exact hrest
    | false =>
      rw [Session.waitForReply_eq, UdpSocket.recv_other hrequest, Session.waitForReply_eq]
      simp only [UdpSocket.unfiltered, List.map_cons, Script.transport]
      cases event.raw with
      | error e => exact ⟨rfl, ⟨rfl, hforeign.tail⟩, rfl, rfl⟩
      | ok d =>
        simp only
        cases Session.accept device d with
        | none => exact hrest
        | some reply => exact ⟨rfl, ⟨rfl, hforeign.tail⟩, rfl, rfl⟩

/-- A discovery, by induction on what there is to read. What the registry makes of a datagram that
is dropped is nothing. -/
theorem drain_unfiltered (hforeign : RequestsForeign D events) (r : Registry) :
    let kept := UdpSocket.transport.drain ⟨sends, events⟩
    let read := Script.transport.drain (UdpSocket.unfiltered ⟨sends, events⟩)
    read.1.foldl Registry.handleDiscoveryReply r = kept.1.foldl Registry.handleDiscoveryReply r ∧
      read.2.1 = kept.2.1 ∧ Unfiltered D kept.2.2 read.2.2 := by
  induction events generalizing r with
  | nil => exact ⟨rfl, rfl, rfl, hforeign⟩
  | cons event events ih =>
    intro kept read
    have hrest := ih hforeign.tail
    cases hrequest : event.isRequest with
    | true =>
      have hkept : kept = UdpSocket.transport.drain ⟨sends, events⟩ := by
        rw [show kept = _ from Transport.drain_eq _ _, UdpSocket.recv_request hrequest,
          ← Transport.drain_eq]
      rw [hkept, show read = _ from Transport.drain_eq _ _]
      cases event with
      | cancelled => cases hrequest
      | error message => cases hrequest
      | datagram bytes ip =>
        have hskip : r.handleDiscoveryReply (bytes.take recvBuf, ipText ip) = r := by
          rw [Registry.handleDiscoveryReply]
          exact if_pos hrequest
        simp only [UdpSocket.unfiltered, List.map_cons, SocketEvent.raw, Script.transport,
          List.foldl_cons, hskip]
        exact hrest r
    | false =>
      rw [show kept = _ from Transport.drain_eq _ _, show read = _ from Transport.drain_eq _ _,
        UdpSocket.recv_other hrequest]
      simp only [UdpSocket.unfiltered, List.map_cons, Script.transport]
      cases event.raw with
      | error e => exact ⟨rfl, rfl, rfl, hforeign.tail⟩
      | ok d =>
        simp only [List.foldl_cons]
        exact hrest _

end Loops

/-- **A socket comes to the same as the script of everything it reads.** -/
theorem udp_agrees (D : Mac → Prop) :
    UdpSocket.transport.Agrees Script.transport D (Unfiltered D) where
  send := by
    rintro packet _ ⟨sends, events⟩ _ ⟨rfl, hforeign⟩
    cases sends with
    | nil => exact ⟨rfl, rfl, hforeign⟩
    | cons result rest => cases result <;> exact ⟨rfl, rfl, hforeign⟩
  wait := by
    rintro device ⟨⟨sends, events⟩, retries, sequence⟩ ⟨t, retries', sequence'⟩ hdevice
      ⟨⟨hscript, hforeign⟩, hretries, hsequence⟩
    simp only at hscript hretries hsequence
    subst hscript hretries hsequence
    exact waitForReply_unfiltered sends hdevice hforeign _ _
  heard := by
    rintro ⟨sends, events⟩ _ ⟨rfl, hforeign⟩ r
    exact drain_unfiltered sends hforeign r

/-! ## Programs -/

/-- Our own packets are foreign to every handle that has an address. -/
theorem foreign_header {device : Device} (hmac : device.mac.isZero = false) {σ : Type}
    (s : Session σ) (dst : Mac) (ucpMethod : UInt16) (broadcast : Bool) (body : Bytes)
    (src : String) :
    Foreign device ((s.header dst ucpMethod broadcast).1.toBytes ++ body, src) := by
  refine .inr (.inl ⟨_, body, Packet.fromBytes_toBytes rfl body, ?_⟩)
  intro hzero
  rw [← hzero] at hmac
  have hnonzero : Mac.zero.isZero = false := hmac
  exact absurd hnonzero (by decide)

/-- The program with everything its socket reads. -/
def Program.unfiltered (p : Program (UdpSocket × List Bytes)) : Program (Script × List Bytes) where
  client.session.transport := (p.client.session.transport.1.unfiltered, p.client.session.log)
  client.session.retries := p.client.session.retries
  client.session.sequence := p.client.session.sequence
  client.devices := p.client.devices
  held := p.held

/-- **The filter cannot be observed**: a program over a socket is answered, sends, knows and holds
what it would if the socket handed on everything, as long as every datagram with the request bit set
is foreign to every handle that has an address. Such are the program's own. -/
theorem filter_unobservable (p : Program (UdpSocket × List Bytes)) (actions : List Action)
    (hforeign : RequestsForeign (fun mac => mac.isZero = false)
      p.client.session.transport.1.events) :
    p.answers UdpSocket.transport.recorded actions
      = p.unfiltered.answers Script.transport.recorded actions ∧
    let p₁ := p.run UdpSocket.transport.recorded actions
    let p₂ := p.unfiltered.run Script.transport.recorded actions
    p₂.client.session.log = p₁.client.session.log ∧ p₂.client.devices = p₁.client.devices ∧
      p₂.held = p₁.held := by
  obtain ⟨hanswers, hend⟩ := program_alike (udp_agrees _).recorded (p := p) (q := p.unfiltered)
    ⟨⟨⟨⟨rfl, hforeign⟩, rfl⟩, rfl, rfl⟩, rfl, rfl, fun _ _ hmac => hmac⟩ actions fun _ _ hmac => hmac
  exact ⟨hanswers, hend.session.transport.2, hend.devices, hend.held⟩

/-- A program that reads its own packets back, and fails on a network that is down. -/
theorem filter_unobservable_echo :
    let device := Device.withMac (Mac.auto 1)
    let echo := ((⟨(), 0, 0⟩ : Session Unit).header device.mac Method.reset false).1.toBytes ++ []
    let socket : UdpSocket := ⟨[], [.datagram echo ⟨192, 168, 1, 2⟩, .cancelled,
      .datagram echo ⟨192, 168, 1, 2⟩, .error "network is down"]⟩
    let p : Program (UdpSocket × List Bytes) := ⟨Client.new (socket, []) 0, [device]⟩
    p.answers UdpSocket.transport.recorded [.discover, .call 0 .getUuid]
      = p.unfiltered.answers Script.transport.recorded [.discover, .call 0 .getUuid] := by
  intro device echo socket p
  refine (filter_unobservable p _ ?_).1
  have hwhole : echo.take recvBuf = echo := List.take_of_length_le (by decide)
  intro bytes ip hmem _ device' hdevice'
  obtain ⟨rfl, _⟩ : bytes = echo ∧ ip = ⟨192, 168, 1, 2⟩ := by
    simpa [p, socket, Client.new] using hmem
  rw [hwhole]
  exact foreign_header hdevice' (⟨(), 0, 0⟩ : Session Unit) device.mac Method.reset false [] _

/-- **Discovery** does not notice the filter, whatever the datagrams. -/
theorem discover_unfiltered (s : UdpSocket) (retries : Nat) :
    let found := (Client.new s retries).discover UdpSocket.transport
    let found' := (Client.new s.unfiltered retries).discover Script.transport
    found'.1 = found.1 ∧ found'.2.devices = found.2.devices := by
  have hforeign : RequestsForeign (fun _ => False) s.events := fun _ _ _ _ _ hdevice => hdevice.elim
  have hsession : Session.Alike (Unfiltered fun _ => False) (Client.new s retries).session
      (Client.new s.unfiltered retries).session := ⟨⟨rfl, hforeign⟩, rfl, rfl⟩
  obtain ⟨hresult, hdevices, _⟩ := discover_alike (udp_agrees _) hsession rfl
  exact ⟨hresult, hdevices⟩

end Udap
