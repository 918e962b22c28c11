import Udapcfg.Udap.Interfaces
import Udapcfg.Udap.Protocol
import Udapcfg.Udap.Transport

/-!
# The UDP transport

`transport/udp.rs`: a socket on `0.0.0.0:port` that sends to the limited broadcast address and drops
the requests that the kernel loops back.

What the operating system does is an argument: what each call on a socket comes to when one is
built, and what a bound socket gives to read, the firing of the token included. Past the end of what
is written down sends succeed and the token fires.
-/

namespace Udap

open Infra

/-! ## Building a socket -/

/-- What `cfg` tells of the platform. -/
structure Platform where
  /-- `unix`: there is `SO_REUSEPORT`. -/
  unix : Bool
  /-- Egress can be pinned to an interface. -/
  bindsToInterface : Bool
deriving DecidableEq

/-- The calls that build a socket. -/
inductive SocketCall where
  | new
  | setReuseAddress
  | setReusePort
  | bind (port : UInt16)
  | setBroadcast
  | bindDeviceByIndex (index : UInt32)
  | setNonblocking
  | fromStd
deriving DecidableEq

/-- What each call on one socket comes to. -/
abbrev SocketCalls := SocketCall → Except String Unit

namespace UdpTransport

/-- What some calls come to, and which were made. The first that fails is the last. -/
abbrev Building := ExceptT TransportError (StateM (List SocketCall))

def perform (os : SocketCalls) (call : SocketCall) : Building Unit := do
  modify (· ++ [call])
  match os call with
  | .ok () => pure ()
  | .error message => throw (.io message)

/-- `bind_to_interface`. -/
def bindToInterface (os : SocketCalls) (platform : Platform) (iface : NetInterface) :
    Building Unit :=
  if platform.bindsToInterface then
    -- `NonZeroU32::new`
    if iface.index = 0 then throw (.io ("interface " ++ iface.name ++ " has index 0"))
    else perform os (.bindDeviceByIndex iface.index)
  else throw .interfaceBindUnsupported

/-- `build`. -/
def build (os : SocketCalls) (platform : Platform) (port : UInt16) (iface : Option NetInterface) :
    Building Unit := do
  perform os .new
  perform os .setReuseAddress
  if platform.unix then perform os .setReusePort
  perform os (.bind port)
  perform os .setBroadcast
  match iface with
  | some iface => bindToInterface os platform iface
  | none => pure ()
  perform os .setNonblocking
  perform os .fromStd

/-- `bind` and `bind_on_interface`: whether there is a transport, and the calls made for it. -/
def bind (os : SocketCalls) (platform : Platform) (port : UInt16) (iface : Option NetInterface) :
    Except TransportError Unit × List SocketCall :=
  (build os platform port iface).run.run []

end UdpTransport

/-! ## Sending and receiving -/

/-- `RECV_BUF`. -/
def recvBuf : Nat := 2048

/-- `Ipv4Addr::to_string`. -/
def ipText (ip : Ipv4Addr) : String := String.ofList (ip.format.map fun b => Char.ofNat b.toNat)

/-- What ends a round of `recv`. -/
inductive SocketEvent where
  | datagram (bytes : Bytes) (ip : Ipv4Addr)
  | error (message : String)
  | cancelled
deriving DecidableEq

/-- A bound socket: what each `send_to` comes to, and what there is to read. -/
structure UdpSocket where
  sends : List (Except String Unit)
  events : List SocketEvent
deriving DecidableEq

namespace UdpSocket

/-- The loop of `recv`. What does not fit into the buffer is lost, as on Unix. -/
def recvLoop : List SocketEvent → Except TransportError Datagram × List SocketEvent
  | [] => (.error .cancelled, [])
  | .cancelled :: rest => (.error .cancelled, rest)
  | .error message :: rest => (.error (.io message), rest)
  | .datagram bytes ip :: rest =>
    let buf := bytes.take recvBuf
    -- our own broadcast, looped back
    if isRequestPacket buf then recvLoop rest else (.ok (buf, ipText ip), rest)

theorem length_recvLoop {events events' : List SocketEvent} {d : Datagram}
    (h : recvLoop events = (.ok d, events')) : events'.length < events.length := by
  induction events with
  | nil => cases h
  | cons event rest ih =>
    cases event with
    | cancelled => cases h
    | error message => cases h
    | datagram bytes ip =>
      unfold recvLoop at h
      simp only at h
      split at h
      · exact (ih h).trans (Nat.lt_succ_self _)
      · cases h
        exact Nat.lt_succ_self _

/-- `UdpTransport` as a transport. -/
def transport : Transport UdpSocket where
  send _ s :=
    match s.sends with
    | [] => (.ok (), s)
    | .ok () :: rest => (.ok (), { s with sends := rest })
    | .error message :: rest => (.error (.io message), { s with sends := rest })
  recv s := ((recvLoop s.events).1, { s with events := (recvLoop s.events).2 })
  inFlight s := s.events.length
  recv_lt {s s' d} h := by
    simp only [Prod.mk.injEq] at h
    rw [← h.2]
    exact length_recvLoop (Prod.ext h.1 rfl)

end UdpSocket

end Udap
