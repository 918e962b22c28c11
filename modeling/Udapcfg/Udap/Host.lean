import Udapcfg.Udap.Client
import Udapcfg.Udap.FanOut
import Udapcfg.Udap.MultiSocket
import Udapcfg.Udap.Udp

/-!
# Clients on sockets

The constructors of `client.rs` that look for interfaces and open sockets.

What the operating system does is given in advance, as a `Host`. No two sweeps of the interfaces
need see the same ones, and no two sockets need fare alike.
-/

namespace Udap

open Infra

/-- `PORT`. -/
def port : UInt16 := 17784

/-! ## Processes -/

/-- What the operating system does for one process. -/
structure Host where
  platform : Platform
  /-- The arithmetic of `ipnet`. -/
  net : NetBroadcast
  /-- What `netdev` reports, sweep by sweep. -/
  sweep : Nat → List OsInterface
  /-- What the calls on each socket come to. -/
  socket : Nat → SocketCalls
  /-- What a socket is given to send and to read, once it is bound. -/
  traffic : Nat → UdpSocket
  /-- The same for several sockets as one. -/
  shared : List Nat → List (Except TransportError Unit) × List MultiEvent

/-- What a process has had done. -/
structure Effects where
  sweeps : Nat
  /-- The calls made, socket by socket. -/
  sockets : List (List SocketCall)
deriving DecidableEq

/-- Nothing yet. -/
def Effects.start : Effects := ⟨0, []⟩

abbrev Process := StateM Effects

/-! ## Boxed transports -/

/-- One transport or the other. -/
def Transport.sum {σ τ : Type} (T : Transport σ) (T' : Transport τ) : Transport (σ ⊕ τ) where
  send packet
    | .inl s => ((T.send packet s).1, .inl (T.send packet s).2)
    | .inr s => ((T'.send packet s).1, .inr (T'.send packet s).2)
  recv
    | .inl s => ((T.recv s).1, .inl (T.recv s).2)
    | .inr s => ((T'.recv s).1, .inr (T'.recv s).2)
  inFlight
    | .inl s => T.inFlight s
    | .inr s => T'.inFlight s
  recv_lt {s s' d} h := by
    rcases s with s | s
    · obtain ⟨hok, rfl⟩ := Prod.mk.inj h
      exact T.recv_lt (Prod.ext hok rfl)
    · obtain ⟨hok, rfl⟩ := Prod.mk.inj h
      exact T'.recv_lt (Prod.ext hok rfl)

/-- `Box<dyn Transport>`, as far as it is made here. -/
abbrev BoxedTransport := UdpSocket ⊕ MultiSocket

namespace BoxedTransport

def transport : Transport BoxedTransport := UdpSocket.transport.sum MultiSocket.transport

end BoxedTransport

/-! ## Errors -/

/-- `NOT_USABLE_REASON`. -/
def notUsableReason : String :=
  "is not usable (must be up, broadcast-capable, with an IPv4 address)"

/-- `ClientError`, as far as the constructors go. -/
inductive OpenError where
  | noSuchInterface (name : String)
  | noUsableInterfaces
  | noInterfaceBound
  | bind (source : TransportError)
deriving DecidableEq

/-- `Display` of a `ClientError`. -/
def OpenError.display (printable : Char → Bool) : OpenError → String
  | .noSuchInterface name => "interface " ++ debugString printable name ++ " " ++ notUsableReason
  | .noUsableInterfaces => "no usable interfaces found"
  | .noInterfaceBound => "failed to bind on any usable interface"
  | .bind source => "bind: " ++ source.display

/-! ## Constructors -/

namespace Host

variable (host : Host)

/-- `interfaces::enumerate`. -/
def enumerate : Process (List NetInterface) := fun fx =>
  (Udap.enumerate host.net (host.sweep fx.sweeps), { fx with sweeps := fx.sweeps + 1 })

/-- `UdpTransport::bind` and `bind_on_interface`. A socket is known by its number. -/
def bind (port : UInt16) (iface : Option NetInterface) : Process (Except TransportError Nat) :=
  fun fx =>
    let k := fx.sockets.length
    let r := UdpTransport.bind (host.socket k) host.platform port iface
    (r.1.map fun _ => k, { fx with sockets := fx.sockets ++ [r.2] })

/-- A client on a socket, if it could be bound. -/
def onSocket : Except TransportError Nat → Except OpenError (Client BoxedTransport)
  | .ok k => .ok (Client.new (.inl (host.traffic k)) 0)
  | .error e => .error (.bind e)

/-- `Client::with_udp`. -/
def withUdp (port : UInt16) : Process (Except OpenError (Client BoxedTransport)) := do
  return host.onSocket (← host.bind port none)

/-- `Client::for_resolved_interface`. -/
def forResolvedInterface (iface : NetInterface) (port : UInt16) :
    Process (Except OpenError (Client BoxedTransport)) := do
  return host.onSocket (← host.bind port (some iface))

/-- `Client::for_interface`. -/
def forInterface (name : String) (port : UInt16) :
    Process (Except OpenError (Client BoxedTransport)) := do
  match (← host.enumerate).find? fun iface => iface.name = name with
  | none => return .error (.noSuchInterface name)
  | some iface => host.forResolvedInterface iface port

/-- The loop of `for_all_interfaces`: the sockets that could be bound. -/
def bindAll (port : UInt16) : List NetInterface → Process (List Nat)
  | [] => return []
  | iface :: ifaces => do
    match ← host.bind port (some iface) with
    | .ok k => return k :: (← bindAll port ifaces)
    | .error _ => bindAll port ifaces

/-- `MultiTransport::new`, of sockets that are bound. -/
def multi (children : List Nat) : MultiSocket :=
  ⟨MultiState.start children.length, (host.shared children).1, (host.shared children).2⟩

/-- `Client::for_all_interfaces`. -/
def forAllInterfaces (port : UInt16) : Process (Except OpenError (Client BoxedTransport)) := do
  let ifaces ← host.enumerate
  if ifaces.isEmpty then return .error .noUsableInterfaces
  else
    let children ← host.bindAll port ifaces
    if children.isEmpty then return .error .noInterfaceBound
    else return .ok (Client.new (.inr (host.multi children)) 0)

end Host

end Udap
