import Udapcfg.Mocksbr.Transport

/-!
# A network that others are on

A `MockTransport` has its network behind an `Arc`, so several transports can be on one. What a
datagram does to a device it does under the lock, and the replies go to the transport that it came
from. To one transport the others are datagrams which the network handles between its own.
-/

namespace Mocksbr

open Infra Udap

/-- A transport, and what the others send before each of its own packets. -/
structure SharedTransport where
  own : MockTransport
  others : List (List Bytes)

namespace SharedTransport

/-- The network after what the others send. Their replies are not for us. -/
def meanwhile (n : Network) (packets : List Bytes) : Network :=
  packets.foldl (fun n packet => (n.receive packet).2) n

/-- `send`, after the others. -/
def send (packet : Bytes) (s : SharedTransport) : Except TransportError Unit × SharedTransport :=
  let r := MockTransport.send packet
    { s.own with network := meanwhile s.own.network (s.others.headD []) }
  (r.1, ⟨r.2, s.others.tail⟩)

/-- `recv`, which leaves the network alone. -/
def recv (s : SharedTransport) : Except TransportError Datagram × SharedTransport :=
  (s.own.recv.1, { s with own := s.own.recv.2 })

/-- The transport itself. -/
def transport : Transport SharedTransport where
  send := send
  recv := recv
  inFlight s := MockTransport.transport.inFlight s.own
  recv_lt h := by
    obtain ⟨hresult, rfl⟩ := Prod.mk.inj h
    exact MockTransport.transport.recv_lt (Prod.ext hresult rfl)

end SharedTransport

end Mocksbr
