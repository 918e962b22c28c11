import Udapcfg.Mocksbr.Network
import Udapcfg.Udap.Transport

/-!
# `MockTransport`

`mocksbr/transport.rs`: sends go to the network, whose replies are queued; receives take from the
queue.

A device without a delay has its replies queued at once, in order. The reply of a slow device is
queued by a sleeping task, so when it arrives is up to the clock, and so is when a caller's token
fires. `schedule` is what the clock decides: for each receive, that the token fires first, or which
of the replies in flight arrives. Without a schedule replies arrive in the order they were sent and
the token fires when there is nothing left to wait for.
-/

namespace Mocksbr

open Infra Udap

/-- What happens to one receive. -/
inductive Pick where
  | cancel
  | deliver (index : Nat)
deriving DecidableEq

/-- `MockTransport`: the network, the replies in flight, and what the clock decides. -/
structure MockTransport where
  network : Network
  inFlight : List Datagram
  schedule : List Pick
deriving DecidableEq

namespace MockTransport

/-- `MockTransport::new`. -/
def new (network : Network) : MockTransport := ⟨network, [], []⟩

/-- The datagrams of scheduled replies. -/
def datagrams (replies : List ScheduledReply) : List Datagram :=
  replies.map fun reply => (reply.bytes, reply.src)

/-- `send`: the network handles the packet and its replies are put in flight. -/
def send (packet : Bytes) (t : MockTransport) : Except TransportError Unit × MockTransport :=
  let r := t.network.receive packet
  (.ok (), { t with network := r.2, inFlight := t.inFlight ++ datagrams r.1 })

/-- `recv`. -/
def recv (t : MockTransport) : Except TransportError Datagram × MockTransport :=
  match t.schedule with
  | [] =>
    match t.inFlight with
    | [] => (.error .cancelled, t)
    | d :: rest => (.ok d, { t with inFlight := rest })
  | .cancel :: schedule => (.error .cancelled, { t with schedule := schedule })
  | .deliver index :: schedule =>
    match t.inFlight[index]? with
    | none => (.error .cancelled, { t with schedule := schedule })
    | some d => (.ok d, { t with inFlight := t.inFlight.eraseIdx index, schedule := schedule })

/-- A received datagram was in flight, and is no more. -/
theorem recv_ok {t t' : MockTransport} {d : Datagram} (h : recv t = (.ok d, t')) :
    ∃ index, t.inFlight[index]? = some d ∧ t'.inFlight = t.inFlight.eraseIdx index ∧
      t'.network = t.network := by
  obtain ⟨network, inFlight, schedule⟩ := t
  match schedule with
  | [] =>
    cases inFlight with
    | nil => simp [recv] at h
    | cons d' rest =>
      simp only [recv, Prod.mk.injEq, Except.ok.injEq] at h
      obtain ⟨rfl, rfl⟩ := h
      exact ⟨0, rfl, rfl, rfl⟩
  | .cancel :: schedule => simp [recv] at h
  | .deliver index :: schedule =>
    cases hget : inFlight[index]? with
    | none => simp [recv, hget] at h
    | some d' =>
      simp only [recv, hget, Prod.mk.injEq, Except.ok.injEq] at h
      obtain ⟨rfl, rfl⟩ := h
      exact ⟨index, hget, rfl, rfl⟩

/-- The transport itself. -/
def transport : Transport MockTransport where
  send := send
  recv := recv
  inFlight t := t.inFlight.length
  recv_lt h := by
    obtain ⟨index, hget, hrest, _⟩ := recv_ok h
    have hlt := (List.getElem?_eq_some_iff.mp hget).1
    rw [hrest, List.length_eraseIdx_of_lt hlt]
    omega

end MockTransport

end Mocksbr
