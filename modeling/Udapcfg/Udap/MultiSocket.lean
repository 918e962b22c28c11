import Udapcfg.Udap.MultiTransport
import Udapcfg.Udap.Transport

/-!
# `MultiTransport` as a transport

What a client makes of the state machine of `MultiTransport::recv`: it calls `recv` and polls until
the call returns. What arrives, what the children come to and when the token fires is given in
advance, as a list of events; what cannot happen when its turn comes does not happen. The client
never drops a call.
-/

namespace Udap

open Infra

/-- A `MultiTransport`, what its sends come to, and what happens while it is received from. -/
structure MultiSocket where
  state : MultiState
  sends : List (Except TransportError Unit)
  events : List MultiEvent
deriving DecidableEq

namespace MultiSocket

/-- What a call has returned, as the client has it. -/
def answer : Returned → Except TransportError Datagram
  | .packet _ d => .ok d
  | .error e => .error e

/-- An event that is no doing of the client. -/
def happen (s : MultiState) : MultiEvent → MultiState
  | .call | .drop => s
  | event => (s.step event).getD s

/-- The events until the call returns. Where they end it is not known to return, and is taken for
cancelled. -/
def recvLoop : List MultiEvent → MultiState →
    Except TransportError Datagram × MultiState × List MultiEvent
  | [], s => (.error .cancelled, s, [])
  | event :: events, s =>
    let s := happen s event
    match s.call, s.returned.getLast? with
    | none, some r => (answer r, s, events)
    | _, _ => recvLoop events s

/-- `recv`. -/
def recv (t : MultiSocket) : Except TransportError Datagram × MultiSocket :=
  let r := recvLoop t.events ((t.state.step .call).getD t.state)
  (r.1, { t with state := r.2.1, events := r.2.2 })

/-- `send`. Which children it fails on is not looked at here. -/
def send (t : MultiSocket) : Except TransportError Unit × MultiSocket :=
  match t.sends with
  | [] => (.ok (), t)
  | result :: rest => (result, { t with sends := rest })

theorem length_recvLoop {d : Datagram} {s' : MultiState} {events' : List MultiEvent} :
    ∀ (events : List MultiEvent) (s : MultiState), recvLoop events s = (.ok d, s', events') →
    events'.length < events.length
  | [], _, h => by cases h
  | event :: events, s, h => by
    rw [recvLoop] at h
    split at h
    · obtain ⟨_, hrest⟩ := Prod.mk.inj h
      rw [← (Prod.mk.inj hrest).2]
      exact Nat.lt_succ_self _
    · exact Nat.lt_trans (length_recvLoop events _ h) (Nat.lt_succ_self _)

/-- The transport itself. -/
def transport : Transport MultiSocket where
  send _ := send
  recv := recv
  inFlight t := t.events.length
  recv_lt {t t' d} h := by
    rcases hloop : recvLoop t.events ((t.state.step .call).getD t.state) with ⟨result, s', events'⟩
    rw [recv, hloop] at h
    cases h
    exact length_recvLoop _ _ hloop

end MultiSocket

end Udap
