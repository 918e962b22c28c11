import Udapcfg.Infra.DelayQueue
import Udapcfg.Mocksbr.Transport

/-!
# `MockTransport` and time

`mocksbr/transport.rs` once more, with the clock. A reply without a delay is queued at once, any
other by a task that sleeps for as long as the device is slow. The caller's token fires at a time of
its own.

What happens while a receive waits is a list of events: time passes, a task wakes up, or a branch of
the `select!` completes. A branch that is not ready does not complete, and which one does when
several are ready is not decided here: the runtime is a parameter.
-/

namespace Mocksbr

open Infra Udap

/-- What happens while a receive waits. -/
inductive ClockEvent where
  | tick (d : Nat)
  /-- A sleeping task wakes up. -/
  | wake (index : Nat)
  /-- `receiver.recv()` completes. -/
  | message
  /-- `cancel.cancelled()` or `self.closed.cancelled()` completes. -/
  | cancelled
deriving DecidableEq

/-- The runtime: what happens during each receive, which may depend on what is queued and asleep. -/
abbrev Runtime := Nat → DelayQueue Datagram → List ClockEvent

/-- `MockTransport`, the time at which the caller's token fires, and the receives so far. -/
structure TimedTransport where
  network : Network
  queue : DelayQueue Datagram
  token : Nat
  closed : Bool
  receives : Nat
  runtime : Runtime

namespace TimedTransport

/-- A transport at time zero, for a caller whose token fires at `token`. -/
def new (network : Network) (token : Nat) (runtime : Runtime) : TimedTransport :=
  ⟨network, ⟨0, [], []⟩, token, false, 0, runtime⟩

/-- `schedule`. -/
def schedule (queue : DelayQueue Datagram) (reply : ScheduledReply) : DelayQueue Datagram :=
  queue.put reply.delay (reply.bytes, reply.src)

/-- `send`. It takes no time. -/
def send (packet : Bytes) (t : TimedTransport) : Except TransportError Unit × TimedTransport :=
  let r := t.network.receive packet
  (.ok (), { t with network := r.2, queue := r.1.foldl schedule t.queue })

/-- One of the two tokens has fired. -/
def fired (t : TimedTransport) : Bool := t.closed || t.token ≤ t.queue.now

/-- The `select!` of `recv`. Where the events end it is not known to return, and is taken for
cancelled. -/
def recvLoop : List ClockEvent → TimedTransport → Except TransportError Datagram × TimedTransport
  | [], t => (.error .cancelled, t)
  | .tick d :: events, t => recvLoop events { t with queue := t.queue.tick d }
  | .wake index :: events, t => recvLoop events { t with queue := t.queue.wake index }
  | .message :: events, t =>
    match t.queue.ready with
    | [] => recvLoop events t
    | x :: rest => (.ok x.2, { t with queue := { t.queue with ready := rest } })
  | .cancelled :: events, t => if t.fired then (.error .cancelled, t) else recvLoop events t

/-- `recv`. -/
def recv (t : TimedTransport) : Except TransportError Datagram × TimedTransport :=
  recvLoop (t.runtime t.receives t.queue) { t with receives := t.receives + 1 }

/-- `close`. -/
def close (t : TimedTransport) : Except TransportError Unit × TimedTransport :=
  (.ok (), { t with closed := true })

theorem length_recvLoop {d : Datagram} {t' : TimedTransport} : ∀ (events : List ClockEvent)
    (t : TimedTransport), recvLoop events t = (.ok d, t') →
    t'.queue.waiting.length < t.queue.waiting.length
  | [], _, h => by cases h
  | .tick d :: events, t, h => length_recvLoop events { t with queue := t.queue.tick d } h
  | .wake index :: events, t, h => by
    have hlt := length_recvLoop events { t with queue := t.queue.wake index } h
    rwa [(DelayQueue.waiting_wake t.queue index).length_eq] at hlt
  | .message :: events, t, h => by
    rw [recvLoop] at h
    cases hready : t.queue.ready with
    | nil =>
      rw [hready] at h
      exact length_recvLoop events t h
    | cons x rest =>
      rw [hready] at h
      cases h
      rw [DelayQueue.waiting_take hready]
      exact Nat.lt_succ_self _
  | .cancelled :: events, t, h => by
    rw [recvLoop] at h
    split at h
    · cases h
    · exact length_recvLoop events t h

/-- The transport itself. -/
def transport : Transport TimedTransport where
  send := send
  recv := recv
  inFlight t := t.queue.waiting.length
  recv_lt {s _ _} h := length_recvLoop _ { s with receives := s.receives + 1 } h

end TimedTransport

end Mocksbr
