import Udapcfg.Udap.Transport

/-!
# Several transports as one

`transport/multi.rs`: `MultiTransport::recv` returns what the first of its live children to settle
has. A child whose receive fails is retired; a cancelled one ends the call.

A call takes time, so here it is a state machine. The environment lets datagrams arrive at a child
and fires the token; the caller starts a call, polls its future and may drop it. A poll of the call
polls the futures of the live children in order, and each poll of a child is a step of its own:
anything can happen in between. The first child that is ready ends the round, and the futures of the
others are dropped.

A child is the datagrams that have arrived there and that nobody has taken, oldest first. Its future
takes one only when it is ready with it.
-/

namespace Udap

open Infra

/-- What a poll of a child's `recv` comes to. A child that fails may leave anything behind. -/
inductive Poll where
  | pending
  | packet
  | cancelled
  | error (e : TransportError) (real : e ≠ .cancelled) (left : List Datagram)
deriving DecidableEq

/-- `MultiTransport`. The flags are indexed in step with the children. -/
structure MultiTransport where
  children : List (List Datagram)
  retired : List Bool
  aligned : retired.length = children.length
deriving DecidableEq

namespace MultiTransport

/-- `MultiTransport::new`. -/
def new (children : List (List Datagram)) : MultiTransport where
  children := children
  retired := children.map fun _ => false
  aligned := List.length_map _

/-- The children that a round of `recv` builds futures for. -/
def live (m : MultiTransport) : List Nat :=
  (List.range m.children.length).filter fun i => !m.retired.getD i true

def setChild (m : MultiTransport) (i : Nat) (queue : List Datagram) : MultiTransport where
  children := m.children.set i queue
  retired := m.retired
  aligned := by rw [List.length_set]; exact m.aligned

def retire (m : MultiTransport) (i : Nat) : MultiTransport where
  children := m.children
  retired := m.retired.set i true
  aligned := by rw [List.length_set]; exact m.aligned

end MultiTransport

/-! ## Calls -/

/-- Where a call of `recv` is: in `select_all`, about to poll future number `next` of those of the
children `live`, or past the last child and waiting for the token. -/
inductive RecvCall where
  | selecting (live : List Nat) (next : Nat)
  | waiting
deriving DecidableEq

/-- What a call returned. A packet is noted with the child that had it. -/
inductive Returned where
  | packet (child : Nat) (d : Datagram)
  | error (e : TransportError)
deriving DecidableEq

/-- The transport, the token, the call in progress, and what earlier calls returned. -/
structure MultiState where
  transport : MultiTransport
  fired : Bool
  call : Option RecvCall
  returned : List Returned
deriving DecidableEq

inductive MultiEvent where
  /-- A datagram arrives at a child. -/
  | arrive (child : Nat) (d : Datagram)
  /-- The token fires. -/
  | fire
  /-- `recv` is called. -/
  | call
  /-- The next future is polled, which is that of `child`. -/
  | poll (child : Nat) (outcome : Poll)
  /-- `cancel.cancelled()` completes. -/
  | wake
  /-- The caller drops the future of `recv`. -/
  | drop
deriving DecidableEq

namespace MultiState

/-- `n` children where nothing has arrived yet. -/
def start (n : Nat) : MultiState := ⟨MultiTransport.new (List.replicate n []), false, none, []⟩

/-- The top of the loop: collect the live children and select, or wait if there are none. -/
def loop (s : MultiState) : MultiState :=
  let live := s.transport.live
  { s with call := some (if live.isEmpty then .waiting else .selecting live 0) }

/-- The call returns. -/
def finish (s : MultiState) (r : Returned) : MultiState :=
  { s with call := none, returned := s.returned ++ [r] }

/-- Future number `next` of `select_all`, which is that of child `live[next]`, was polled. -/
def polled (s : MultiState) (live : List Nat) (next child : Nat) : Poll → Option MultiState
  -- on to the next future; after the last one the caller's task sleeps, and starts over
  | .pending =>
    some { s with call := some (.selecting live (if next + 1 < live.length then next + 1 else 0)) }
  | .packet =>
    match s.transport.children[child]? with
    | some (d :: rest) =>
      some ({ s with transport := s.transport.setChild child rest }.finish (.packet child d))
    | _ => none
  | .cancelled => some (s.finish (.error .cancelled))
  -- the error is logged, the child `live[winner]` is retired, and the loop goes on
  | .error _ _ left =>
    some { s with transport := (s.transport.setChild child left).retire child }.loop

/-- One step. `none` is for what cannot happen. -/
def step (s : MultiState) : MultiEvent → Option MultiState
  | .arrive child d =>
    match s.transport.children[child]? with
    | some queue => some { s with transport := s.transport.setChild child (queue ++ [d]) }
    | none => none
  | .fire => some { s with fired := true }
  | .call =>
    match s.call with
    | none => some s.loop
    | some _ => none
  | .poll child outcome =>
    match s.call with
    | some (.selecting live next) =>
      if live[next]? = some child then s.polled live next child outcome else none
    | _ => none
  | .wake =>
    match s.call with
    | some .waiting => if s.fired then some (s.finish (.error .cancelled)) else none
    | _ => none
  | .drop =>
    match s.call with
    | some _ => some { s with call := none }
    | none => none

/-- A run. -/
def run (s : MultiState) : List MultiEvent → Option MultiState
  | [] => some s
  | event :: events =>
    match s.step event with
    | none => none
    | some s' => s'.run events

end MultiState

end Udap
