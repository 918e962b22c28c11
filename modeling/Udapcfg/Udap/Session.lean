import Udapcfg.Udap.Device
import Udapcfg.Udap.Protocol
import Udapcfg.Udap.Transport

/-!
# The wire half of a client

`session.rs`: a transport, a retry count and the sequence counter.

`waitForReply` loops until a datagram from the device arrives. It is written with a bound on its
rounds, the number of datagrams in flight, which is always enough: `waitForReply_eq` is the loop
without the bound.
-/

namespace Udap

open Infra

/-! ## Errors -/

/-- `OpError`. -/
inductive OpError where
  | send (source : TransportError)
  | recv (source : TransportError)
  | encode (source : EncodeError)
  | decode (mac : String) (source : GetDataError)
  | resetRejected (mac message : String)
  | resetRejectedNoMessage (mac : String)
  | zeroMac (operation : String)
  | device (mac message : String)
  | deviceNoMessage (mac : String)
  | credentialsRejected (mac : String)
  | unexpectedMethod (mac : String) (method : UInt16)
  | missingUuid
deriving DecidableEq

/-! ## Session -/

/-- `Session`, over a transport with states `σ`. -/
structure Session (σ : Type) where
  transport : σ
  retries : Nat
  sequence : UInt16
deriving DecidableEq

variable {σ : Type} (T : Transport σ)

namespace Session

/-- `header`: a request header with the next sequence number. -/
def header (dst : Mac) (ucpMethod : UInt16) (broadcast : Bool) (s : Session σ) :
    Packet × Session σ :=
  let sequence := s.sequence + 1
  ({ dstBroadcast := if broadcast then 1 else 0
     dstType := addrTypeEth
     dstAddress := dst
     srcBroadcast := 0
     srcType := addrTypeEth
     srcAddress := Mac.zero
     sequence := sequence
     udapType := udapTypeUcp
     ucpFlags := flagRequest
     uapClass := uapClassUcp
     ucpMethod := ucpMethod }, { s with sequence := sequence })

/-- The loop of `send_retried`: `n` sends to go. -/
def sendLoop (packet : Bytes) : Nat → Option TransportError → Nat → σ →
    Option TransportError × Nat × σ
  | 0, firstErr, successes, t => (firstErr, successes, t)
  | n + 1, firstErr, successes, t =>
    match T.send packet t with
    | (.ok (), t) => sendLoop packet n firstErr (successes + 1) t
    | (.error e, t) => sendLoop packet n (firstErr.or (some e)) successes t

/-- `send_retried`: `retries + 1` sends. It fails only if all of them do, with the first error. -/
def sendRetried (packet : Bytes) (s : Session σ) : Except TransportError Unit × Session σ :=
  match sendLoop T packet (s.retries + 1) none 0 s.transport with
  | (some e, 0, t) => (.error e, { s with transport := t })
  | (_, _, t) => (.ok (), { s with transport := t })

/-- What `wait_for_reply` makes of one datagram: the reply, if it is one from `device`. -/
def accept (device : Device) (d : Datagram) : Option (Packet × Bytes) :=
  match Packet.fromBytes d.1 with
  | .error _ => none
  | .ok (packet, payload) =>
    -- neither the sequence number nor the method is looked at
    if packet.srcAddress ≠ device.mac then none
    else if device.ip ≠ "" ∧ d.2 ≠ device.ip then none
    else some (packet, payload)

/-- The loop of `wait_for_reply`, `fuel` rounds at most. -/
def waitLoop (device : Device) : Nat → σ → Except OpError (Packet × Bytes) × σ
  | 0, t => (.error (.recv .cancelled), t)
  | fuel + 1, t =>
    match T.recv t with
    | (.error e, t) => (.error (.recv e), t)
    | (.ok d, t) =>
      match accept device d with
      -- junk, another device, or the wrong source: discarded
      | none => waitLoop device fuel t
      | some reply => (.ok reply, t)

/-- `wait_for_reply`. -/
def waitForReply (device : Device) (s : Session σ) :
    Except OpError (Packet × Bytes) × Session σ :=
  let r := waitLoop T device (T.inFlight s.transport + 1) s.transport
  (r.1, { s with transport := r.2 })

/-- Rounds beyond what is in flight make no difference. -/
theorem waitLoop_fuel (device : Device) : ∀ (fuel fuel' : Nat) (t : σ),
    T.inFlight t < fuel → T.inFlight t < fuel' →
    waitLoop T device fuel t = waitLoop T device fuel' t
  | fuel + 1, fuel' + 1, t, h, h' => by
    unfold waitLoop
    split
    · rfl
    · next d t' hrecv =>
      have hlt : T.inFlight t' < T.inFlight t := T.recv_lt hrecv
      split
      · exact waitLoop_fuel device fuel fuel' t' (by omega) (by omega)
      · rfl

/-- **The loop of `wait_for_reply` without a bound**: receive, and go on unless it is the reply. -/
theorem waitForReply_eq (device : Device) (s : Session σ) :
    waitForReply T device s =
      match T.recv s.transport with
      | (.error e, t) => (.error (.recv e), { s with transport := t })
      | (.ok d, t) =>
        match accept device d with
        | none => waitForReply T device { s with transport := t }
        | some reply => (.ok reply, { s with transport := t }) := by
  rcases hrecv : T.recv s.transport with ⟨result, t⟩
  cases result with
  | error e => rw [waitForReply, waitLoop, hrecv]
  | ok d =>
    have hlt : T.inFlight t < T.inFlight s.transport := T.recv_lt hrecv
    rw [waitForReply, waitLoop, hrecv]
    cases haccept : accept device d with
    | some reply => simp only [haccept]
    | none =>
      -- there is one datagram less in flight, and one round less to go
      simp only [haccept]
      rw [waitLoop_fuel T device (T.inFlight s.transport) (T.inFlight t + 1) t hlt (by omega)]
      rfl

/--
The part every operation shares: build the header, send header and body, wait for the reply.

`body` is only looked at after the header has taken its sequence number.
-/
def request (device : Device) (ucpMethod : UInt16) (body : Except EncodeError Bytes)
    (s : Session σ) : Except OpError (Packet × Bytes) × Session σ :=
  let (header, s) := s.header device.mac ucpMethod false
  match body with
  | .error e => (.error (.encode e), s)
  | .ok body =>
    match sendRetried T (header.toBytes ++ body) s with
    | (.error e, s) => (.error (.send e), s)
    | (.ok (), s) => waitForReply T device s

end Session

end Udap
