import Udapcfg.Udap.Ops.Cases

/-!
# Operations on a recorded transport

* `request_recorded` — the log does not change what a request does
* `log_request` — what a request leaves in the log
* `log_preludeRead`, `log_set` — the same for the two halves of `set`
-/

namespace Udap

open Infra

variable {σ : Type} {T : Transport σ}

/-! ## Without the log -/

namespace Session

/-- The session without its log. -/
def erase (s : Session (σ × List Bytes)) : Session σ := ⟨s.transport.1, s.retries, s.sequence⟩

theorem sendLoop_recorded (packet : Bytes) : ∀ (n : Nat) (firstErr : Option TransportError)
    (successes : Nat) (t : σ × List Bytes),
    sendLoop T packet n firstErr successes t.1 =
      let r := sendLoop T.recorded packet n firstErr successes t
      (r.1, r.2.1, r.2.2.1)
  | 0, _, _, _ => rfl
  | n + 1, firstErr, successes, t => by
    have hsend : T.recorded.send packet t
        = ((T.send packet t.1).1, (T.send packet t.1).2, t.2 ++ [packet]) := rfl
    rw [sendLoop, sendLoop, hsend]
    rcases T.send packet t.1 with ⟨_ | _, t'⟩
    · exact sendLoop_recorded packet n _ successes (t', t.2 ++ [packet])
    · exact sendLoop_recorded packet n firstErr _ (t', t.2 ++ [packet])

theorem sendRetried_recorded (packet : Bytes) (s : Session (σ × List Bytes)) :
    sendRetried T packet s.erase
      = ((sendRetried T.recorded packet s).1, (sendRetried T.recorded packet s).2.erase) := by
  have hloop := sendLoop_recorded (T := T) packet (s.retries + 1) none 0 s.transport
  unfold sendRetried
  simp only [erase, hloop]
  rcases sendLoop T.recorded packet (s.retries + 1) none 0 s.transport with ⟨_ | e, _ | k, t⟩ <;> rfl

theorem waitLoop_recorded (device : Device) : ∀ (fuel : Nat) (t : σ × List Bytes),
    waitLoop T device fuel t.1 =
      let r := waitLoop T.recorded device fuel t
      (r.1, r.2.1)
  | 0, _ => rfl
  | fuel + 1, t => by
    have hrecv : T.recorded.recv t = ((T.recv t.1).1, (T.recv t.1).2, t.2) := rfl
    rw [waitLoop, waitLoop, hrecv]
    rcases T.recv t.1 with ⟨_ | d, t'⟩
    · rfl
    · cases haccept : accept device d with
      | none =>
        simp only [haccept]
        exact waitLoop_recorded device fuel (t', t.2)
      | some reply => simp only [haccept]

theorem waitForReply_recorded (device : Device) (s : Session (σ × List Bytes)) :
    waitForReply T device s.erase
      = ((waitForReply T.recorded device s).1, (waitForReply T.recorded device s).2.erase) := by
  have hloop := waitLoop_recorded (T := T) device (T.inFlight s.transport.1 + 1) s.transport
  unfold waitForReply
  simp only [erase, hloop]
  rfl

/-- **A request does what it does without the log.** -/
theorem request_recorded (device : Device) (ucpMethod : UInt16) (body : Except EncodeError Bytes)
    (s : Session (σ × List Bytes)) :
    s.erase.request T device ucpMethod body = ((s.request T.recorded device ucpMethod body).1,
      (s.request T.recorded device ucpMethod body).2.erase) := by
  cases body with
  | error e => rfl
  | ok body =>
    have hsend := sendRetried_recorded (T := T)
      ((s.header device.mac ucpMethod false).1.toBytes ++ body)
      (s.header device.mac ucpMethod false).2
    unfold request
    have hheader : Session.header device.mac ucpMethod false s.erase
        = ((s.header device.mac ucpMethod false).1, (s.header device.mac ucpMethod false).2.erase) :=
      rfl
    simp only [hheader, hsend]
    rcases sendRetried T.recorded ((s.header device.mac ucpMethod false).1.toBytes ++ body)
      (s.header device.mac ucpMethod false).2 with ⟨_ | _, s'⟩
    · rfl
    · exact waitForReply_recorded device s'

end Session

/-! ## The log of a request -/

namespace Session

/-- The packet a request sends: header and body. -/
def packet (device : Device) (ucpMethod : UInt16) (body : Bytes) (s : Session σ) : Bytes :=
  (s.header device.mac ucpMethod false).1.toBytes ++ body

/-- What the peer reads from it. -/
theorem fromBytes_packet (device : Device) (ucpMethod : UInt16) (body : Bytes) (s : Session σ) :
    Packet.fromBytes (s.packet device ucpMethod body)
      = .ok ((s.header device.mac ucpMethod false).1, body) := Packet.fromBytes_toBytes rfl body

/-- The packets handed to the transport so far. -/
def log (s : Session (σ × List Bytes)) : List Bytes := s.transport.2

theorem log_sendLoop (packet : Bytes) : ∀ (n : Nat) (firstErr : Option TransportError)
    (successes : Nat) (t : σ × List Bytes),
    (sendLoop T.recorded packet n firstErr successes t).2.2.2 = t.2 ++ List.replicate n packet
  | 0, _, _, _ => by simp [sendLoop]
  | n + 1, firstErr, successes, t => by
    unfold sendLoop
    rcases hsend : T.recorded.send packet t with ⟨_ | _, t'⟩
    all_goals
      have ht' : t'.2 = t.2 ++ [packet] := by
        have h2 := congrArg (fun r => r.2.2) hsend
        exact h2.symm
      simp only [log_sendLoop packet n, ht', List.append_assoc, List.replicate_succ]
      rfl

/-- `send_retried` sends the packet `retries + 1` times, whatever the outcome. -/
theorem log_sendRetried (packet : Bytes) (s : Session (σ × List Bytes)) :
    (sendRetried T.recorded packet s).2.log
      = s.log ++ List.replicate (s.retries + 1) packet := by
  have h := log_sendLoop (T := T) packet (s.retries + 1) none 0 s.transport
  unfold sendRetried
  split
  · next hloop => rw [hloop] at h; exact h
  · next hloop => rw [hloop] at h; exact h

theorem log_waitLoop (device : Device) : ∀ (fuel : Nat) (t : σ × List Bytes),
    (waitLoop T.recorded device fuel t).2.2 = t.2
  | 0, _ => rfl
  | fuel + 1, t => by
    unfold waitLoop
    rcases hrecv : T.recorded.recv t with ⟨_ | d, t'⟩
    all_goals
      have ht' : t'.2 = t.2 := by
        have h2 := congrArg (fun r => r.2.2) hrecv
        exact h2.symm
    · exact ht'
    · cases haccept : accept device d with
      | none =>
        simp only [haccept]
        rw [log_waitLoop device fuel, ht']
      | some reply => simp only [haccept]; exact ht'

/-- Waiting sends nothing. -/
theorem log_waitForReply (device : Device) (s : Session (σ × List Bytes)) :
    (waitForReply T.recorded device s).2.log = s.log := log_waitLoop device _ _

/-- A request whose body does not encode sends nothing. -/
theorem log_request_error (device : Device) (ucpMethod : UInt16) (e : EncodeError)
    (s : Session (σ × List Bytes)) :
    (s.request T.recorded device ucpMethod (.error e)).2.log = s.log := rfl

/-- **A request sends one packet, `retries + 1` times, and nothing else.** -/
theorem log_request (device : Device) (ucpMethod : UInt16) (body : Bytes)
    (s : Session (σ × List Bytes)) :
    (s.request T.recorded device ucpMethod (.ok body)).2.log
      = s.log ++ List.replicate (s.retries + 1) (s.packet device ucpMethod body) := by
  have h := log_sendRetried (T := T) (s.packet device ucpMethod body)
    (s.header device.mac ucpMethod false).2
  unfold request
  simp only
  unfold packet at h
  split
  · next hsend =>
    rw [hsend] at h
    exact h
  · next hsend =>
    rw [log_waitForReply]
    rw [hsend] at h
    exact h

end Session

/-- Decides whether a packet is a `SetData` request. -/
def isSetDataPacket (packet : Bytes) : Bool :=
  match Packet.fromBytes packet with
  | .ok (header, _) => header.ucpMethod = Method.setData
  | .error _ => false

theorem isSetDataPacket_packet (device : Device) (ucpMethod : UInt16) (body : Bytes)
    (s : Session σ) :
    isSetDataPacket (s.packet device ucpMethod body) = decide (ucpMethod = Method.setData) := by
  rw [isSetDataPacket, Session.fromBytes_packet]
  rfl

/-- A `get` sends its request and nothing else. -/
theorem log_get {device : Device} (hmac : device.mac.isZero = false) (params : List String)
    (s : Session (σ × List Bytes)) :
    (get T.recorded device params s).2.log = s.log ++ List.replicate (s.retries + 1)
      (s.packet device Method.getData (getDataPayload params)) := by
  rw [get_eq hmac, ← Session.log_request]

/-- Nothing the prelude sends is a `SetData` request. -/
theorem log_preludeRead {device : Device} (hmac : device.mac.isZero = false)
    (s : Session (σ × List Bytes)) :
    ∃ sent, (preludeRead T.recorded device s).2.2.log = s.log ++ sent ∧
      ∀ packet ∈ sent, isSetDataPacket packet = false := by
  rcases hp : preludeRead T.recorded device s with ⟨_ | _, device₁, s₁⟩
  · obtain ⟨_, hget, _⟩ := preludeRead_error hp
    refine ⟨_, by rw [← log_get (T := T) hmac names s, hget], ?_⟩
    intro packet hmem
    rw [List.eq_of_mem_replicate hmem, isSetDataPacket_packet]
    rfl
  · rcases preludeRead_ok hp with ⟨_, _, rfl⟩ | ⟨_, m, hget, _⟩
    · exact ⟨[], by simp, by simp⟩
    · refine ⟨_, by rw [← log_get (T := T) hmac names s, hget], ?_⟩
      intro packet hmem
      rw [List.eq_of_mem_replicate hmem, isSetDataPacket_packet]
      rfl

/-- **What `set` sends after its prelude**: the merged map, `retries + 1` times. -/
theorem log_set {device device₁ : Device} {config : Params} {s s₁ : Session (σ × List Bytes)}
    {body : Bytes} (hmac : device.mac.isZero = false)
    (hprelude : preludeRead T.recorded device s = (.ok (), device₁, s₁))
    (hbody : setDataPayload (device₁.parameters.extend config) = .ok body) :
    (set T.recorded device config s).2.2.log = s₁.log ++ List.replicate (s₁.retries + 1)
      (s₁.packet device₁ Method.setData body) := by
  rw [← Session.log_request, set, if_neg (by simp [hmac]), hprelude]
  simp only [hbody]
  rcases s₁.request T.recorded device₁ Method.setData (.ok body) with ⟨_ | ⟨reply, payload⟩, s₂⟩
  · rfl
  · simp only
    split <;> rfl

/-! ## Scripted replies -/

/-- A session over a script, with a log that is still empty. -/
def scripted (sends : List (Except TransportError Unit))
    (recvs : List (Except TransportError Datagram)) (retries : Nat) (sequence : UInt16) :
    Session (Script × List Bytes) :=
  ⟨(⟨sends, recvs⟩, []), retries, sequence⟩

/-- The header of a reply. -/
def replyHeader (source : Mac) (ucpMethod : UInt16) : Packet where
  dstBroadcast := 0
  dstType := addrTypeEth
  dstAddress := Mac.zero
  srcBroadcast := 0
  srcType := addrTypeEth
  srcAddress := source
  sequence := 1
  udapType := udapTypeUcp
  ucpFlags := 0
  uapClass := uapClassUcp
  ucpMethod := ucpMethod

end Udap
