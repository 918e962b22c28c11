import Udapcfg.Properties.Discovery
import Udapcfg.Udap.ClientCalls
import Udapcfg.Udap.Ops.Recorded

/-!
# Transports that cannot be told apart

An operation knows its transport by what its requests come to, a request by what its sends and its
wait come to. Where these agree the results are the same, however different the states are.

* `Transport.Simulates` — transports that answer alike
* `Transport.Agrees` — transports whose answers come to the same for a client
* `RequestsAlike` — requests that are answered alike, for so many requests
* `run_alike` — then so is every operation
* `request_alike`, `discover_alike`, `program_alike` — requests, discovery and whole programs on
  transports that agree
* `Agrees.recorded` — and these are sent the same
-/

namespace Udap

open Infra

variable {σ τ : Type}

namespace Transport

/-- Sending this packet comes to the same on related states, and leaves them related. -/
def SendsAlike (T : Transport σ) (T' : Transport τ) (R : σ → τ → Prop) (packet : Bytes) : Prop :=
  ∀ ⦃s t⦄, R s t → (T'.send packet t).1 = (T.send packet s).1 ∧
    R (T.send packet s).2 (T'.send packet t).2

/-- So does receiving. -/
def RecvsAlike (T : Transport σ) (T' : Transport τ) (R : σ → τ → Prop) : Prop :=
  ∀ ⦃s t⦄, R s t → (T'.recv t).1 = (T.recv s).1 ∧ R (T.recv s).2 (T'.recv t).2

/-- On related states the two transports answer alike, and are related afterwards. -/
structure Simulates (T : Transport σ) (T' : Transport τ) (R : σ → τ → Prop) : Prop where
  send : ∀ packet, T.SendsAlike T' R packet
  recv : T.RecvsAlike T' R

end Transport

/-- Sessions that differ in the states of their transports only. -/
structure Session.Alike (R : σ → τ → Prop) (s : Session σ) (t : Session τ) : Prop where
  transport : R s.transport t.transport
  retries : t.retries = s.retries
  sequence : t.sequence = s.sequence

/-- Equal results, and related sessions. -/
def Session.Answers {α : Type} (R : Session σ → Session τ → Prop) (r : α × Session σ)
    (r' : α × Session τ) : Prop := r'.1 = r.1 ∧ R r.2 r'.2

/--
On related sessions the requests of some handles are answered alike. The number says for how many
more requests the sessions are related, as long as they are answered.
-/
structure Session.RequestsAlike (T : Transport σ) (T' : Transport τ) (H : Device → Prop)
    (Q : Nat → Session σ → Session τ → Prop) : Prop where
  request : ∀ {device k s t}, H device → Q (k + 1) s t → ∀ {ucpMethod},
    ucpMethod ≠ Method.advDisc → ∀ body,
    let r := s.request T device ucpMethod body
    let r' := t.request T' device ucpMethod body
    r'.1 = r.1 ∧ Q 0 r.2 r'.2 ∧ ∀ reply, r.1 = .ok reply → Q k r.2 r'.2
  weaken : ∀ {k s t}, Q (k + 1) s t → Q k s t
  withParameters : ∀ {device}, H device → ∀ parameters,
    H { device with parameters := parameters }

variable {T : Transport σ} {T' : Transport τ} {R : σ → τ → Prop} {s : Session σ} {t : Session τ}

/-! ## The parts of a request -/

namespace Session

theorem sendLoop_alike {packet : Bytes} (h : T.SendsAlike T' R packet) :
    ∀ (n : Nat) (firstErr : Option TransportError) (successes : Nat) {s : σ} {t : τ}, R s t →
    (sendLoop T' packet n firstErr successes t).1 = (sendLoop T packet n firstErr successes s).1 ∧
    (sendLoop T' packet n firstErr successes t).2.1
      = (sendLoop T packet n firstErr successes s).2.1 ∧
    R (sendLoop T packet n firstErr successes s).2.2 (sendLoop T' packet n firstErr successes t).2.2
  | 0, _, _, _, _, hst => ⟨rfl, rfl, hst⟩
  | n + 1, firstErr, successes, s, t, hst => by
    obtain ⟨hresult, hnext⟩ := h hst
    unfold sendLoop
    rcases hs : T.send packet s with ⟨result, s₁⟩
    rcases ht : T'.send packet t with ⟨result', t₁⟩
    rw [hs, ht] at hresult hnext
    cases hresult
    cases result with
    | ok u => exact sendLoop_alike h n firstErr (successes + 1) hnext
    | error e => exact sendLoop_alike h n (firstErr.or (some e)) successes hnext

/-- Sending does not depend on what would be received. -/
theorem sendRetried_alike {packet : Bytes} (h : T.SendsAlike T' R packet) (hst : Alike R s t) :
    Answers (Alike R) (sendRetried T packet s) (sendRetried T' packet t) := by
  obtain ⟨hfirst, hsuccesses, hnext⟩ :=
    sendLoop_alike h (s.retries + 1) none 0 hst.transport
  unfold sendRetried Answers
  rw [hst.retries]
  rcases hs : sendLoop T packet (s.retries + 1) none 0 s.transport with ⟨firstErr, successes, s₁⟩
  rcases ht : sendLoop T' packet (s.retries + 1) none 0 t.transport with ⟨firstErr', successes', t₁⟩
  rw [hs, ht] at hfirst hsuccesses hnext
  cases hfirst
  cases hsuccesses
  have hafter : Alike R { s with transport := s₁ } ⟨t₁, s.retries, t.sequence⟩ :=
    ⟨hnext, rfl, hst.sequence⟩
  cases firstErr with
  | none => exact ⟨rfl, hafter⟩
  | some e =>
    cases successes with
    | zero => exact ⟨rfl, hafter⟩
    | succ n => exact ⟨rfl, hafter⟩

/-- What each send keeps, all sends keep. -/
theorem sendRetried_keeps {P : σ → Prop} (h : ∀ packet s, P s → P (T.send packet s).2)
    {s : Session σ} (packet : Bytes) (hs : P s.transport) : P (sendRetried T packet s).2.transport :=
  (sendRetried_alike (R := fun s t => s = t ∧ P t)
    (fun s t hst => by obtain ⟨rfl, hs⟩ := hst; exact ⟨rfl, rfl, h packet s hs⟩)
    ⟨⟨rfl, hs⟩, rfl, rfl⟩).2.transport.2

/-- The wait loop, by induction on what the first transport can still receive. -/
theorem waitForReply_alike (h : T.RecvsAlike T' R) (device : Device) {s : Session σ} {t : Session τ}
    (hst : Alike R s t) : Answers (Alike R) (waitForReply T device s) (waitForReply T' device t) := by
  induction hn : T.inFlight s.transport using Nat.strong_induction_on generalizing s t with
  | _ n ih =>
    obtain ⟨hresult, hnext⟩ := h hst.transport
    rw [waitForReply_eq, waitForReply_eq]
    rcases hs : T.recv s.transport with ⟨result, s₁⟩
    rcases ht : T'.recv t.transport with ⟨result', t₁⟩
    rw [hs, ht] at hresult hnext
    cases hresult
    have hafter : Alike R { s with transport := s₁ } { t with transport := t₁ } :=
      ⟨hnext, hst.retries, hst.sequence⟩
    cases result with
    | error e => exact ⟨rfl, hafter⟩
    | ok d =>
      have hlt : T.inFlight s₁ < n := hn ▸ T.recv_lt hs
      simp only
      cases accept device d with
      | none => exact ih _ hlt hafter rfl
      | some reply => exact ⟨rfl, hafter⟩

end Session

theorem drain_alike (h : T.RecvsAlike T' R) {s : σ} {t : τ} (hst : R s t) :
    (T'.drain t).1 = (T.drain s).1 ∧ (T'.drain t).2.1 = (T.drain s).2.1 ∧
      R (T.drain s).2.2 (T'.drain t).2.2 := by
  induction hn : T.inFlight s using Nat.strong_induction_on generalizing s t with
  | _ n ih =>
    obtain ⟨hresult, hnext⟩ := h hst
    rw [T.drain_eq, T'.drain_eq]
    rcases hs : T.recv s with ⟨result, s₁⟩
    rcases ht : T'.recv t with ⟨result', t₁⟩
    rw [hs, ht] at hresult hnext
    cases hresult
    cases result with
    | error e => exact ⟨rfl, rfl, hnext⟩
    | ok d =>
      have hlt : T.inFlight s₁ < n := hn ▸ T.recv_lt hs
      obtain ⟨hdatagrams, hrest⟩ := ih _ hlt hnext rfl
      exact ⟨congrArg (d :: ·) hdatagrams, hrest⟩

/-- The packets of a client whose handles have addresses in `D`. -/
inductive ClientPacket (D : Mac → Prop) : Bytes → Prop
  | discovery (s : Session Unit) :
    ClientPacket D (s.header Mac.zero Method.advDisc true).1.toBytes
  | request (s : Session Unit) {mac : Mac} {ucpMethod : UInt16} (body : Bytes) : D mac →
    ucpMethod ≠ Method.advDisc → ClientPacket D ((s.header mac ucpMethod false).1.toBytes ++ body)

/--
On related states the two transports come to the same for a client whose handles have addresses in
`D`: for its sends, for a wait, and for what a discovery makes of a registry.
-/
structure Transport.Agrees (T : Transport σ) (T' : Transport τ) (D : Mac → Prop)
    (R : σ → τ → Prop) : Prop where
  send : ∀ {packet}, ClientPacket D packet → T.SendsAlike T' R packet
  wait : ∀ {device s t}, D device.mac → Session.Alike R s t → Session.Answers (Session.Alike R)
    (Session.waitForReply T device s) (Session.waitForReply T' device t)
  heard : ∀ {s t}, R s t → ∀ r : Registry,
    (T'.drain t).1.foldl Registry.handleDiscoveryReply r
      = (T.drain s).1.foldl Registry.handleDiscoveryReply r ∧
    (T'.drain t).2.1 = (T.drain s).2.1 ∧ R (T.drain s).2.2 (T'.drain t).2.2

/-- For a client it is enough if its packets and its receives are alike. -/
theorem Transport.RecvsAlike.agrees {D : Mac → Prop} (h : T.RecvsAlike T' R)
    (hsend : ∀ {packet}, ClientPacket D packet → T.SendsAlike T' R packet) : T.Agrees T' D R where
  send := hsend
  wait _ hst := Session.waitForReply_alike h _ hst
  heard hst r := by
    obtain ⟨hdatagrams, hrest⟩ := drain_alike h hst
    exact ⟨by rw [hdatagrams], hrest⟩

theorem Transport.Simulates.agrees (h : T.Simulates T' R) (D : Mac → Prop) : T.Agrees T' D R :=
  h.recv.agrees fun {_} _ => h.send _

variable {D : Mac → Prop} {device : Device}

namespace Session

/-- **One request.** -/
theorem request_alike (h : T.Agrees T' D R) (hdevice : D device.mac) (hst : Alike R s t)
    {ucpMethod : UInt16} (hmethod : ucpMethod ≠ Method.advDisc) (body : Except EncodeError Bytes) :
    Answers (Alike R) (s.request T device ucpMethod body) (t.request T' device ucpMethod body) := by
  have hheader : (t.header device.mac ucpMethod false).1 = (s.header device.mac ucpMethod false).1 := by
    simp only [header, hst.sequence]
  have hafter : Alike R (s.header device.mac ucpMethod false).2
      (t.header device.mac ucpMethod false).2 :=
    ⟨hst.transport, hst.retries, congrArg (· + 1) hst.sequence⟩
  unfold request
  simp only [hheader]
  cases body with
  | error e => exact ⟨rfl, hafter⟩
  | ok body =>
    have hpacket : ClientPacket D ((s.header device.mac ucpMethod false).1.toBytes ++ body) :=
      .request ⟨(), 0, s.sequence⟩ body hdevice hmethod
    obtain ⟨hresult, hsent⟩ := sendRetried_alike (h.send hpacket) hafter
    simp only
    rcases hs : sendRetried T ((s.header device.mac ucpMethod false).1.toBytes ++ body)
      (s.header device.mac ucpMethod false).2 with ⟨result, s₁⟩
    rcases ht : sendRetried T' ((s.header device.mac ucpMethod false).1.toBytes ++ body)
      (t.header device.mac ucpMethod false).2 with ⟨result', t₁⟩
    rw [hs, ht] at hresult hsent
    cases hresult
    cases result with
    | error e => exact ⟨rfl, hsent⟩
    | ok u => exact h.wait hdevice hsent

end Session

/-- Transports that agree answer any number of requests alike. -/
theorem Transport.Agrees.requestsAlike (h : T.Agrees T' D R) :
    Session.RequestsAlike T T' (fun device => D device.mac) fun _ => Session.Alike R where
  request {device _ _ _} hdevice hst _ hmethod body := by
    obtain ⟨hresult, hsession⟩ := Session.request_alike h hdevice hst hmethod body
    exact ⟨hresult, hsession, fun _ _ => hsession⟩
  weaken hst := hst
  withParameters hdevice _ := hdevice

theorem Session.requestsAlike_of_simulates (h : T.Simulates T' R) :
    RequestsAlike T T' (fun _ => True) fun _ => Alike R :=
  (h.agrees fun _ => True).requestsAlike

/-! ## Operations -/

/-- The requests that a call makes at most. -/
def Call.requests (device : Device) : Call → Nat
  | .set _ => if device.parameters.isEmpty then 2 else 1
  | _ => 1

/-- An operation changes nothing of its handle but the cache. -/
theorem run_device {σ : Type} {T : Transport σ} (call : Call) (device : Device) (s : Session σ) :
    ∃ m, (call.run T device s).2.1 = { device with parameters := m } := by
  cases call with
  | getAll => exact getAll_device device s
  | set config => exact set_device device config s
  | get | reset | getIp | getUuid => exact ⟨device.parameters, rfl⟩

section Operations

open Session

variable {H : Device → Prop} {Q : Nat → Session σ → Session τ → Prop} {device : Device} {k : Nat}

theorem Session.RequestsAlike.weaken_zero (h : RequestsAlike T T' H Q) (hst : Q k s t) : Q 0 s t := by
  induction k with
  | zero => exact hst
  | succ k ih => exact ih (h.weaken hst)

/-- An operation that is a reading of one request. -/
theorem reading_alike {α : Type} {ucpMethod : UInt16} (hmethod : ucpMethod ≠ Method.advDisc)
    {body : Except EncodeError Bytes} {op : Session σ → Except OpError α × Session σ}
    {op' : Session τ → Except OpError α × Session τ}
    {read : Except OpError (Packet × Bytes) → Except OpError α}
    (hop : ∀ s, op s
      = (read (s.request T device ucpMethod body).1, (s.request T device ucpMethod body).2))
    (hop' : ∀ t, op' t
      = (read (t.request T' device ucpMethod body).1, (t.request T' device ucpMethod body).2))
    (h : RequestsAlike T T' H Q) (hdevice : H device) (hst : Q (k + 1) s t) :
    Answers (Q 0) (op s) (op' t) := by
  obtain ⟨hresult, hsession, _⟩ := h.request hdevice hst hmethod body
  rw [hop, hop', Answers, hresult]
  exact ⟨rfl, hsession⟩

variable (h : RequestsAlike T T' H Q)

include h

/-- A read that succeeds leaves one request less. -/
theorem get_alike (hdevice : H device) (hst : Q (k + 1) s t) (params : List String) :
    Answers (Q 0) (get T device params s) (get T' device params t) ∧
      ∀ m, (get T device params s).1 = .ok m →
        Q k (get T device params s).2 (get T' device params t).2 := by
  cases hmac : device.mac.isZero with
  | true =>
    simp only [get, hmac, if_true]
    exact ⟨⟨rfl, h.weaken_zero hst⟩, fun m hm => by cases hm⟩
  | false =>
    have hmethod : Method.getData ≠ Method.advDisc := by decide
    refine ⟨reading_alike hmethod (get_eq hmac params) (get_eq hmac params) h hdevice hst, ?_⟩
    rw [get_eq hmac, get_eq hmac]
    intro m hm
    obtain ⟨_, _, hok⟩ := h.request hdevice hst hmethod (.ok (getDataPayload params))
    rcases hresult : (s.request T device Method.getData (.ok (getDataPayload params))).1 with e | reply
    · rw [hresult] at hm
      cases hm
    · exact hok reply hresult

theorem reset_alike (hdevice : H device) (hst : Q (k + 1) s t) :
    Answers (Q 0) (reset T device s) (reset T' device t) := by
  cases hmac : device.mac.isZero with
  | true => simpa [reset, hmac, Answers] using h.weaken_zero hst
  | false => exact reading_alike (by decide) (reset_eq hmac) (reset_eq hmac) h hdevice hst

theorem getIp_alike (hdevice : H device) (hst : Q (k + 1) s t) :
    Answers (Q 0) (getIp T device s) (getIp T' device t) := by
  cases hmac : device.mac.isZero with
  | true => simpa [getIp, hmac, Answers] using h.weaken_zero hst
  | false => exact reading_alike (by decide) (getIp_eq hmac) (getIp_eq hmac) h hdevice hst

theorem getUuid_alike (hdevice : H device) (hst : Q (k + 1) s t) :
    Answers (Q 0) (getUuid T device s) (getUuid T' device t) := by
  cases hmac : device.mac.isZero with
  | true => simpa [getUuid, hmac, Answers] using h.weaken_zero hst
  | false => exact reading_alike (by decide) (getUuid_eq hmac) (getUuid_eq hmac) h hdevice hst

theorem getAll_alike (hdevice : H device) (hst : Q (k + 1) s t) :
    (getAll T' device t).1 = (getAll T device s).1 ∧
      (getAll T' device t).2.1 = (getAll T device s).2.1 ∧ H (getAll T device s).2.1 ∧
      Q 0 (getAll T device s).2.2 (getAll T' device t).2.2 ∧
      ((getAll T device s).1 = .ok () → Q k (getAll T device s).2.2 (getAll T' device t).2.2) := by
  obtain ⟨⟨hresult, hsession⟩, hok⟩ := get_alike h hdevice hst names
  unfold getAll
  rcases hs : get T device names s with ⟨result, s₁⟩
  rcases ht : get T' device names t with ⟨result', t₁⟩
  rw [hs, ht] at hresult hsession hok
  cases hresult
  cases result with
  | error e => exact ⟨rfl, rfl, hdevice, hsession, fun hdone => by cases hdone⟩
  | ok m => exact ⟨rfl, rfl, h.withParameters hdevice _, hsession, fun _ => hok m rfl⟩

theorem preludeRead_alike (hdevice : H device)
    (hst : Q (Call.requests device (.set OrdMap.empty)) s t) :
    (preludeRead T' device t).1 = (preludeRead T device s).1 ∧
      (preludeRead T' device t).2.1 = (preludeRead T device s).2.1 ∧
      H (preludeRead T device s).2.1 ∧
      Q 0 (preludeRead T device s).2.2 (preludeRead T' device t).2.2 ∧
      ((preludeRead T device s).1 = .ok () →
        Q 1 (preludeRead T device s).2.2 (preludeRead T' device t).2.2) := by
  unfold preludeRead
  unfold Call.requests at hst
  split
  · next hempty =>
    simp only [hempty, if_true] at hst
    exact getAll_alike h hdevice hst
  · next hempty =>
    simp only [hempty, Bool.false_eq_true, if_false] at hst
    exact ⟨rfl, rfl, hdevice, h.weaken hst, fun _ => hst⟩

theorem set_alike (hdevice : H device) (config : Params)
    (hst : Q (Call.requests device (.set config)) s t) :
    (set T' device config t).1 = (set T device config s).1 ∧
      (set T' device config t).2.1 = (set T device config s).2.1 ∧
      H (set T device config s).2.1 ∧
      Q 0 (set T device config s).2.2 (set T' device config t).2.2 := by
  obtain ⟨hresult, hhandle, hdevice₁, hsession, hok⟩ := preludeRead_alike h hdevice hst
  unfold set
  split
  · exact ⟨rfl, rfl, hdevice, h.weaken_zero hst⟩
  · rcases hs : preludeRead T device s with ⟨result, device₁, s₁⟩
    rcases ht : preludeRead T' device t with ⟨result', device₁', t₁⟩
    rw [hs, ht] at hresult hhandle hsession hok
    rw [hs] at hdevice₁
    cases hresult
    cases hhandle
    cases result with
    | error e => exact ⟨rfl, rfl, hdevice₁, hsession⟩
    | ok u =>
      have hmethod : Method.setData ≠ Method.advDisc := by decide
      obtain ⟨hresult, hsent, _⟩ := h.request hdevice₁ (hok rfl) hmethod
        (setDataPayload (device₁.parameters.extend config))
      simp only
      rcases hs₁ : s₁.request T device₁ Method.setData
        (setDataPayload (device₁.parameters.extend config)) with ⟨result, s₂⟩
      rcases ht₁ : t₁.request T' device₁ Method.setData
        (setDataPayload (device₁.parameters.extend config)) with ⟨result', t₂⟩
      rw [hs₁, ht₁] at hresult hsent
      cases hresult
      cases result with
      | error e => exact ⟨rfl, rfl, hdevice₁, hsent⟩
      | ok reply =>
        simp only
        split
        · exact ⟨rfl, rfl, h.withParameters hdevice₁ _, hsent⟩
        · exact ⟨rfl, rfl, hdevice₁, hsent⟩

/-- **Every operation.** -/
theorem run_alike (hdevice : H device) (call : Call) (hst : Q (call.requests device) s t) :
    (call.run T' device t).1 = (call.run T device s).1 ∧
      (call.run T' device t).2.1 = (call.run T device s).2.1 ∧
      H (call.run T device s).2.1 ∧
      Q 0 (call.run T device s).2.2 (call.run T' device t).2.2 := by
  cases call with
  | get params =>
    obtain ⟨⟨hresult, hsession⟩, _⟩ := get_alike h hdevice hst params
    exact ⟨congrArg Outcome.params hresult, rfl, hdevice, hsession⟩
  | getAll =>
    obtain ⟨hdone, hhandle, hdevice, hsession, _⟩ := getAll_alike h hdevice hst
    exact ⟨congrArg Outcome.done hdone, hhandle, hdevice, hsession⟩
  | set config =>
    obtain ⟨hdone, hrest⟩ := set_alike h hdevice config hst
    exact ⟨congrArg Outcome.done hdone, hrest⟩
  | reset =>
    obtain ⟨hresult, hsession⟩ := reset_alike h hdevice hst
    exact ⟨congrArg Outcome.done hresult, rfl, hdevice, hsession⟩
  | getIp =>
    obtain ⟨hresult, hsession⟩ := getIp_alike h hdevice hst
    exact ⟨congrArg Outcome.netConfig hresult, rfl, hdevice, hsession⟩
  | getUuid =>
    obtain ⟨hresult, hsession⟩ := getUuid_alike h hdevice hst
    exact ⟨congrArg Outcome.uuid hresult, rfl, hdevice, hsession⟩

end Operations

/-! ## Discovery -/

open Session

/-- When no send succeeds nothing is received. -/
theorem Client.discover_of_error (T : Transport σ) {c : Client σ} {s : Session σ}
    {e : TransportError} (hsend : c.sendDiscovery T = (.error e, s)) :
    c.discover T = (.error (.send e), { c with session := s }) := by
  unfold Client.sendDiscovery Client.discoveryPacket at hsend
  unfold Client.discover
  simp only [hsend]

/-- **Discovery** ends alike and finds the same devices. -/
theorem discover_alike (h : T.Agrees T' D R) {c : Client σ} {c' : Client τ}
    (hsession : Alike R c.session c'.session) (hdevices : c'.devices = c.devices) :
    (c'.discover T').1 = (c.discover T).1 ∧
      (c'.discover T').2.devices = (c.discover T).2.devices ∧
      Alike R (c.discover T).2.session (c'.discover T').2.session := by
  have hheader : c'.discoveryPacket = c.discoveryPacket := by
    simp only [Client.discoveryPacket, header, hsession.sequence]
  have hafter : Alike R (c.session.header Mac.zero Method.advDisc true).2
      (c'.session.header Mac.zero Method.advDisc true).2 :=
    ⟨hsession.transport, hsession.retries, congrArg (· + 1) hsession.sequence⟩
  have hpacket : ClientPacket D c.discoveryPacket.toBytes := .discovery ⟨(), 0, c.session.sequence⟩
  obtain ⟨hresult, hsent⟩ := sendRetried_alike (h.send hpacket) hafter
  rcases hs : c.sendDiscovery T with ⟨result, s₁⟩
  rcases ht : c'.sendDiscovery T' with ⟨result', t₁⟩
  have hs' := hs
  have ht' := ht
  unfold Client.sendDiscovery at hs' ht'
  rw [hheader] at ht'
  rw [hs', ht'] at hresult hsent
  cases hresult
  cases result with
  | ok u =>
    obtain ⟨hfound, hend, hlast⟩ := h.heard hsent.transport c.devices
    rw [Client.discover_eq T hs, Client.discover_eq T' ht]
    simp only [hfound, hend, hdevices]
    exact ⟨trivial, trivial, hlast, hsent.retries, hsent.sequence⟩
  | error e =>
    -- nothing was sent, and nothing is received
    rw [Client.discover_of_error T hs, Client.discover_of_error T' ht]
    exact ⟨rfl, hdevices, hsent⟩

/-! ## Recorded transports -/

section Recorded

/-- The log of a transport makes no difference to it. -/
theorem recorded_recvsAlike (T : Transport σ) : T.recorded.RecvsAlike T fun s t => t = s.1 := by
  rintro s _ rfl
  exact ⟨rfl, rfl⟩

/-- A loop of receives sends nothing. -/
theorem log_drain {t : σ × List Bytes} : (T.recorded.drain t).2.2.2 = t.2 := by
  induction hn : T.recorded.inFlight t using Nat.strong_induction_on generalizing t with
  | _ n ih =>
    have hlog : (T.recorded.recv t).2.2 = t.2 := rfl
    rw [T.recorded.drain_eq]
    rcases hrecv : T.recorded.recv t with ⟨e | d, t₁⟩
    · rwa [hrecv] at hlog
    · rw [hrecv] at hlog
      exact (ih _ (hn ▸ T.recorded.recv_lt hrecv) rfl).trans hlog

/-- **Transports that agree** are sent the same. -/
theorem Transport.Agrees.recorded (h : T.Agrees T' D R) :
    T.recorded.Agrees T'.recorded D fun s t => R s.1 t.1 ∧ t.2 = s.2 where
  send := by
    rintro packet hpacket s t ⟨hst, hlog⟩
    obtain ⟨hresult, hnext⟩ := h.send hpacket hst
    exact ⟨hresult, hnext, congrArg (· ++ [packet]) hlog⟩
  wait := by
    rintro device s t hdevice ⟨⟨hst, hlog⟩, hretries, hsequence⟩
    have herased : Session.Alike R s.erase t.erase := ⟨hst, hretries, hsequence⟩
    obtain ⟨hresult, hafter⟩ := h.wait hdevice herased
    rw [Session.waitForReply_recorded, Session.waitForReply_recorded] at hresult hafter
    refine ⟨hresult, ⟨hafter.transport, ?_⟩, hafter.retries, hafter.sequence⟩
    exact (Session.log_waitForReply device t).trans
      (hlog.trans (Session.log_waitForReply device s).symm)
  heard := by
    rintro s t ⟨hst, hlog⟩ r
    obtain ⟨hds, hend, hlast⟩ := drain_alike (recorded_recvsAlike T) (s := s) rfl
    obtain ⟨hds', hend', hlast'⟩ := drain_alike (recorded_recvsAlike T') (s := t) rfl
    obtain ⟨hfound, hsame, hafter⟩ := h.heard hst r
    rw [hds, hds'] at hfound
    rw [hend, hend'] at hsame
    rw [hlast, hlast'] at hafter
    exact ⟨hfound, hsame, hafter, log_drain.trans (hlog.trans log_drain.symm)⟩

end Recorded

/-! ## Programs -/

/-- What an operation returns for a handle without an address. -/
def Call.refused : Call → Outcome
  | .get _ => .params (.error (.zeroMac "GetData"))
  | .getAll => .done (.error (.zeroMac "GetData"))
  | .set _ => .done (.error (.zeroMac "SetData"))
  | .reset => .done (.error (.zeroMac "Reset"))
  | .getIp => .netConfig (.error (.zeroMac "GetIP"))
  | .getUuid => .uuid (.error (.zeroMac "GetUUID"))

/-- Without an address an operation does nothing. -/
theorem run_of_isZero (T : Transport σ) (s : Session σ) (hmac : device.mac.isZero = true)
    (call : Call) : call.run T device s = (call.refused, device, s) := by
  cases call <;> simp [Call.run, Call.refused, get, getAll, set, reset, getIp, getUuid, hmac]

/-- Programs that differ in the states of their transports only, with devices in `D`. -/
structure Program.Alike (D : Mac → Prop) (R : σ → τ → Prop) (p : Program σ) (q : Program τ) :
    Prop where
  session : Session.Alike R p.client.session q.client.session
  devices : q.client.devices = p.client.devices
  held : q.held = p.held
  ours : ∀ device ∈ p.held, device.mac.isZero = false → D device.mac

/-- Devices that are taken are in `D`. -/
def TakesIn (D : Mac → Prop) (actions : List Action) : Prop :=
  ∀ mac, .take mac ∈ actions → mac.isZero = false → D mac

/-- **One action.** -/
theorem act_alike (h : T.Agrees T' D R) {p : Program σ} {q : Program τ} (hp : p.Alike D R q)
    (action : Action) (htake : TakesIn D [action]) :
    p.answer T action = q.answer T' action ∧ (p.act T action).Alike D R (q.act T' action) := by
  obtain ⟨⟨session, r⟩, held⟩ := p
  obtain ⟨⟨session', r'⟩, held'⟩ := q
  obtain ⟨hsession, hdevices, hheld, hours⟩ := hp
  simp only at hdevices hheld
  subst hdevices hheld
  cases action with
  | discover =>
    have hclients : Session.Alike R (⟨session, r'⟩ : Client σ).session
        (⟨session', r'⟩ : Client τ).session := hsession
    obtain ⟨hresult, hfound, hafter⟩ := discover_alike h hclients rfl
    exact ⟨congrArg Answer.discovered hresult.symm, hafter, hfound, rfl, hours⟩
  | take mac =>
    refine ⟨rfl, hsession, rfl, rfl, ?_⟩
    intro device hdevice hmac
    rcases List.mem_append.mp hdevice with hdevice | hdevice
    · exact hours device hdevice hmac
    · have hkeyed := r'.keyed mac device (Option.mem_toList.mp hdevice)
      rw [hkeyed] at hmac ⊢
      exact htake mac List.mem_cons_self hmac
  | call index call =>
    simp only [Program.answer, Program.act, Client.call_eq]
    cases hheld : held'[index]? with
    | none => exact ⟨rfl, hsession, rfl, rfl, hours⟩
    | some device =>
      cases hmac : device.mac.isZero with
      | true =>
        simp only [Option.map_some, run_of_isZero _ _ hmac]
        refine ⟨trivial, hsession, rfl, rfl, ?_⟩
        intro device' hdevice'
        rcases List.mem_or_eq_of_mem_set hdevice' with hdevice' | rfl
        · exact hours device' hdevice'
        · exact hours device' (List.mem_of_getElem? hheld)
      | false =>
        obtain ⟨houtcome, hhandle, hmine, hafter⟩ := run_alike h.requestsAlike
          (hours device (List.mem_of_getElem? hheld) hmac) call hsession
        simp only [Option.map_some, houtcome, hhandle]
        refine ⟨trivial, hafter, rfl, rfl, ?_⟩
        intro device' hdevice' hmac'
        rcases List.mem_or_eq_of_mem_set hdevice' with hdevice' | rfl
        · exact hours device' hdevice' hmac'
        · exact hmine

/-- **Whole programs** on transports that agree. -/
theorem program_alike (h : T.Agrees T' D R) {p : Program σ} {q : Program τ} (hp : p.Alike D R q)
    (actions : List Action) (htakes : TakesIn D actions) :
    p.answers T actions = q.answers T' actions ∧
      (p.run T actions).Alike D R (q.run T' actions) := by
  induction actions generalizing p q with
  | nil => exact ⟨rfl, hp⟩
  | cons action rest ih =>
    have htake : TakesIn D [action] := by
      intro mac hmem
      rw [List.mem_singleton] at hmem
      exact htakes mac (hmem ▸ List.mem_cons_self)
    obtain ⟨hanswer, hnext⟩ := act_alike h hp action htake
    obtain ⟨hanswers, hlast⟩ := ih hnext fun mac hmem => htakes mac (List.mem_cons_of_mem action hmem)
    exact ⟨List.cons_eq_cons.mpr ⟨hanswer, hanswers⟩, hlast⟩

end Udap
