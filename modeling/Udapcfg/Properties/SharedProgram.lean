import Udapcfg.Properties.ClientHistory
import Udapcfg.Properties.SharedDiscovery

/-!
# A program on all interfaces

A client on a `MultiTransport` is used for one thing after another. Its waits are cancelled, it
discards replies that are not for it, and interfaces fail meanwhile. What comes in on an interface
is still received in order and once.

* `Transport.Keeps` — what sends and receives keep, and what receives fail with
* `program_keeps`, `run_fails` — then so do programs, and operations fail to receive with nothing
  else
* `program_shared` — any program on all interfaces
-/

namespace Udap

open Infra MultiState Session

/-! ## What a transport keeps -/

variable {σ : Type}

/-- Sends and receives keep `P`, and receives fail with errors that are `E`. -/
structure Transport.Keeps (T : Transport σ) (P : σ → Prop) (E : TransportError → Prop) : Prop where
  send : ∀ {s}, P s → ∀ packet, P (T.send packet s).2
  recv : ∀ {s}, P s → P (T.recv s).2
  fails : ∀ {s}, P s → ∀ e, (T.recv s).1 = .error e → E e

/-- The outcome is this error. -/
def Outcome.Fails (e : OpError) : Outcome → Prop
  | .params result => result = .error e
  | .done result => result = .error e
  | .netConfig result => result = .error e
  | .uuid result => result = .error e

section Keeps

variable {T : Transport σ} {P : σ → Prop} {E : TransportError → Prop} {s : Session σ}
  {device : Device} {e : TransportError}

/-- A transport that keeps something simulates itself as long as it does. -/
theorem Transport.Keeps.simulates (h : T.Keeps P E) : T.Simulates T fun s t => s = t ∧ P s where
  send := by
    rintro packet s _ ⟨rfl, hs⟩
    exact ⟨rfl, rfl, h.send hs packet⟩
  recv := by
    rintro s _ ⟨rfl, hs⟩
    exact ⟨rfl, rfl, h.recv hs⟩

theorem alike_self (hs : P s.transport) : Alike (fun s t => s = t ∧ P s) s s := ⟨⟨rfl, hs⟩, rfl, rfl⟩

variable (h : T.Keeps P E)

include h

theorem preludeRead_keeps (hs : P s.transport) : P (preludeRead T device s).2.2.transport :=
  (preludeRead_alike (requestsAlike_of_simulates h.simulates) trivial
    (alike_self hs)).2.2.2.1.transport.2

/-- The wait loop, by induction on what can still be received. -/
theorem waitForReply_fails (hs : P s.transport)
    (hfail : (waitForReply T device s).1 = .error (.recv e)) : E e := by
  induction hn : T.inFlight s.transport using Nat.strong_induction_on generalizing s with
  | _ n ih =>
    have hnext := h.recv hs
    have hfails := h.fails hs
    rw [waitForReply_eq] at hfail
    rcases hrecv : T.recv s.transport with ⟨result, t⟩
    rw [hrecv] at hfail hnext hfails
    cases result with
    | error e' =>
      cases hfail
      exact hfails e rfl
    | ok d =>
      have hlt : T.inFlight t < n := hn ▸ T.recv_lt hrecv
      simp only at hfail
      cases haccept : accept device d with
      | none =>
        rw [haccept] at hfail
        exact ih _ hlt hnext hfail rfl
      | some reply =>
        rw [haccept] at hfail
        cases hfail

theorem request_fails (hs : P s.transport) {ucpMethod : UInt16} {body : Except EncodeError Bytes}
    (hfail : (s.request T device ucpMethod body).1 = .error (.recv e)) : E e := by
  unfold request at hfail
  cases body with
  | error source => cases hfail
  | ok body =>
    have hsent : P (sendRetried T ((s.header device.mac ucpMethod false).1.toBytes ++ body)
        (s.header device.mac ucpMethod false).2).2.transport :=
      sendRetried_keeps (P := P) (fun packet _ hs => h.send hs packet) _ hs
    simp only at hfail
    rcases hsend : sendRetried T ((s.header device.mac ucpMethod false).1.toBytes ++ body)
      (s.header device.mac ucpMethod false).2 with ⟨source | u, s₁⟩
    · rw [hsend] at hfail
      cases hfail
    · rw [hsend] at hfail hsent
      exact waitForReply_fails h hsent hfail

/-! ## Errors of operations -/

omit h in
/-- The error of a reply is none of a receive. -/
theorem replyError_ne_recv (device : Device) (reply : Packet) (payload : Bytes) :
    replyError device reply payload ≠ .recv e := by
  unfold replyError
  split
  · split <;> simp
  · split <;> simp

omit h in
/-- Where no reply is read as one, an error to receive is one of the request. -/
theorem onReply_recv {α : Type} {read : Packet → Bytes → Except OpError α}
    (hread : ∀ reply payload, read reply payload ≠ .error (.recv e))
    {result : Except OpError (Packet × Bytes)} (hfail : onReply read result = .error (.recv e)) :
    result = .error (.recv e) := by
  cases result with
  | error e' => exact congrArg Except.error (Except.error.inj hfail)
  | ok reply => exact absurd hfail (hread reply.1 reply.2)

theorem get_fails (hs : P s.transport) {params : List String}
    (hfail : (get T device params s).1 = .error (.recv e)) : E e := by
  cases hmac : device.mac.isZero with
  | true =>
    rw [get, if_pos hmac] at hfail
    cases hfail
  | false =>
    rw [get_eq hmac] at hfail
    refine request_fails h hs (onReply_recv ?_ hfail)
    intro reply payload
    unfold getReply
    split
    · split <;> simp
    · split <;> simp

theorem getAll_fails (hs : P s.transport) (hfail : (getAll T device s).1 = .error (.recv e)) :
    E e := by
  unfold getAll at hfail
  rcases hget : get T device names s with ⟨e' | m, s₁⟩
  · rw [hget] at hfail
    cases hfail
    exact get_fails h hs (congrArg Prod.fst hget)
  · rw [hget] at hfail
    cases hfail

theorem set_fails (hs : P s.transport) {config : Params}
    (hfail : (set T device config s).1 = .error (.recv e)) : E e := by
  rcases hset : set T device config s with ⟨result, device', s'⟩
  rw [hset] at hfail
  cases hfail
  rcases set_error hset with ⟨_, hzero, _⟩ | ⟨_, hprelude⟩ | ⟨_, s₁, hprelude, hwrite⟩
  · cases hzero
  · obtain ⟨_, hget, _⟩ := preludeRead_error hprelude
    exact get_fails h hs (congrArg Prod.fst hget)
  · have hnext : P (preludeRead T device s).2.2.transport := preludeRead_keeps h hs
    rw [hprelude] at hnext
    rcases hwrite with hrequest | ⟨reply, payload, _, _, hreply⟩
    · exact request_fails h hnext (congrArg Prod.fst hrequest)
    · exact absurd hreply.symm (replyError_ne_recv device' reply payload)

/-- A reset does not even fail when its wait is cancelled. -/
theorem reset_fails (hs : P s.transport) (hfail : (reset T device s).1 = .error (.recv e)) :
    E e ∧ e ≠ .cancelled := by
  cases hmac : device.mac.isZero with
  | true =>
    rw [reset, if_pos hmac] at hfail
    cases hfail
  | false =>
    rw [reset_eq hmac] at hfail
    rcases hrequest : (s.request T device Method.reset (.ok [])).1 with e' | ⟨reply, payload⟩
    · rw [hrequest] at hfail
      cases e' with
      | recv source =>
        cases source with
        | cancelled => cases hfail
        | io message =>
          cases hfail
          exact ⟨request_fails h hs hrequest, by simp⟩
        | interfaceBindUnsupported =>
          cases hfail
          exact ⟨request_fails h hs hrequest, by simp⟩
      | _ => cases hfail
    · rw [hrequest] at hfail
      simp only [onResetReply] at hfail
      unfold resetReply at hfail
      split at hfail
      · cases hfail
      · split at hfail
        · split at hfail <;> cases hfail
        · cases hfail

theorem getIp_fails (hs : P s.transport) (hfail : (getIp T device s).1 = .error (.recv e)) :
    E e := by
  cases hmac : device.mac.isZero with
  | true =>
    rw [getIp, if_pos hmac] at hfail
    cases hfail
  | false =>
    rw [getIp_eq hmac] at hfail
    refine request_fails h hs (onReply_recv ?_ hfail)
    intro reply payload
    unfold getIpReply
    split
    · simp
    · simp [replyError_ne_recv]

theorem getUuid_fails (hs : P s.transport) (hfail : (getUuid T device s).1 = .error (.recv e)) :
    E e := by
  cases hmac : device.mac.isZero with
  | true =>
    rw [getUuid, if_pos hmac] at hfail
    cases hfail
  | false =>
    rw [getUuid_eq hmac] at hfail
    refine request_fails h hs (onReply_recv ?_ hfail)
    intro reply payload
    unfold getUuidReply
    split
    · unfold GetUuid.parseResponse
      split <;> simp
    · simp [replyError_ne_recv]

/-- **Every operation** fails to receive only as the transport does. -/
theorem run_fails (hs : P s.transport) (call : Call)
    (hfail : (call.run T device s).1.Fails (.recv e)) : E e ∧ (call = .reset → e ≠ .cancelled) := by
  cases call with
  | get params => exact ⟨get_fails h hs hfail, fun hcall => by cases hcall⟩
  | getAll => exact ⟨getAll_fails h hs hfail, fun hcall => by cases hcall⟩
  | set config => exact ⟨set_fails h hs hfail, fun hcall => by cases hcall⟩
  | reset =>
    obtain ⟨he, hne⟩ := reset_fails h hs hfail
    exact ⟨he, fun _ => hne⟩
  | getIp => exact ⟨getIp_fails h hs hfail, fun hcall => by cases hcall⟩
  | getUuid => exact ⟨getUuid_fails h hs hfail, fun hcall => by cases hcall⟩

/-- A loop of receives ends as one of them does. -/
theorem drain_fails {s : σ} (hs : P s) : E (T.drain s).2.1 := by
  induction hn : T.inFlight s using Nat.strong_induction_on generalizing s with
  | _ n ih =>
    have hnext := h.recv hs
    have hfails := h.fails hs
    rw [T.drain_eq]
    rcases hrecv : T.recv s with ⟨e | d, s₁⟩
    · rw [hrecv] at hfails
      exact hfails e rfl
    · rw [hrecv] at hnext
      exact ih _ (hn ▸ T.recv_lt hrecv) hnext rfl

/-- **Discovery** ends without an error when it is cancelled. -/
theorem discover_fails {c : Client σ} (hs : P c.session.transport)
    (hfail : (c.discover T).1 = .error (.recv e)) : E e ∧ e ≠ .cancelled := by
  rcases hsend : c.sendDiscovery T with ⟨source | u, s₁⟩
  · rw [Client.discover_of_error T hsend] at hfail
    cases hfail
  · have hsent : P s₁.transport := by
      have hkept : P (c.sendDiscovery T).2.transport :=
        sendRetried_keeps (P := P) (fun packet _ hs => h.send hs packet) _ hs
      rwa [hsend] at hkept
    have hend := drain_fails h hsent
    rw [Client.discover_eq T hsend] at hfail
    simp only at hfail
    cases hdrain : (T.drain s₁.transport).2.1 with
    | cancelled =>
      rw [hdrain] at hfail
      cases hfail
    | io message =>
      rw [hdrain] at hfail hend
      cases hfail
      exact ⟨hend, by simp⟩
    | interfaceBindUnsupported =>
      rw [hdrain] at hfail hend
      cases hfail
      exact ⟨hend, by simp⟩

end Keeps

/-! ## Programs -/

section Programs

variable {T : Transport σ} {P : σ → Prop} {E : TransportError → Prop}

/-- An action of a program fails to receive. -/
def Program.Fails (T : Transport σ) (p : Program σ) (e : TransportError) : Action → Prop
  | .discover => (p.client.discover T).1 = .error (.recv e)
  | .take _ => False
  | .call index call =>
    ∃ device ∈ p.held[index]?, (p.client.call T device call).1.Fails (.recv e)

/-- **Every program keeps** what the transport keeps. -/
theorem program_keeps (h : T.Keeps P E) {p : Program σ} (hp : P p.client.session.transport)
    (actions : List Action) : P (p.run T actions).client.session.transport :=
  (program_alike (h.simulates.agrees fun _ => True)
    ⟨alike_self hp, rfl, rfl, fun _ _ _ => trivial⟩ actions fun _ _ _ => trivial).2.session.transport.2

/-- What an action of it fails with. Neither a discovery nor a reset reports that it was
cancelled. -/
theorem action_fails (h : T.Keeps P E) {p : Program σ} (hp : P p.client.session.transport)
    {e : TransportError} {action : Action} (hfail : p.Fails T e action) :
    E e ∧ (e = .cancelled → ∃ index call, action = .call index call ∧ call ≠ .reset) := by
  cases action with
  | discover =>
    obtain ⟨he, hne⟩ := discover_fails h hp hfail
    exact ⟨he, fun hcancelled => absurd hcancelled hne⟩
  | take mac => cases hfail
  | call index call =>
    obtain ⟨device, _, hfail⟩ := hfail
    rw [Client.call_eq] at hfail
    obtain ⟨he, hreset⟩ := run_fails h hp call hfail
    exact ⟨he, fun hcancelled => ⟨index, call, rfl, fun hcall => hreset hcall hcancelled⟩⟩

end Programs

/-! ## On all interfaces -/

/-- A client on so many interfaces where nothing has arrived yet, with a log of what it receives. -/
def Program.onInterfaces (n retries : Nat) (sends : List (Except TransportError Unit))
    (events : List MultiEvent) : Program (MultiSocket × List Datagram) :=
  ⟨Client.new (⟨start n, sends, events⟩, []) retries, []⟩

/-- What is sent does not matter, and what is received is what the run returns. -/
theorem multiSocket_keeps (n : Nat) (sends : List (Except TransportError Unit))
    (events : List MultiEvent) : MultiSocket.transport.received.Keeps
      (fun s => ∃ ran, Ran n ⟨start n, sends, events⟩ s.1 s.2 ran) (· = .cancelled) where
  send {s} := by
    rintro ⟨ran, hran⟩ packet
    refine ⟨ran, ?_⟩
    show Ran n _ (MultiSocket.send s.1).2 s.2 ran
    unfold MultiSocket.send
    split
    · exact hran
    · exact ⟨hran.run, hran.arrivals, hran.delivered⟩
  recv {s} := by
    rintro ⟨ran, hran⟩
    obtain ⟨ran', ds, hran', hresult⟩ := recv_ran (kept_run (kept_start n) hran.run)
    refine ⟨ran ++ ran', ?_⟩
    have hds : (MultiSocket.transport.recv s.1).1.toOption.toList = ds := by
      rcases hresult with ⟨d, hd, rfl⟩ | ⟨hcancelled, rfl⟩
      · rw [hd]
        rfl
      · rw [hcancelled]
        rfl
    show Ran n _ (MultiSocket.transport.recv s.1).2
      (s.2 ++ (MultiSocket.transport.recv s.1).1.toOption.toList) (ran ++ ran')
    rw [hds]
    exact hran.trans hran'
  fails {s} := by
    rintro ⟨ran, hran⟩ e he
    obtain ⟨_, _, _, hresult⟩ := recv_ran (kept_run (kept_start n) hran.run)
    rcases hresult with ⟨d, hd, _⟩ | ⟨hcancelled, _⟩
    · cases hd.symm.trans he
    · exact Except.error.inj (he.symm.trans hcancelled)

/-- **Any program on all interfaces**, whatever arrives in whatever order, whichever interfaces
fail, and wherever calls are cancelled: what its calls have received is of each interface the oldest
of what arrived there, in order and once. Of an interface that has not failed the rest is still
queued. An action that fails to receive was cancelled, and no failure of an interface is ever
reported. -/
theorem program_shared (n retries : Nat) (sends : List (Except TransportError Unit))
    (events : List MultiEvent) (actions : List Action) :
    let T := MultiSocket.transport.received
    let p := (Program.onInterfaces n retries sends events).run T actions
    let socket := p.client.session.transport.1
    ∃ ran, (start n).run ran = some socket.state ∧
      (∀ i < n, arrivals i events = arrivals i ran ++ arrivals i socket.events) ∧
      p.client.session.transport.2 = socket.state.delivered ∧
      (∀ i < n, socket.state.returnedBy i <+: arrivals i ran) ∧
      (∀ i < n, ¬ Failed i ran → arrivals i ran = socket.state.returnedBy i ++ socket.state.queue i) ∧
      ∀ action e, p.Fails T e action → e = .cancelled ∧
        ∃ index call, action = .call index call ∧ call ≠ .reset := by
  intro T p socket
  have hkeeps := multiSocket_keeps n sends events
  have hstart : Ran n ⟨start n, sends, events⟩ ⟨start n, sends, events⟩ [] [] :=
    ⟨rfl, fun _ _ => rfl, (List.append_nil _).symm⟩
  have hkept := program_keeps hkeeps (p := Program.onInterfaces n retries sends events)
    ⟨[], hstart⟩ actions
  obtain ⟨ran, hran⟩ := hkept
  have hk : Kept n ran socket.state := kept_run (kept_start n) hran.run
  refine ⟨ran, hran.run, hran.arrivals, ?_, fun i _ => hk.returned i, ?_, ?_⟩
  · rw [hran.delivered]
    rfl
  · intro i hi hfailed
    have hlive : socket.state.isRetired i = false :=
      Bool.eq_false_iff.mpr fun hretired => hfailed ((hk.failed i hi).mp hretired)
    exact hk.queued i hi hlive
  · intro action e hfail
    obtain ⟨rfl, hcall⟩ := action_fails hkeeps ⟨ran, hran⟩ hfail
    exact ⟨rfl, hcall rfl⟩

end Udap
