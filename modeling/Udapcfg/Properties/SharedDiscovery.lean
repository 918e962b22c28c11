import Udapcfg.Properties.Discovery
import Udapcfg.Properties.MultiTransport
import Udapcfg.Properties.Simulation
import Udapcfg.Udap.MultiSocket

/-!
# Discovery on all interfaces

A client that discovers through a `MultiTransport`: what it has found when the call ends, whatever
arrives at the children in whatever order, and whichever of them fail.

* `Ran` — receives are a run of the state machine, and take what it returns
* `CutOff` — what has happened when a loop of receives ends
* `discover_shared` — when discovery ends, and what is found, child by child
-/

namespace Udap

open Infra MultiState

variable {n : Nat}

/-! ## Packets -/

/-- A packet that was returned. -/
def Returned.packet? : Returned → Option Datagram
  | .packet _ d => some d
  | .error _ => none

/-- A packet of child `i` that was returned. -/
def Returned.packetOf? (i : Nat) : Returned → Option Datagram
  | .packet child d => if child = i then some d else none
  | .error _ => none

/-- The packets that were returned, of all children. -/
def MultiState.delivered (s : MultiState) : List Datagram := s.returned.filterMap Returned.packet?

theorem MultiState.returnedBy_eq (s : MultiState) (i : Nat) :
    s.returnedBy i = s.returned.filterMap (Returned.packetOf? i) := by
  refine congrArg (List.filterMap · s.returned) ?_
  funext r
  cases r <;> rfl

theorem MultiState.mem_delivered {s : MultiState} {d : Datagram} :
    d ∈ s.delivered ↔ ∃ i, d ∈ s.returnedBy i := by
  simp only [delivered, returnedBy_eq, List.mem_filterMap]
  constructor
  · rintro ⟨r, hr, hd⟩
    cases r with
    | packet child d' =>
      cases hd
      exact ⟨child, _, hr, if_pos rfl⟩
    | error e => cases hd
  · rintro ⟨i, r, hr, hd⟩
    cases r with
    | packet child d' =>
      refine ⟨_, hr, ?_⟩
      rw [Returned.packetOf?] at hd
      split at hd
      · exact hd
      · cases hd
    | error e => cases hd

/-- Of a MAC that the packets of one child announce only, that child has the last word. -/
theorem lastAnnounced_packets {mac : Mac} {i : Nat} {rs : List Returned}
    (honly : ∀ j, j ≠ i → ∀ d ∈ rs.filterMap (Returned.packetOf? j), announcedAs mac d = none) :
    lastAnnounced (rs.filterMap Returned.packet?) mac
      = lastAnnounced (rs.filterMap (Returned.packetOf? i)) mac := by
  unfold lastAnnounced
  induction rs with
  | nil => rfl
  | cons r rs ih =>
    have hrest := ih fun j hj d hd => honly j hj d (by
      rw [List.filterMap_cons]
      split
      · exact hd
      · exact List.mem_cons_of_mem _ hd)
    cases r with
    | error e => exact hrest
    | packet child d =>
      have hall : (Returned.packet child d :: rs).filterMap Returned.packet?
          = d :: rs.filterMap Returned.packet? := rfl
      by_cases hchild : child = i
      · have hone : (Returned.packet child d :: rs).filterMap (Returned.packetOf? i)
            = d :: rs.filterMap (Returned.packetOf? i) := List.filterMap_cons_some (if_pos hchild)
        rw [hall, hone, List.reverse_cons, List.reverse_cons, List.findSome?_append,
          List.findSome?_append, hrest]
      · -- what another child has does not count
        have hone : (Returned.packet child d :: rs).filterMap (Returned.packetOf? i)
            = rs.filterMap (Returned.packetOf? i) := List.filterMap_cons_none (if_neg hchild)
        have hnone : announcedAs mac d = none :=
          honly child hchild d (by simp [Returned.packetOf?])
        rw [hall, hone, List.reverse_cons, List.findSome?_append, hrest]
        simp [hnone]

/-! ## Receives -/

/-- A run that takes the client from one state of the transport to another, and what it
was given. -/
structure Ran (n : Nat) (t t' : MultiSocket) (ds : List Datagram) (ran : List MultiEvent) : Prop where
  run : t.state.run ran = some t'.state
  arrivals : ∀ i < n, arrivals i t.events = arrivals i ran ++ arrivals i t'.events
  delivered : t'.state.delivered = t.state.delivered ++ ds

theorem run_append_of_run {s s' : MultiState} {events : List MultiEvent}
    (h : s.run events = some s') (events' : List MultiEvent) :
    s.run (events ++ events') = s'.run events' := by
  induction events generalizing s with
  | nil => rw [← Option.some.inj h, List.nil_append]
  | cons event events ih =>
    rw [MultiState.run] at h
    rw [List.cons_append, MultiState.run]
    cases hstep : s.step event with
    | none =>
      rw [hstep] at h
      cases h
    | some s₁ =>
      rw [hstep] at h
      exact ih h

theorem Ran.trans {t t' t'' : MultiSocket} {ds ds' : List Datagram} {ran ran' : List MultiEvent}
    (h : Ran n t t' ds ran) (h' : Ran n t' t'' ds' ran') : Ran n t t'' (ds ++ ds') (ran ++ ran') where
  run := (run_append_of_run h.run ran').trans h'.run
  arrivals i hi := by rw [h.arrivals i hi, h'.arrivals i hi, arrivals_append, List.append_assoc]
  delivered := by rw [h'.delivered, h.delivered, List.append_assoc]

variable {s : MultiState} {before : List MultiEvent}

/-- What happens is a step, or it is nothing and brings nothing. -/
theorem happen_run (hk : Kept n before s) (event : MultiEvent) :
    ∃ ran, s.run ran = some (MultiSocket.happen s event) ∧
      ∀ i < n, arrivals i [event] = arrivals i ran := by
  by_cases hown : event = .call ∨ event = .drop
  · refine ⟨[], ?_, ?_⟩ <;> rcases hown with rfl | rfl
    · rfl
    · rfl
    · exact fun _ _ => rfl
    · exact fun _ _ => rfl
  · have hhappen : MultiSocket.happen s event = (s.step event).getD s := by
      cases event <;> first | rfl | exact absurd (by simp) hown
    rw [hhappen]
    cases hstep : s.step event with
    | some s' =>
      refine ⟨[event], ?_, fun _ _ => rfl⟩
      rw [MultiState.run, hstep]
      rfl
    | none =>
      refine ⟨[], rfl, ?_⟩
      intro i hi
      cases event with
      | arrive child d =>
        -- only a child that does not exist takes nothing
        have hchild : child ≠ i := by
          rintro rfl
          rw [← hk.length] at hi
          rw [MultiState.step, List.getElem?_eq_getElem hi] at hstep
          cases hstep
        simp [Udap.arrivals, hchild]
      | fire | call | poll | wake | drop => rfl

/-- A call ends by the token: a child says so, or there is no child left. -/
def MultiEvent.Cancels : MultiEvent → Prop
  | .poll _ .cancelled => True
  | .wake => True
  | _ => False

/-- While a call is in progress, what happens leaves it so or has it return. -/
theorem happen_returned (event : MultiEvent) (hcall : s.call ≠ none) :
    let s' := MultiSocket.happen s event
    (s'.call ≠ none ∧ s'.returned = s.returned) ∨ (s'.call = none ∧ ∃ r,
      s'.returned = s.returned ++ [r] ∧ ∀ e, r = .error e → e = .cancelled ∧ event.Cancels) := by
  intro s'
  by_cases hown : event = .call ∨ event = .drop
  · have hsame : s' = s := by rcases hown with rfl | rfl <;> rfl
    rw [hsame]
    exact .inl ⟨hcall, rfl⟩
  · have hhappen : s' = (s.step event).getD s := by
      cases event <;> first | rfl | exact absurd (by simp) hown
    rw [hhappen]
    cases hstep : s.step event with
    | none => exact .inl ⟨hcall, rfl⟩
    | some s' =>
      rw [Option.getD_some]
      cases multiStep_of_step hstep with
      | arrive hi => exact .inl ⟨hcall, rfl⟩
      | fire => exact .inl ⟨hcall, rfl⟩
      | call => exact absurd (.inl rfl) hown
      | pending => exact .inl ⟨by simp, rfl⟩
      | packet => exact .inr ⟨rfl, _, rfl, fun e he => by cases he⟩
      | cancelled => exact .inr ⟨rfl, _, rfl, fun e he => by cases he; exact ⟨rfl, trivial⟩⟩
      | error => exact .inl ⟨by simp [loop], rfl⟩
      | wake => exact .inr ⟨rfl, _, rfl, fun e he => by cases he; exact ⟨rfl, trivial⟩⟩
      | drop => exact absurd (.inr rfl) hown

theorem delivered_append {s s' : MultiState} {r : Returned} (h : s'.returned = s.returned ++ [r]) :
    s'.delivered = s.delivered ++ r.packet?.toList := by
  rw [delivered, h, List.filterMap_append]
  cases r <;> rfl

/-- What a receive has for the client is what the call returned. -/
def Took (s s' : MultiState) (result : Except TransportError Datagram) (ds : List Datagram) : Prop :=
  s'.delivered = s.delivered ++ ds ∧
    ((∃ d, result = .ok d ∧ ds = [d]) ∨ (result = .error .cancelled ∧ ds = []))

theorem recvLoop_ran : ∀ (events : List MultiEvent) {s : MultiState} {before : List MultiEvent},
    Kept n before s → s.call ≠ none → ∃ ran ds,
      let r := MultiSocket.recvLoop events s
      s.run ran = some r.2.1 ∧ (∀ i < n, arrivals i events = arrivals i ran ++ arrivals i r.2.2) ∧
      Took s r.2.1 r.1 ds
  | [], s, _, _, _ => ⟨[], [], rfl, fun _ _ => rfl, (List.append_nil _).symm, .inr ⟨rfl, rfl⟩⟩
  | event :: events, s, before, hk, hcall => by
    obtain ⟨first, hfirst, harrivals⟩ := happen_run hk event
    have hsplit : ∀ i < n, arrivals i (event :: events) = arrivals i first ++ arrivals i events := by
      intro i hi
      rw [← harrivals i hi, ← arrivals_append]
      rfl
    rcases happen_returned event hcall with ⟨hnext, hsame⟩ | ⟨hnone, r, hreturned, hcancelled⟩
    · -- the call goes on
      obtain ⟨rest, ds, hrun, hrest, htook⟩ := recvLoop_ran events (kept_run hk hfirst) hnext
      have hloop : MultiSocket.recvLoop (event :: events) s
          = MultiSocket.recvLoop events (MultiSocket.happen s event) := by
        rw [MultiSocket.recvLoop]
        split
        · next h _ => exact absurd h hnext
        · rfl
      have hdelivered : (MultiSocket.happen s event).delivered = s.delivered := by
        rw [delivered, hsame, delivered]
      rw [hloop]
      refine ⟨first ++ rest, ds, (run_append_of_run hfirst rest).trans hrun, ?_, ?_⟩
      · intro i hi
        rw [hsplit i hi, hrest i hi, arrivals_append, List.append_assoc]
      · rw [Took, ← hdelivered]
        exact htook
    · have hloop : MultiSocket.recvLoop (event :: events) s
          = (MultiSocket.answer r, MultiSocket.happen s event, events) := by
        rw [MultiSocket.recvLoop]
        simp only [hnone, hreturned, List.getLast?_concat]
      rw [hloop]
      refine ⟨first, r.packet?.toList, hfirst, hsplit, delivered_append hreturned, ?_⟩
      cases r with
      | packet child d => exact .inl ⟨d, rfl, rfl⟩
      | error e => exact .inr ⟨by rw [MultiSocket.answer, (hcancelled e rfl).1], rfl⟩

/-- Where receiving stops: all that was to happen has, or the last event was that a call ended by
the token. -/
def CutOff (happened rest : List MultiEvent) (s : MultiState) : Prop :=
  rest = [] ∨ (∃ before event, happened = before ++ [event] ∧ event.Cancels) ∧
    s.returned.getLast? = some (.error .cancelled)

theorem CutOff.append {happened rest : List MultiEvent} (h : CutOff happened rest s)
    (before : List MultiEvent) : CutOff (before ++ happened) rest s := by
  refine h.imp_right ?_
  rintro ⟨⟨before', event, rfl, hcancels⟩, hlast⟩
  exact ⟨⟨before ++ before', event, (List.append_assoc ..).symm, hcancels⟩, hlast⟩

/-- A receive that is cancelled has been cut off. -/
theorem recvLoop_happened : ∀ (events : List MultiEvent) {s : MultiState}, s.call ≠ none →
    let r := MultiSocket.recvLoop events s
    ∃ happened, events = happened ++ r.2.2 ∧ ∀ e, r.1 = .error e → CutOff happened r.2.2 r.2.1
  | [], _, _ => ⟨[], rfl, fun _ _ => .inl rfl⟩
  | event :: events, s, hcall => by
    rcases happen_returned event hcall with ⟨hnext, _⟩ | ⟨hnone, r, hreturned, hcancelled⟩
    · obtain ⟨happened, hevents, hcut⟩ := recvLoop_happened events hnext
      have hloop : MultiSocket.recvLoop (event :: events) s
          = MultiSocket.recvLoop events (MultiSocket.happen s event) := by
        rw [MultiSocket.recvLoop]
        split
        · next h _ => exact absurd h hnext
        · rfl
      rw [hloop]
      exact ⟨event :: happened, congrArg (event :: ·) hevents, fun e he => (hcut e he).append [event]⟩
    · have hlast : (MultiSocket.happen s event).returned.getLast? = some r := by
        rw [hreturned, List.getLast?_concat]
      have hloop : MultiSocket.recvLoop (event :: events) s
          = (MultiSocket.answer r, MultiSocket.happen s event, events) := by
        rw [MultiSocket.recvLoop]
        simp only [hnone, hlast]
      rw [hloop]
      refine ⟨[event], rfl, ?_⟩
      intro e he
      cases r with
      | packet child d => cases he
      | error e' =>
        obtain ⟨rfl, hcancels⟩ := hcancelled e' rfl
        exact .inr ⟨⟨[], event, rfl, hcancels⟩, hlast⟩

/-- A call is in progress once it has started. -/
theorem call_run (s : MultiState) : ∃ first, s.run first = some ((s.step .call).getD s) ∧
    (∀ i, arrivals i first = []) ∧ ((s.step .call).getD s).delivered = s.delivered ∧
    ((s.step .call).getD s).call ≠ none := by
  rw [MultiState.step]
  cases hcall : s.call with
  | none =>
    refine ⟨[.call], ?_, fun _ => rfl, rfl, by simp [loop]⟩
    rw [MultiState.run, MultiState.step, hcall]
    rfl
  | some call => exact ⟨[], rfl, fun _ => rfl, rfl, by simp [hcall]⟩

/-- **A receive** is a run, and takes what the run returns. -/
theorem recv_ran {t : MultiSocket} (hk : Kept n before t.state) :
    let r := MultiSocket.transport.recv t
    ∃ ran ds, Ran n t r.2 ds ran ∧
      ((∃ d, r.1 = .ok d ∧ ds = [d]) ∨ (r.1 = .error .cancelled ∧ ds = [])) := by
  obtain ⟨first, hfirst, hnone, hsame, hcall⟩ := call_run t.state
  obtain ⟨ran, ds, hrun, harrivals, hdelivered, hresult⟩ :=
    recvLoop_ran t.events (kept_run hk hfirst) hcall
  refine ⟨first ++ ran, ds, ⟨(run_append_of_run hfirst ran).trans hrun, ?_, ?_⟩, hresult⟩
  · intro i hi
    rw [arrivals_append, hnone, List.nil_append]
    exact harrivals i hi
  · rw [← hsame]
    exact hdelivered

/-- **A loop of receives** ends with a cancellation, and takes what the run returns. -/
theorem drain_ran {t : MultiSocket} (hk : Kept n before t.state) :
    let r := MultiSocket.transport.drain t
    r.2.1 = .cancelled ∧ ∃ ran, Ran n t r.2.2 r.1 ran := by
  induction hlen : t.events.length using Nat.strong_induction_on generalizing t before with
  | _ k ih =>
    obtain ⟨ran, ds, hran, hresult⟩ := recv_ran hk
    rcases hrecv : MultiSocket.transport.recv t with ⟨result, t'⟩
    rw [hrecv] at hran hresult
    rw [Transport.drain_eq, hrecv]
    rcases hresult with ⟨d, rfl, rfl⟩ | ⟨rfl, rfl⟩
    · have hlt : t'.events.length < k := hlen ▸ MultiSocket.transport.recv_lt hrecv
      obtain ⟨hcancelled, ran', hran'⟩ := ih _ hlt (kept_run hk hran.run) rfl
      exact ⟨hcancelled, _, hran.trans hran'⟩
    · exact ⟨rfl, ran, hran⟩

/-- A loop of receives ends when it is cut off. -/
theorem drain_happened (t : MultiSocket) :
    let r := MultiSocket.transport.drain t
    ∃ happened, t.events = happened ++ r.2.2.events ∧ CutOff happened r.2.2.events r.2.2.state := by
  induction hlen : t.events.length using Nat.strong_induction_on generalizing t with
  | _ k ih =>
    obtain ⟨_, _, _, _, hcall⟩ := call_run t.state
    obtain ⟨happened, hevents, hcut⟩ := recvLoop_happened t.events hcall
    rw [Transport.drain_eq]
    rcases hrecv : MultiSocket.transport.recv t with ⟨e | d, t'⟩
    · obtain ⟨hresult, rfl⟩ := Prod.mk.inj hrecv
      exact ⟨happened, hevents, hcut e hresult⟩
    · have hlt : t'.events.length < k := hlen ▸ MultiSocket.transport.recv_lt hrecv
      obtain ⟨_, rfl⟩ := Prod.mk.inj hrecv
      obtain ⟨happened', hevents', hcut'⟩ := ih _ hlt _ rfl
      refine ⟨happened ++ happened', ?_, hcut'.append happened⟩
      rw [List.append_assoc, ← hevents']
      exact hevents

/-! ## Discovery -/

/-- What discovery has found, said child by child: `heard i` is what arrived at child
`i` meanwhile. -/
structure FoundOn (n : Nat) (heard : Nat → List Datagram) (s : MultiState) (r : Registry) : Prop where
  /-- What is found was announced at a child. -/
  sound : ∀ device ∈ r.devices, ∃ i < n, ∃ d ∈ heard i, Announces d device.mac device
  /-- What was announced at a child that has not failed is found, unless it is still queued there. -/
  complete : ∀ i < n, s.isRetired i = false → ∀ d ∈ heard i, d ∉ s.queue i → ∀ mac device,
    Announces d mac device → ∃ device', r.byMac.get? mac = some device'
  /-- A MAC that one child hears of only is known as that child heard of it last. -/
  latest : ∀ i < n, s.isRetired i = false → s.queue i = [] → ∀ mac,
    (∀ j < n, j ≠ i → ∀ d ∈ heard j, ∀ device, ¬ Announces d mac device) →
    r.byMac.get? mac = lastAnnounced (heard i) mac

/-- Nothing arrives at a child that does not exist. -/
theorem arrivals_of_le {ran : List MultiEvent} {s : MultiState} (h : (start n).run ran = some s)
    {i : Nat} (hi : n ≤ i) : arrivals i ran = [] := by
  have hkeeps : ∀ events s event s', (Kept n events s ∧ arrivals i events = []) →
      s.step event = some s' → Kept n (events ++ [event]) s' ∧ arrivals i (events ++ [event]) = [] := by
    rintro events s event s' ⟨hk, hnone⟩ hstep
    refine ⟨hk.step hstep, ?_⟩
    rw [arrivals_append, hnone, List.nil_append]
    cases multiStep_of_step hstep with
    | @arrive child d hlt =>
      have hchild : child ≠ i := by
        rintro rfl
        rw [hk.length] at hlt
        exact absurd hlt (Nat.not_lt.mpr hi)
      simp [Udap.arrivals, hchild]
    | fire | call | pending | packet | cancelled | error | wake | drop => rfl
  exact (run_invariant hkeeps ⟨kept_start n, rfl⟩ h).2

theorem Kept.foundOn {ran : List MultiEvent} {s : MultiState} (h : (start n).run ran = some s) :
    FoundOn n (fun i => arrivals i ran) s
      (s.delivered.foldl Registry.handleDiscoveryReply Registry.empty) := by
  have hk : Kept n ran s := kept_run (kept_start n) h
  have hget (mac : Mac) : (s.delivered.foldl Registry.handleDiscoveryReply Registry.empty).byMac.get?
      mac = lastAnnounced s.delivered mac := by
    rw [get?_foldl_handleDiscoveryReply]
    exact Option.or_none
  have hreturned {i : Nat} {d : Datagram} (hd : d ∈ s.returnedBy i) : i < n ∧ d ∈ arrivals i ran := by
    have hmem := (hk.returned i).subset hd
    refine ⟨?_, hmem⟩
    by_contra hi
    rw [arrivals_of_le h (Nat.not_lt.mp hi)] at hmem
    cases hmem
  refine ⟨?_, ?_, ?_⟩
  · intro device hdevice
    rw [mem_devices, hget] at hdevice
    obtain ⟨before, d, after, hsplit, hd, _⟩ := lastAnnounced_eq_some_iff.mp hdevice
    have hmem : d ∈ s.delivered := by
      rw [hsplit]
      exact List.mem_append_right _ List.mem_cons_self
    obtain ⟨i, hi⟩ := mem_delivered.mp hmem
    exact ⟨i, (hreturned hi).1, d, (hreturned hi).2, hd⟩
  · intro i hi hlive d hd hqueue mac device hannounces
    rw [hk.queued i hi hlive] at hd
    have hmem : d ∈ s.delivered :=
      mem_delivered.mpr ⟨i, (List.mem_append.mp hd).resolve_right hqueue⟩
    rw [hget]
    refine Option.ne_none_iff_exists'.mp ?_
    intro hnone
    exact lastAnnounced_eq_none_iff.mp hnone d hmem device hannounces
  · intro i hi hlive hqueue mac honly
    have hall : arrivals i ran = s.returnedBy i := by
      rw [hk.queued i hi hlive, hqueue, List.append_nil]
    rw [hget, hall, delivered, returnedBy_eq]
    refine lastAnnounced_packets ?_
    intro j hj d hd
    rw [← returnedBy_eq] at hd
    obtain ⟨hlt, hmem⟩ := hreturned hd
    exact announcedAs_eq_none_iff.mpr (honly j hlt hj d hmem)

/-- Only what the children of the transport heard counts. -/
theorem FoundOn.congr {heard heard' : Nat → List Datagram} {s : MultiState} {r : Registry}
    (h : FoundOn n heard s r) (hsame : ∀ i < n, heard' i = heard i) : FoundOn n heard' s r where
  sound device hdevice := by
    obtain ⟨i, hi, d, hd, hannounces⟩ := h.sound device hdevice
    exact ⟨i, hi, d, hsame i hi ▸ hd, hannounces⟩
  complete i hi hlive d hd := h.complete i hi hlive d (hsame i hi ▸ hd)
  latest i hi hlive hqueue mac honly := by
    rw [hsame i hi]
    exact h.latest i hi hlive hqueue mac fun j hj hne d hd => honly j hj hne d (hsame j hj ▸ hd)

/-- **Discovery is a run**, once its packet is out, and the registry holds what the run has
returned. -/
theorem discover_ran (n retries : Nat) (sends : List (Except TransportError Unit))
    (events : List MultiEvent) :
    let c := Client.new (⟨start n, sends, events⟩ : MultiSocket) retries
    let found := c.discover MultiSocket.transport
    let last := found.2.session.transport
    ∃ happened ran, events = happened ++ last.events ∧ (start n).run ran = some last.state ∧
      (∀ i < n, arrivals i happened = arrivals i ran) ∧
      found.2.devices = last.state.delivered.foldl Registry.handleDiscoveryReply Registry.empty ∧
      match (c.sendDiscovery MultiSocket.transport).1 with
      | .ok () => found.1 = .ok () ∧ CutOff happened last.events last.state
      | .error e => found.1 = .error (.send e) ∧ happened = [] := by
  intro c found last
  -- sending leaves alone what is received from
  have hkeeps : ∀ packet (t : MultiSocket), (t.state = start n ∧ t.events = events) →
      (MultiSocket.transport.send packet t).2.state = start n ∧
        (MultiSocket.transport.send packet t).2.events = events := by
    rintro packet ⟨state, sends, events⟩ ht
    cases sends with
    | nil => exact ht
    | cons result rest => exact ht
  have hsent : (c.sendDiscovery MultiSocket.transport).2.transport.state = start n ∧
      (c.sendDiscovery MultiSocket.transport).2.transport.events = events :=
    Session.sendRetried_keeps hkeeps _ ⟨rfl, rfl⟩
  rcases hsend : c.sendDiscovery MultiSocket.transport with ⟨e | u, s₁⟩
  · rw [hsend] at hsent
    have hfound : found = (.error (.send e), { c with session := s₁ }) :=
      Client.discover_of_error MultiSocket.transport hsend
    simp only [last, hfound]
    refine ⟨[], [], hsent.2.symm, ?_, fun _ _ => rfl, ?_, trivial, rfl⟩
    · rw [hsent.1]
      rfl
    · rw [hsent.1]
      rfl
  · rw [hsend] at hsent
    have hk : Kept n [] s₁.transport.state := by
      rw [hsent.1]
      exact kept_start n
    obtain ⟨hcancelled, ran, hran⟩ := drain_ran hk
    obtain ⟨happened, hevents, hcut⟩ := drain_happened s₁.transport
    have hfound : found = _ := Client.discover_eq MultiSocket.transport hsend
    have hrun := hran.run
    have hdelivered := hran.delivered
    have harrivals := hran.arrivals
    rw [hsent.1] at hrun hdelivered
    rw [hsent.2] at hevents harrivals
    simp only [last, hfound]
    refine ⟨happened, ran, hevents, hrun, ?_, ?_, congrArg Client.ended hcancelled, hcut⟩
    · intro i hi
      have hsplit := harrivals i hi
      rw [hevents, arrivals_append] at hsplit
      exact List.append_cancel_right hsplit
    · rw [hdelivered]
      rfl

/-- **Discovery on all interfaces**: whatever arrives at the children in whatever order, and
whichever of them fail, it ends without an error once its packet is out, and no sooner than it is
cut off. On each child it finds what it should. -/
theorem discover_shared (n retries : Nat) (sends : List (Except TransportError Unit))
    (events : List MultiEvent) :
    let c := Client.new (⟨start n, sends, events⟩ : MultiSocket) retries
    let found := c.discover MultiSocket.transport
    let last := found.2.session.transport
    ∃ happened, events = happened ++ last.events ∧
      FoundOn n (fun i => arrivals i happened) last.state found.2.devices ∧
      match (c.sendDiscovery MultiSocket.transport).1 with
      | .ok () => found.1 = .ok () ∧ CutOff happened last.events last.state
      | .error e => found.1 = .error (.send e) ∧ happened = [] := by
  intro c found last
  obtain ⟨happened, ran, hevents, hrun, harrivals, hdevices, hend⟩ :=
    discover_ran n retries sends events
  refine ⟨happened, hevents, ?_, hend⟩
  rw [show found.2.devices = _ from hdevices]
  exact (Kept.foundOn hrun).congr harrivals

/-- The announcement of one device. -/
def announcement (last : UInt8) : Datagram :=
  (Mocksbr.discoveryResponse ((⟨(), 0, 0⟩ : Session Unit).header Mac.zero Method.advDisc true).1
    (.defaultWithMac (Mac.auto last)), "10.0.0.5")

theorem down_ne_cancelled : TransportError.io "down" ≠ .cancelled :=
  TransportError.noConfusion

/-- Of two children one fails, the other hears of a device, and of another one too late. -/
def twoChildren : List MultiEvent :=
  [.arrive 0 (announcement 1), .poll 0 .pending, .poll 1 (.error (.io "down") down_ne_cancelled []),
    .poll 0 .packet, .fire, .poll 0 .cancelled, .arrive 0 (announcement 2)]

theorem discover_shared_two :
    (let c := Client.new (⟨start 2, [], twoChildren⟩ : MultiSocket) 0
    let found := c.discover MultiSocket.transport
    found.2.session.transport.events = [.arrive 0 (announcement 2)]) ∧
    (let c := Client.new (⟨start 2, [], twoChildren⟩ : MultiSocket) 0
    let found := c.discover MultiSocket.transport
    let last := found.2.session.transport
    ∃ happened, twoChildren = happened ++ last.events ∧
      FoundOn 2 (fun i => arrivals i happened) last.state found.2.devices ∧
      match (c.sendDiscovery MultiSocket.transport).1 with
      | .ok () => found.1 = .ok () ∧ CutOff happened last.events last.state
      | .error e => found.1 = .error (.send e) ∧ happened = []) :=
  ⟨by decide +kernel, discover_shared 2 0 [] twoChildren⟩

end Udap
