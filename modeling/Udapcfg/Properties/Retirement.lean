import Udapcfg.Properties.MultiTransport

/-!
# A child that fails

A child whose receive fails is retired, and `recv` goes on with the others. A cancellation is no
failure: it ends the call and retires nobody.

* `Reported` — what has been returned besides packets are cancellations, after the token has fired
* `rounds_run` — every round of a call but the first is paid for by a live child
* `recv_contained` — no failure of a child leaves `recv`, in any run
-/

namespace Udap

/-- Children report a cancellation only once the token has fired: they share the caller's token. -/
def CancelledByToken (events : List MultiEvent) : Prop :=
  ∀ before i after, events = before ++ .poll i .cancelled :: after → MultiEvent.fire ∈ before

/-- Decides whether a step goes through the top of the loop of `recv`. -/
def isRound : MultiEvent → Bool
  | .call => true
  | .poll _ (.error _ _ _) => true
  | _ => false

/-- How often the loop of `recv` was gone through. -/
def rounds (events : List MultiEvent) : Nat := events.countP isRound

namespace MultiState

variable {s s' : MultiState} {n : Nat} {events events' : List MultiEvent}

theorem run_append (h : s.run (events ++ events') = some s') :
    ∃ s₁, s.run events = some s₁ ∧ s₁.run events' = some s' := by
  induction events generalizing s with
  | nil => exact ⟨s, rfl, h⟩
  | cons event events ih =>
    rw [List.cons_append] at h
    unfold MultiState.run at h
    split at h
    · cases h
    · next s₁ hstep =>
      obtain ⟨s₂, hfirst, hrest⟩ := ih h
      refine ⟨s₂, ?_, hrest⟩
      rw [MultiState.run, hstep]
      exact hfirst

/-! ## Cancellations -/

/-- What calls of `recv` have returned besides packets. -/
structure Reported (events : List MultiEvent) (s : MultiState) : Prop where
  fired : s.fired = true → MultiEvent.fire ∈ events
  errors : ∀ e, Returned.error e ∈ s.returned → e = .cancelled ∧ MultiEvent.fire ∈ events

/-- Steps that fire nothing and return no error. -/
theorem Reported.quiet (hr : Reported events s) (event : MultiEvent) (hfired : s'.fired = s.fired)
    (hreturned : ∀ e, Returned.error e ∈ s'.returned → Returned.error e ∈ s.returned) :
    Reported (events ++ [event]) s' where
  fired h := by
    rw [hfired] at h
    exact List.mem_append_left _ (hr.fired h)
  errors e he := by
    obtain ⟨hcancelled, hfire⟩ := hr.errors e (hreturned e he)
    exact ⟨hcancelled, List.mem_append_left _ hfire⟩

/-- A call is cancelled. -/
theorem Reported.cancelled (hr : Reported events s) (event : MultiEvent)
    (hfire : MultiEvent.fire ∈ events) :
    Reported (events ++ [event]) (s.finish (.error .cancelled)) where
  fired h := List.mem_append_left _ (hr.fired h)
  errors e he := by
    refine ⟨?_, List.mem_append_left _ hfire⟩
    rcases List.mem_append.mp he with hold | hnew
    · exact (hr.errors e hold).1
    · cases List.mem_singleton.mp hnew
      rfl

/-- **One step.** -/
theorem Reported.step (hr : Reported events s) {event : MultiEvent}
    (htoken : ∀ i, event = .poll i .cancelled → MultiEvent.fire ∈ events)
    (h : s.step event = some s') : Reported (events ++ [event]) s' := by
  cases multiStep_of_step h with
  | arrive hi => exact hr.quiet _ rfl fun _ he => he
  | fire =>
    refine ⟨fun _ => by simp, fun e he => ?_⟩
    exact ⟨(hr.errors e he).1, by simp⟩
  | call hcall => exact hr.quiet _ rfl fun _ he => he
  | pending hcall hi => exact hr.quiet _ rfl fun _ he => he
  | packet hcall hi hlt hqueue =>
    refine hr.quiet _ rfl fun e he => ?_
    rcases List.mem_append.mp he with hold | hnew
    · exact hold
    · cases List.mem_singleton.mp hnew
  | cancelled hcall hi => exact hr.cancelled _ (htoken _ rfl)
  | error hcall hi => exact hr.quiet _ rfl fun _ he => he
  | wake hcall hfired => exact hr.cancelled _ (hr.fired hfired)
  | drop hcall => exact hr.quiet _ rfl fun _ he => he

/-- **A run.** -/
theorem reported_run (hr : Reported events s) (htoken : CancelledByToken (events ++ events'))
    (h : s.run events' = some s') : Reported (events ++ events') s' := by
  refine run_invariant (P := fun events s => CancelledByToken events → Reported events s) ?_
    (fun _ => hr) h htoken
  intro events s event s' hinv hstep htoken
  have hbefore : CancelledByToken events := by
    intro before i after h
    exact htoken before i (after ++ [event]) (by rw [h, List.append_assoc]; rfl)
  refine (hinv hbefore).step (fun i hi => ?_) hstep
  exact htoken events i [] (by rw [hi])

/-! ## Rounds -/

theorem live_setChild (m : MultiTransport) (i : Nat) (q : List Datagram) :
    (m.setChild i q).live = m.live := by
  rw [MultiTransport.live, length_setChild]
  rfl

/-- To retire a child takes it off the live ones. -/
theorem live_retire (m : MultiTransport) (i : Nat) : (m.retire i).live = m.live.erase i := by
  have hnodup : m.live.Nodup := List.nodup_range.filter _
  rw [hnodup.erase_eq_filter, MultiTransport.live, MultiTransport.live, List.filter_filter]
  refine List.filter_congr fun j _ => ?_
  rw [getD_retire]
  by_cases hij : i = j
  · simp [hij]
  · simp [hij, Ne.symm hij]

/-- **One step within a call**: a round uses up a live child. -/
theorem rounds_step (hk : Kept n events s) {event : MultiEvent} (hcall : event ≠ .call)
    (h : s.step event = some s') :
    rounds [event] + s'.transport.live.length = s.transport.live.length := by
  cases multiStep_of_step h with
  | arrive hi =>
    show 0 + (s.transport.setChild _ _).live.length = _
    rw [live_setChild, Nat.zero_add]
  | fire => exact Nat.zero_add _
  | call _ => exact absurd rfl hcall
  | pending _ hi => exact Nat.zero_add _
  | packet _ hi hlt hqueue =>
    show 0 + (s.transport.setChild _ _).live.length = _
    rw [live_setChild, Nat.zero_add]
  | cancelled _ hi => exact Nat.zero_add _
  | error hselect hi =>
    -- the child that failed was live
    obtain ⟨hlt, hretired⟩ := hk.selecting _ _ hselect _ (List.mem_of_getElem? hi)
    have hlive := mem_live.mpr ⟨by rw [hk.length]; exact hlt, hretired⟩
    show 1 + ((s.transport.setChild _ _).retire _).live.length = _
    rw [live_retire, live_setChild, List.length_erase_of_mem hlive]
    have hpos := List.length_pos_of_mem hlive
    omega
  | wake _ hfired => exact Nat.zero_add _
  | drop _ => exact Nat.zero_add _

/-- **A run within a call.** -/
theorem rounds_run (hk : Kept n events s) (hcall : MultiEvent.call ∉ events')
    (h : s.run events' = some s') :
    rounds events' + s'.transport.live.length = s.transport.live.length := by
  have hinv := @run_invariant s s' (fun done s₁ => MultiEvent.call ∉ done →
    Kept n (events ++ done) s₁ ∧
      rounds done + s₁.transport.live.length = s.transport.live.length) [] events' ?_ ?_ h
  · exact (hinv hcall).2
  · intro done s₁ event s₂ hinv hstep hcall
    rw [List.mem_append, not_or, List.mem_singleton] at hcall
    obtain ⟨hk₁, hrounds⟩ := hinv hcall.1
    have hfirst := rounds_step hk₁ (Ne.symm hcall.2) hstep
    have hsplit : rounds (done ++ [event]) = rounds done + rounds [event] := List.countP_append
    rw [← List.append_assoc]
    exact ⟨hk₁.step hstep, by omega⟩
  · intro _
    rw [List.append_nil]
    exact ⟨hk, Nat.zero_add _⟩

/-! ## Containment -/

/-- What no failure of a child can do, at every moment of a run. -/
structure Contained (n : Nat) (events : List MultiEvent) (s : MultiState) : Prop where
  /-- Calls return no error but a cancellation, and that after the token has fired. -/
  errors : ∀ e, Returned.error e ∈ s.returned → e = .cancelled ∧ MultiEvent.fire ∈ events
  /-- A child that has failed is not polled again, -/
  polled : ∀ before i outcome after, events = before ++ .poll i outcome :: after → ¬ Failed i before
  /-- and no other child is retired. -/
  retired : ∀ i < n, s.isRetired i = true → Failed i events
  /-- From one call to the next there is at most a round for each child that was live, and one
  more. -/
  rounds : ∀ before during, events = before ++ .call :: during → MultiEvent.call ∉ during →
    ∃ s₀, (start n).run before = some s₀ ∧
      rounds (.call :: during) ≤ s₀.transport.live.length + 1

/-- A child whose future is polled has not failed. -/
theorem not_failed_of_poll (hk : Kept n events s) {i : Nat} {outcome : Poll}
    (h : s.step (.poll i outcome) = some s') : ¬ Failed i events := by
  have hlive : i < n ∧ s.isRetired i = false := by
    cases multiStep_of_step h with
    | pending hcall hi => exact hk.selecting _ _ hcall i (List.mem_of_getElem? hi)
    | packet hcall hi _ _ => exact hk.selecting _ _ hcall i (List.mem_of_getElem? hi)
    | cancelled hcall hi => exact hk.selecting _ _ hcall i (List.mem_of_getElem? hi)
    | error hcall hi => exact hk.selecting _ _ hcall i (List.mem_of_getElem? hi)
  rw [← hk.failed i hlive.1, hlive.2]
  exact Bool.false_ne_true

/-- The step that follows a part of a run. -/
theorem step_of_run {event : MultiEvent} (h : s.run (events ++ event :: events') = some s') :
    ∃ s₀ s₁, s.run events = some s₀ ∧ s₀.step event = some s₁ ∧ s₁.run events' = some s' := by
  obtain ⟨s₀, hbefore, hrest⟩ := run_append h
  unfold MultiState.run at hrest
  split at hrest
  · cases hrest
  · next s₁ hstep => exact ⟨s₀, s₁, hbefore, hstep, hrest⟩

/-- **Failures stay inside**: if children report a cancellation only once the token has fired,
then so does `recv`, which returns no other error; a child that has failed is not polled again, no
other child is retired, and a call goes through its loop at most once for each live child and once
more. -/
theorem recv_contained (n : Nat) (events : List MultiEvent) (s : MultiState)
    (h : (start n).run events = some s) (htoken : CancelledByToken events) :
    Contained n events s where
  errors := by
    have hstart : Reported [] (start n) := ⟨fun h => (by cases h), fun _ he => (by cases he)⟩
    exact (reported_run hstart htoken h).errors
  polled before i outcome after hevents := by
    rw [hevents] at h
    obtain ⟨s₀, s₁, hbefore, hstep, _⟩ := step_of_run h
    exact not_failed_of_poll (kept_run (kept_start n) hbefore) hstep
  retired i hi hretired := ((kept_run (kept_start n) h).failed i hi).mp hretired
  rounds before during hevents hduring := by
    rw [hevents] at h
    obtain ⟨s₀, s₁, hbefore, hstep, hrest⟩ := step_of_run h
    have hk₀ := kept_run (kept_start n) hbefore
    have hloop : s₁.transport = s₀.transport := by
      cases multiStep_of_step hstep with
      | call _ => rfl
    have hrounds := rounds_run (hk₀.step hstep) hduring hrest
    rw [hloop] at hrounds
    have hsplit : Udap.rounds (.call :: during) = Udap.rounds during + 1 := List.countP_cons_of_pos rfl
    exact ⟨s₀, hbefore, by omega⟩

/-- Two children. One fails, the other is cancelled after the token has fired. -/
def cancelledRun : List MultiEvent :=
  [.call, .poll 0 (.error (.io "down") (fun h => nomatch h) []), .fire, .poll 1 .cancelled]

theorem cancelledByToken_cancelledRun : CancelledByToken cancelledRun := by
  intro before i after h
  rcases before with _ | ⟨a, _ | ⟨b, _ | ⟨c, _ | ⟨d, _⟩⟩⟩⟩ <;> simp_all [cancelledRun]

theorem recv_contained_cancelled : ∃ s, (start 2).run cancelledRun = some s ∧
    CancelledByToken cancelledRun ∧ Contained 2 cancelledRun s :=
  ⟨_, rfl, cancelledByToken_cancelledRun,
    recv_contained 2 cancelledRun _ rfl cancelledByToken_cancelledRun⟩

end MultiState

end Udap
