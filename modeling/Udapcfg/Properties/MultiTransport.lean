import Mathlib.Data.List.Basic
import Udapcfg.Udap.MultiTransport

/-!
# Nothing is lost between several transports

Every round of `recv` builds futures for the children that are left and drops all but one, so which
child a future stands for changes from round to round. Still each child's datagrams come out in
order, each once.

* `MultiStep` — the steps, case by case
* `Kept` — what has arrived at a child was returned or is still there: the invariant of all steps
* `recv_lossless` — so it is at every moment of every run
-/

namespace Udap

open Infra

/-! ## What a run says about a child -/

/-- What has arrived at child `i`, in order. -/
def arrivals (i : Nat) (events : List MultiEvent) : List Datagram :=
  events.filterMap fun
    | .arrive child d => if child = i then some d else none
    | _ => none

/-- Child `i` has failed. -/
def Failed (i : Nat) (events : List MultiEvent) : Prop :=
  ∃ e real left, MultiEvent.poll i (.error e real left) ∈ events

theorem arrivals_append (i : Nat) (events events' : List MultiEvent) :
    arrivals i (events ++ events') = arrivals i events ++ arrivals i events' :=
  List.filterMap_append

theorem failed_append {i : Nat} {events events' : List MultiEvent} :
    Failed i (events ++ events') ↔ Failed i events ∨ Failed i events' := by
  simp only [Failed, List.mem_append, exists_or]

namespace MultiState

/-- The packets of child `i` that were returned, in order. -/
def returnedBy (s : MultiState) (i : Nat) : List Datagram :=
  s.returned.filterMap fun
    | .packet child d => if child = i then some d else none
    | .error _ => none

/-- What is queued at child `i`. -/
def queue (s : MultiState) (i : Nat) : List Datagram := s.transport.children.getD i []

/-- Child `i` is out of the rounds to come. -/
def isRetired (s : MultiState) (i : Nat) : Bool := s.transport.retired.getD i true

/-! ## Steps -/

/-- The steps, case by case. -/
inductive MultiStep (s : MultiState) : MultiEvent → MultiState → Prop
  | arrive {i : Nat} {d : Datagram} (hi : i < s.transport.children.length) :
      MultiStep s (.arrive i d)
        { s with transport := s.transport.setChild i (s.queue i ++ [d]) }
  | fire : MultiStep s .fire { s with fired := true }
  | call (hcall : s.call = none) : MultiStep s .call s.loop
  | pending {live : List Nat} {next next' i : Nat} (hcall : s.call = some (.selecting live next))
      (hi : live[next]? = some i) :
      MultiStep s (.poll i .pending) { s with call := some (.selecting live next') }
  | packet {live : List Nat} {next i : Nat} {d : Datagram} {rest : List Datagram}
      (hcall : s.call = some (.selecting live next)) (hi : live[next]? = some i)
      (hlt : i < s.transport.children.length) (hqueue : s.queue i = d :: rest) :
      MultiStep s (.poll i .packet)
        ({ s with transport := s.transport.setChild i rest }.finish (.packet i d))
  | cancelled {live : List Nat} {next i : Nat} (hcall : s.call = some (.selecting live next))
      (hi : live[next]? = some i) :
      MultiStep s (.poll i .cancelled) (s.finish (.error .cancelled))
  | error {live : List Nat} {next i : Nat} {e : TransportError} {real : e ≠ .cancelled}
      {left : List Datagram} (hcall : s.call = some (.selecting live next))
      (hi : live[next]? = some i) :
      MultiStep s (.poll i (.error e real left))
        { s with transport := (s.transport.setChild i left).retire i }.loop
  | wake (hcall : s.call = some .waiting) (hfired : s.fired = true) :
      MultiStep s .wake (s.finish (.error .cancelled))
  | drop (hcall : s.call ≠ none) : MultiStep s .drop { s with call := none }

variable {s s' : MultiState}

theorem queue_of_getElem? {i : Nat} {q : List Datagram}
    (h : s.transport.children[i]? = some q) : i < s.transport.children.length ∧ s.queue i = q := by
  refine ⟨(List.getElem?_eq_some_iff.mp h).1, ?_⟩
  rw [queue, List.getD_eq_getElem?_getD, h, Option.getD_some]

/-- Nothing else can happen. -/
theorem multiStep_of_step {event : MultiEvent} (h : s.step event = some s') :
    MultiStep s event s' := by
  cases event with
  | arrive i d =>
    simp only [step] at h
    split at h
    · next q hq =>
      cases h
      obtain ⟨hi, hqueue⟩ := queue_of_getElem? hq
      rw [← hqueue]
      exact .arrive hi
    · cases h
  | fire =>
    cases h
    exact .fire
  | call =>
    simp only [step] at h
    split at h
    · next hcall =>
      cases h
      exact .call hcall
    · cases h
  | poll i outcome =>
    simp only [step] at h
    split at h
    · next live next hcall =>
      split at h
      · next hi =>
        cases outcome with
        | pending =>
          cases h
          exact .pending hcall hi
        | packet =>
          simp only [polled] at h
          split at h
          · next d rest hq =>
            cases h
            obtain ⟨hlt, hqueue⟩ := queue_of_getElem? hq
            exact .packet hcall hi hlt hqueue
          · cases h
        | cancelled =>
          cases h
          exact .cancelled hcall hi
        | error e real left =>
          cases h
          exact .error hcall hi
      · cases h
    · cases h
  | wake =>
    simp only [step] at h
    split at h
    · next hcall =>
      split at h
      · next hfired =>
        cases h
        exact .wake hcall hfired
      · cases h
    · cases h
  | drop =>
    simp only [step] at h
    split at h
    · next hcall =>
      cases h
      exact .drop (by rw [hcall]; simp)
    · cases h

/-- What every step keeps, every run keeps. It may speak of what has happened so far. -/
theorem run_invariant {P : List MultiEvent → MultiState → Prop} {events events' : List MultiEvent}
    (hkeeps : ∀ events s event s', P events s → s.step event = some s' →
      P (events ++ [event]) s')
    (hinv : P events s) (h : s.run events' = some s') : P (events ++ events') s' := by
  induction events' generalizing events s with
  | nil =>
    cases h
    rw [List.append_nil]
    exact hinv
  | cons event events' ih =>
    unfold MultiState.run at h
    split at h
    · cases h
    · next s₁ hstep =>
      have hrest := ih (hkeeps events s event s₁ hinv hstep) h
      rwa [List.append_assoc] at hrest

/-! ## Children -/

theorem length_setChild (m : MultiTransport) (i : Nat) (q : List Datagram) :
    (m.setChild i q).children.length = m.children.length :=
  List.length_set

theorem getD_setChild {m : MultiTransport} {i : Nat} (hi : i < m.children.length)
    (q : List Datagram) (j : Nat) :
    (m.setChild i q).children.getD j [] = if i = j then q else m.children.getD j [] := by
  show (m.children.set i q).getD j [] = _
  rw [List.getD_eq_getElem?_getD, List.getElem?_set, List.getD_eq_getElem?_getD]
  split <;> rfl

theorem getD_retire (m : MultiTransport) (i j : Nat) :
    (m.retire i).retired.getD j true = if i = j then true else m.retired.getD j true := by
  show (m.retired.set i true).getD j true = _
  rw [List.getD_eq_getElem?_getD, List.getElem?_set, List.getD_eq_getElem?_getD]
  split
  · split <;> rfl
  · rfl

theorem mem_live {m : MultiTransport} {i : Nat} :
    i ∈ m.live ↔ i < m.children.length ∧ m.retired.getD i true = false := by
  rw [MultiTransport.live, List.mem_filter, List.mem_range, Bool.not_eq_true']

/-- A packet is noted with its child. -/
theorem returnedBy_finish_packet (s : MultiState) (i j : Nat) (d : Datagram) :
    (s.finish (.packet i d)).returnedBy j = s.returnedBy j ++ if i = j then [d] else [] := by
  show (s.returned ++ [Returned.packet i d]).filterMap _ = _
  rw [List.filterMap_append]
  by_cases hij : i = j <;> simp [returnedBy, hij]

theorem returnedBy_finish_error (s : MultiState) (j : Nat) (e : TransportError) :
    (s.finish (.error e)).returnedBy j = s.returnedBy j := by
  show (s.returned ++ [Returned.error e]).filterMap _ = _
  rw [List.filterMap_append]
  exact List.append_nil _

/-! ## The invariant -/

/-- What has arrived at a child was returned or is still there, as long as the child has not failed;
and a round in progress is about children that have not. -/
structure Kept (n : Nat) (events : List MultiEvent) (s : MultiState) : Prop where
  length : s.transport.children.length = n
  selecting : ∀ live next, s.call = some (.selecting live next) →
    ∀ i ∈ live, i < n ∧ s.isRetired i = false
  failed : ∀ i < n, s.isRetired i = true ↔ Failed i events
  returned : ∀ i, s.returnedBy i <+: arrivals i events
  queued : ∀ i < n, s.isRetired i = false → arrivals i events = s.returnedBy i ++ s.queue i

variable {n : Nat} {events : List MultiEvent}

theorem kept_start (n : Nat) : Kept n [] (start n) where
  length := by
    show (List.replicate n ([] : List Datagram)).length = n
    exact List.length_replicate
  selecting _ _ h := by cases h
  failed i hi := by
    have hfalse : (start n).isRetired i = false := by
      show ((List.replicate n ([] : List Datagram)).map fun _ => false).getD i true = false
      rw [List.map_replicate, List.getD_eq_getElem?_getD, List.getElem?_replicate, if_pos hi,
        Option.getD_some]
    simp [hfalse, Failed]
  returned _ := List.nil_prefix
  queued i hi _ := by
    show [] = [] ++ (List.replicate n ([] : List Datagram)).getD i []
    rw [List.getD_eq_getElem?_getD, List.getElem?_replicate, if_pos hi]
    rfl

/-- A round that starts is about children that have not failed. -/
theorem selecting_loop (s : MultiState) (live : List Nat) (next : Nat)
    (h : s.loop.call = some (.selecting live next)) :
    ∀ i ∈ live, i < s.transport.children.length ∧ s.isRetired i = false := by
  intro i hi
  simp only [loop] at h
  split at h
  · cases h
  · cases h
    exact mem_live.mp hi

/-- Steps that neither bring, take nor lose a datagram. -/
theorem Kept.quiet (hk : Kept n events s) {event : MultiEvent}
    (harrive : ∀ i, arrivals i [event] = []) (hfail : ∀ i, ¬ Failed i [event])
    (htransport : s'.transport = s.transport) (hreturned : ∀ i, s'.returnedBy i = s.returnedBy i)
    (hcall : ∀ live next, s'.call = some (.selecting live next) →
      ∀ i ∈ live, i < n ∧ s.isRetired i = false) : Kept n (events ++ [event]) s' := by
  have hretired : ∀ i, s'.isRetired i = s.isRetired i := fun i => by
    rw [isRetired, htransport, isRetired]
  have hqueue : ∀ i, s'.queue i = s.queue i := fun i => by rw [queue, htransport, queue]
  refine ⟨by rw [htransport]; exact hk.length, ?_, ?_, ?_, ?_⟩
  · intro live next h i hi
    rw [hretired]
    exact hcall live next h i hi
  · intro i hi
    rw [hretired, failed_append, hk.failed i hi, or_iff_left (hfail i)]
  · intro i
    rw [arrivals_append, harrive, List.append_nil, hreturned]
    exact hk.returned i
  · intro i hi h
    rw [hretired] at h
    rw [arrivals_append, harrive, List.append_nil, hreturned, hqueue]
    exact hk.queued i hi h

/-- A datagram joins the queue of its child. -/
theorem Kept.arrive (hk : Kept n events s) {i : Nat} (hi : i < s.transport.children.length)
    (d : Datagram) : Kept n (events ++ [.arrive i d])
      { s with transport := s.transport.setChild i (s.queue i ++ [d]) } := by
  have hqueue : ∀ j, ({ s with transport := s.transport.setChild i (s.queue i ++ [d]) } :
      MultiState).queue j = if i = j then s.queue i ++ [d] else s.queue j := getD_setChild hi _
  have harrive : ∀ j, arrivals j [.arrive i d] = if i = j then [d] else [] := by
    intro j
    by_cases hij : i = j <;> simp [arrivals, hij]
  refine ⟨(length_setChild _ _ _).trans hk.length, hk.selecting, ?_, ?_, ?_⟩
  · intro j hj
    rw [failed_append, or_iff_left (by simp [Failed])]
    exact hk.failed j hj
  · intro j
    rw [arrivals_append]
    exact (hk.returned j).trans (List.prefix_append _ _)
  · intro j hj hlive
    rw [arrivals_append, hk.queued j hj hlive, hqueue, harrive]
    show s.returnedBy j ++ s.queue j ++ _ = s.returnedBy j ++ _
    split
    · next hij =>
      subst hij
      rw [List.append_assoc]
    · rw [List.append_nil]

/-- The oldest datagram of a live child is returned. -/
theorem Kept.packet (hk : Kept n events s) {i : Nat} {d : Datagram} {rest : List Datagram}
    (hi : i < n) (hlive : s.isRetired i = false) (hqueue : s.queue i = d :: rest) :
    Kept n (events ++ [.poll i .packet])
      ({ s with transport := s.transport.setChild i rest }.finish (.packet i d)) := by
  have hlt : i < s.transport.children.length := by
    rw [hk.length]
    exact hi
  have hnext : ∀ j, ({ s with transport := s.transport.setChild i rest }.finish
      (.packet i d)).queue j = if i = j then rest else s.queue j := getD_setChild hlt rest
  have hreturned : ∀ j, ({ s with transport := s.transport.setChild i rest }.finish
      (.packet i d)).returnedBy j = s.returnedBy j ++ if i = j then [d] else [] :=
    fun j => returnedBy_finish_packet _ i j d
  have harrive : ∀ j, arrivals j (events ++ [.poll i .packet]) = arrivals j events := by
    intro j
    rw [arrivals_append]
    exact List.append_nil _
  have hsplit := hk.queued i hi hlive
  rw [hqueue] at hsplit
  refine ⟨(length_setChild _ _ _).trans hk.length, ?_, ?_, ?_, ?_⟩
  · intro live next h
    cases h
  · intro j hj
    rw [failed_append, or_iff_left (by simp [Failed])]
    exact hk.failed j hj
  · intro j
    rw [harrive, hreturned]
    split
    · next hij =>
      subst hij
      rw [hsplit]
      exact ⟨rest, by simp⟩
    · rw [List.append_nil]
      exact hk.returned j
  · intro j hj hlive'
    rw [harrive, hreturned, hnext]
    split
    · next hij =>
      subst hij
      rw [hsplit]
      simp
    · rw [List.append_nil]
      exact hk.queued j hj hlive'

/-- A child fails and is retired. What it leaves behind does not matter. -/
theorem Kept.error (hk : Kept n events s) {i : Nat} (hi : i < n) (e : TransportError)
    (real : e ≠ .cancelled) (left : List Datagram) :
    Kept n (events ++ [.poll i (.error e real left)])
      { s with transport := (s.transport.setChild i left).retire i }.loop := by
  have hlt : i < s.transport.children.length := by
    rw [hk.length]
    exact hi
  have hretired : ∀ j, ({ s with transport := (s.transport.setChild i left).retire i }.loop).isRetired
      j = if i = j then true else s.isRetired j := getD_retire (s.transport.setChild i left) i
  have hqueue : ∀ j, ({ s with transport := (s.transport.setChild i left).retire i }.loop).queue
      j = if i = j then left else s.queue j := getD_setChild hlt left
  have harrive : ∀ j, arrivals j (events ++ [.poll i (.error e real left)]) = arrivals j events := by
    intro j
    rw [arrivals_append]
    exact List.append_nil _
  have hlength : ({ s with transport := (s.transport.setChild i left).retire i } :
      MultiState).transport.children.length = n := (length_setChild _ _ _).trans hk.length
  refine ⟨hlength, ?_, ?_, ?_, ?_⟩
  · intro live next h
    rw [← hlength]
    exact selecting_loop _ live next h
  · intro j hj
    rw [hretired, failed_append]
    split
    · next hij =>
      subst hij
      exact iff_of_true rfl (Or.inr ⟨e, real, left, List.mem_cons_self⟩)
    · next hij =>
      rw [hk.failed j hj, or_iff_left]
      rintro ⟨_, _, _, hmem⟩
      cases List.mem_singleton.mp hmem
      exact hij rfl
  · intro j
    rw [harrive]
    exact hk.returned j
  · intro j hj h
    rw [hretired] at h
    split at h
    · cases h
    · next hij =>
      rw [harrive, hqueue, if_neg hij]
      exact hk.queued j hj h

/-- **One step.** -/
theorem Kept.step (hk : Kept n events s) {event : MultiEvent} (h : s.step event = some s') :
    Kept n (events ++ [event]) s' := by
  cases multiStep_of_step h with
  | arrive hi => exact hk.arrive hi _
  | fire => exact hk.quiet (fun _ => rfl) (by simp [Failed]) rfl (fun _ => rfl) hk.selecting
  | call hcall =>
    refine hk.quiet (fun _ => rfl) (by simp [Failed]) rfl (fun _ => rfl) ?_
    intro live next h
    rw [← hk.length]
    exact selecting_loop s live next h
  | pending hcall hi =>
    refine hk.quiet (fun _ => rfl) (by simp [Failed]) rfl (fun _ => rfl) ?_
    intro live next h
    cases h
    exact hk.selecting _ _ hcall
  | packet hcall hi _ hqueue =>
    -- the future that is ready is that of a live child
    obtain ⟨hlt, hlive⟩ := hk.selecting _ _ hcall _ (List.mem_of_getElem? hi)
    exact hk.packet hlt hlive hqueue
  | cancelled hcall hi =>
    refine hk.quiet (fun _ => rfl) (by simp [Failed]) rfl ?_ (fun _ _ h => by cases h)
    intro j
    exact returnedBy_finish_error s j .cancelled
  | error hcall hi =>
    obtain ⟨hlt, _⟩ := hk.selecting _ _ hcall _ (List.mem_of_getElem? hi)
    exact hk.error hlt _ _ _
  | wake hcall hfired =>
    refine hk.quiet (fun _ => rfl) (by simp [Failed]) rfl ?_ (fun _ _ h => by cases h)
    intro j
    exact returnedBy_finish_error s j .cancelled
  | drop hcall =>
    exact hk.quiet (fun _ => rfl) (by simp [Failed]) rfl (fun _ => rfl) fun _ _ h => by cases h

/-- **A run.** -/
theorem kept_run {events' : List MultiEvent} (hk : Kept n events s)
    (h : s.run events' = some s') : Kept n (events ++ events') s' :=
  run_invariant (fun _ _ _ _ hk hstep => hk.step hstep) hk h

/-- **Nothing is lost, doubled or reordered**: at every moment of a run, what calls of `recv` have
returned of a child is a prefix of what has arrived there, and if the child has not failed the rest
is still queued. -/
theorem recv_lossless (n : Nat) (events : List MultiEvent) (s : MultiState)
    (h : (start n).run events = some s) (i : Nat) (hi : i < n) :
    s.returnedBy i <+: arrivals i events ∧
      (¬ Failed i events → arrivals i events = s.returnedBy i ++ s.queue i) := by
  have hk : Kept n events s := kept_run (kept_start n) h
  refine ⟨hk.returned i, ?_⟩
  intro hfail
  refine hk.queued i hi ?_
  rw [← Bool.not_eq_true, hk.failed i hi]
  exact hfail

/-- Two children: the first fails, the second then has a packet and gets another. -/
def retiredRun : List MultiEvent :=
  [.arrive 1 ([1], "10.0.0.2"), .call, .poll 0 (.error (.io "down") (by decide) []),
    .poll 1 .packet, .arrive 1 ([2], "10.0.0.2")]

theorem recv_lossless_retired : ∃ s, (start 2).run retiredRun = some s ∧
    s.returnedBy 1 <+: arrivals 1 retiredRun ∧
      (¬ Failed 1 retiredRun → arrivals 1 retiredRun = s.returnedBy 1 ++ s.queue 1) :=
  ⟨_, rfl, recv_lossless 2 retiredRun _ rfl 1 (by decide)⟩

end MultiState

end Udap
