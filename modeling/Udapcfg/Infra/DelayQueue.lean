import Mathlib.Data.List.Perm.Basic

/-!
# Queues with delays

Items are put into a queue with a delay. They sleep until they are due, join the queue when they are
woken, and are taken from its front. Time passes by ticks.

* `waiting_wake`, `waiting_take` — no item is lost or doubled
* `Early` — an item in the queue is due
* `Punctual` — no item is overdue by more than so much, as long as time is not let pass over one
-/

namespace Infra

/-- What sleeps and what is in the queue, each with the time it is due. -/
structure DelayQueue (α : Type) where
  now : Nat
  sleeping : List (Nat × α)
  ready : List (Nat × α)
deriving DecidableEq

namespace DelayQueue

variable {α : Type}

/-- An item without a delay does not sleep at all. -/
def put (q : DelayQueue α) (delay : Nat) (a : α) : DelayQueue α :=
  if delay = 0 then { q with ready := q.ready ++ [(q.now, a)] }
  else { q with sleeping := q.sleeping ++ [(q.now + delay, a)] }

def tick (q : DelayQueue α) (d : Nat) : DelayQueue α := { q with now := q.now + d }

/-- A sleeper joins the queue, if it is due. -/
def wake (q : DelayQueue α) (index : Nat) : DelayQueue α :=
  match q.sleeping[index]? with
  | none => q
  | some x =>
    if x.1 ≤ q.now then
      { q with sleeping := q.sleeping.eraseIdx index, ready := q.ready ++ [x] }
    else q

/-- All that has not been taken. -/
def waiting (q : DelayQueue α) : List (Nat × α) := q.ready ++ q.sleeping

/-- Time may pass: nothing will be overdue by more than `lag`. -/
def MayTick (lag : Nat) (q : DelayQueue α) (d : Nat) : Prop := ∀ x ∈ q.waiting, q.now + d ≤ x.1 + lag

/-- What is in the queue is due. -/
def Early (q : DelayQueue α) : Prop := ∀ x ∈ q.ready, x.1 ≤ q.now

/-- Nothing is overdue by more than `lag`. -/
def Punctual (lag : Nat) (q : DelayQueue α) : Prop := ∀ x ∈ q.waiting, q.now ≤ x.1 + lag

variable {q : DelayQueue α} {lag : Nat}

/-! ## Items -/

theorem waiting_put (q : DelayQueue α) (delay : Nat) (a : α) :
    (q.put delay a).waiting.Perm (q.waiting ++ [(q.now + delay, a)]) := by
  unfold put waiting
  split
  · next hzero =>
    rw [hzero, Nat.add_zero]
    simp only [List.append_assoc]
    exact List.perm_append_comm.append_left q.ready
  · simp only [List.append_assoc]
    exact .refl _

@[simp] theorem now_put (q : DelayQueue α) (delay : Nat) (a : α) : (q.put delay a).now = q.now := by
  unfold put
  split <;> rfl

@[simp] theorem waiting_tick (q : DelayQueue α) (d : Nat) : (q.tick d).waiting = q.waiting := rfl

theorem waiting_wake (q : DelayQueue α) (index : Nat) : (q.wake index).waiting.Perm q.waiting := by
  unfold wake
  split
  · exact .refl _
  · next x hx =>
    split
    · obtain ⟨hlt, hget⟩ := List.getElem?_eq_some_iff.mp hx
      have herase : (x :: q.sleeping.eraseIdx index).Perm q.sleeping := by
        rw [← hget]
        exact List.getElem_cons_eraseIdx_perm hlt
      unfold waiting
      simp only [List.append_assoc]
      exact herase.append_left q.ready
    · exact .refl _

@[simp] theorem now_wake (q : DelayQueue α) (index : Nat) : (q.wake index).now = q.now := by
  unfold wake
  split
  · rfl
  · split <;> rfl

/-- A sleeper that is due can be woken, -/
theorem ready_wake {index : Nat} {x : Nat × α} (hx : q.sleeping[index]? = some x)
    (hdue : x.1 ≤ q.now) : (q.wake index).ready = q.ready ++ [x] := by
  rw [wake, hx]
  simp only [if_pos hdue]

/-- and so can one that is due after a while. -/
theorem ready_wake_tick {index d : Nat} {x : Nat × α} (hx : q.sleeping[index]? = some x)
    (hdue : x.1 ≤ q.now + d) : ((q.tick d).wake index).ready = q.ready ++ [x] :=
  ready_wake hx hdue

theorem waiting_take {x : Nat × α} {rest : List (Nat × α)} (h : q.ready = x :: rest) :
    q.waiting = x :: { q with ready := rest }.waiting := by
  rw [waiting, h]
  rfl

/-! ## Time -/

theorem Early.put (h : q.Early) (delay : Nat) (a : α) : (q.put delay a).Early := by
  unfold DelayQueue.put
  split
  · intro x hx
    rcases List.mem_append.mp hx with hx | hx
    · exact h x hx
    · obtain rfl := List.mem_singleton.mp hx
      exact Nat.le_refl q.now
  · exact h

theorem Early.tick (h : q.Early) (d : Nat) : (q.tick d).Early :=
  fun x hx => Nat.le_trans (h x hx) (Nat.le_add_right _ _)

theorem Early.wake (h : q.Early) (index : Nat) : (q.wake index).Early := by
  unfold DelayQueue.wake
  split
  · exact h
  · split
    · next hdue =>
      intro y hy
      rcases List.mem_append.mp hy with hy | hy
      · exact h y hy
      · obtain rfl := List.mem_singleton.mp hy
        exact hdue
    · exact h

theorem Early.take (h : q.Early) {x : Nat × α} {rest : List (Nat × α)} (hready : q.ready = x :: rest) :
    x.1 ≤ q.now ∧ { q with ready := rest }.Early := by
  unfold Early at h
  rw [hready] at h
  exact ⟨h x List.mem_cons_self, fun y hy => h y (List.mem_cons_of_mem x hy)⟩

theorem Punctual.of_perm {q' : DelayQueue α} (h : q.Punctual lag) (hnow : q'.now = q.now)
    (hperm : q'.waiting.Perm q.waiting) : q'.Punctual lag := by
  intro x hx
  rw [hnow]
  exact h x (hperm.mem_iff.mp hx)

theorem Punctual.put (h : q.Punctual lag) (delay : Nat) (a : α) : (q.put delay a).Punctual lag := by
  intro x hx
  rw [now_put]
  rcases List.mem_append.mp ((waiting_put q delay a).mem_iff.mp hx) with hx | hx
  · exact h x hx
  · obtain rfl := List.mem_singleton.mp hx
    exact Nat.le_add_right_of_le (Nat.le_add_right _ _)

/-- **Time that may pass leaves nothing overdue.** -/
theorem MayTick.punctual {d : Nat} (h : q.MayTick lag d) : (q.tick d).Punctual lag := h

theorem Punctual.wake (h : q.Punctual lag) (index : Nat) : (q.wake index).Punctual lag :=
  h.of_perm (now_wake q index) (waiting_wake q index)

theorem Punctual.take (h : q.Punctual lag) {x : Nat × α} {rest : List (Nat × α)}
    (hready : q.ready = x :: rest) : { q with ready := rest }.Punctual lag := by
  unfold Punctual at h
  rw [waiting_take hready] at h
  exact fun y hy => h y (List.mem_cons_of_mem x hy)

end DelayQueue

end Infra
