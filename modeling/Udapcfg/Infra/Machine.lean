import Mathlib.Logic.Function.Basic

/-!
# Machines side by side

A machine answers calls and changes its state. Several machines, each call going to one of them, are
one machine; a run of it is a run of each, and how these are interleaved makes no difference.

* `runAll_only` — the answers and the state of one machine in an interleaved run
* `Simulates.run` — a simulation of steps is a simulation of runs
-/

namespace Infra

variable {ι C S O : Type}

/-- The answers of a machine to some calls, and its state after them. -/
def run (step : C → S → O × S) : S → List C → List O × S
  | s, [] => ([], s)
  | s, c :: rest =>
    let r := step c s
    let rs := run step r.2 rest
    (r.1 :: rs.1, rs.2)

/-! ## Several machines -/

section Product

variable [DecidableEq ι]

/-- One call to one of the machines. -/
def stepAt (step : ι → C → S → O × S) (call : ι × C) (s : ι → S) : (ι × O) × (ι → S) :=
  let r := step call.1 call.2 (s call.1)
  ((call.1, r.1), Function.update s call.1 r.2)

/-- A run of calls, each to one of the machines. -/
def runAll (step : ι → C → S → O × S) : (ι → S) → List (ι × C) → List (ι × O) × (ι → S) :=
  run (stepAt step)

/-- What concerns machine `i`. -/
def only {α : Type} (i : ι) (xs : List (ι × α)) : List α :=
  xs.filterMap fun x => if x.1 = i then some x.2 else none

theorem only_cons_self {α : Type} (i : ι) (x : α) (xs : List (ι × α)) :
    only i ((i, x) :: xs) = x :: only i xs := List.filterMap_cons_some (if_pos rfl)

theorem only_cons_of_ne {α : Type} {i j : ι} (h : j ≠ i) (x : α) (xs : List (ι × α)) :
    only i ((j, x) :: xs) = only i xs := List.filterMap_cons_none (if_neg h)

theorem only_append {α : Type} (i : ι) (xs ys : List (ι × α)) :
    only i (xs ++ ys) = only i xs ++ only i ys := List.filterMap_append

theorem only_map_self {α : Type} (i : ι) (xs : List α) : only i (xs.map fun x => (i, x)) = xs := by
  induction xs with
  | nil => rfl
  | cons x xs ih => rw [List.map_cons, only_cons_self, ih]

theorem only_map_of_ne {α : Type} {i j : ι} (h : j ≠ i) (xs : List α) :
    only i (xs.map fun x => (j, x)) = [] := by
  induction xs with
  | nil => rfl
  | cons x xs ih => rw [List.map_cons, only_cons_of_ne h, ih]

/-- **Each machine runs as if it were alone.** -/
theorem runAll_only (step : ι → C → S → O × S) (i : ι) (calls : List (ι × C)) (s : ι → S) :
    only i (runAll step s calls).1 = (run (step i) (s i) (only i calls)).1 ∧
      (runAll step s calls).2 i = (run (step i) (s i) (only i calls)).2 := by
  induction calls generalizing s with
  | nil => exact ⟨rfl, rfl⟩
  | cons call rest ih =>
    obtain ⟨j, c⟩ := call
    obtain ⟨houtputs, hstate⟩ := ih (Function.update s j (step j c (s j)).2)
    by_cases hij : j = i
    · subst hij
      rw [Function.update_self] at houtputs hstate
      rw [only_cons_self, run]
      exact ⟨(only_cons_self j _ _).trans (congrArg _ houtputs), hstate⟩
    · rw [Function.update_of_ne (Ne.symm hij)] at houtputs hstate
      rw [only_cons_of_ne hij]
      exact ⟨(only_cons_of_ne hij _ _).trans houtputs, hstate⟩

end Product

/-! ## Simulation -/

/-- Every step of the one machine is the step of the other, with the same answer. -/
def Simulates {S' : Type} (step : C → S → O × S) (step' : C → S' → O × S') (R : S → S' → Prop) :
    Prop :=
  ∀ c s s', R s s' → (step c s).1 = (step' c s').1 ∧ R (step c s).2 (step' c s').2

theorem Simulates.run {S' : Type} {step : C → S → O × S} {step' : C → S' → O × S'}
    {R : S → S' → Prop} (h : Simulates step step' R) (calls : List C) {s : S} {s' : S'}
    (hs : R s s') : (Infra.run step s calls).1 = (Infra.run step' s' calls).1 ∧
      R (Infra.run step s calls).2 (Infra.run step' s' calls).2 := by
  induction calls generalizing s s' with
  | nil => exact ⟨rfl, hs⟩
  | cons c rest ih =>
    obtain ⟨houtput, hnext⟩ := h c s s' hs
    obtain ⟨houtputs, hlast⟩ := ih hnext
    exact ⟨List.cons_eq_cons.mpr ⟨houtput, houtputs⟩, hlast⟩

end Infra
