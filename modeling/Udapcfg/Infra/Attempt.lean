import Mathlib.Data.List.Basic

/-!
# Steps until one fails

A procedure takes the steps of a plan in order and gives up at the first that fails.

* `attempt` — how it ends, and the steps it has taken
* `attempt_prefix`, `attempt_dropLast` — what was taken, whatever comes of it
* `attempt_eq_ok_iff`, `attempt_error` — when nothing fails, and where something does
-/

namespace Infra

variable {α ε : Type*} (f : α → Except ε Unit)

/-- Takes steps until one fails. The one that fails is the last that is taken. -/
def attempt : List α → Except ε Unit × List α
  | [] => (.ok (), [])
  | a :: as =>
    match f a with
    | .error e => (.error e, [a])
    | .ok () => ((attempt as).1, a :: (attempt as).2)

variable {f} {a : α} {as : List α}

theorem attempt_cons_ok (h : f a = .ok ()) :
    attempt f (a :: as) = ((attempt f as).1, a :: (attempt f as).2) := by
  rw [attempt, h]

theorem attempt_cons_error {e : ε} (h : f a = .error e) :
    attempt f (a :: as) = (.error e, [a]) := by
  rw [attempt, h]

theorem attempt_prefix (as : List α) : (attempt f as).2 <+: as := by
  induction as with
  | nil => exact List.prefix_rfl
  | cons a as ih =>
    rcases hf : f a with e | u
    · rw [attempt_cons_error hf]
      exact ⟨as, rfl⟩
    · rw [attempt_cons_ok hf]
      exact List.cons_prefix_cons.mpr ⟨rfl, ih⟩

/-- **Every step taken but the last** has succeeded. -/
theorem attempt_dropLast (as : List α) : ∀ a ∈ (attempt f as).2.dropLast, f a = .ok () := by
  induction as with
  | nil => simp [attempt]
  | cons a as ih =>
    rcases hf : f a with e | u
    · simp [attempt_cons_error hf]
    · rw [attempt_cons_ok hf]
      intro b hb
      cases htaken : (attempt f as).2 with
      | nil =>
        rw [htaken] at hb
        cases hb
      | cons c cs =>
        rw [htaken, List.dropLast_cons_cons] at hb
        rcases List.mem_cons.mp hb with rfl | hb
        · exact hf
        · refine ih b ?_
          rwa [htaken]

/-- **The procedure succeeds** if every step does, and has then taken them all. -/
theorem attempt_eq_ok_iff : (attempt f as).1 = .ok () ↔ ∀ a ∈ as, f a = .ok () := by
  induction as with
  | nil => simp [attempt]
  | cons a as ih =>
    rcases hf : f a with e | u
    · simp [attempt_cons_error hf, hf]
    · simp [attempt_cons_ok hf, hf, ih]

/-- **What has failed** is the last step taken. -/
theorem attempt_error {e : ε} (h : (attempt f as).1 = .error e) :
    ∃ a, (attempt f as).2.getLast? = some a ∧ f a = .error e := by
  induction as with
  | nil => cases h
  | cons a as ih =>
    rcases hf : f a with e' | u
    · rw [attempt_cons_error hf] at h ⊢
      cases h
      exact ⟨a, rfl, hf⟩
    · rw [attempt_cons_ok hf] at h ⊢
      obtain ⟨b, hlast, hb⟩ := ih h
      exact ⟨b, by rw [List.getLast?_cons, hlast]; rfl, hb⟩

theorem attempt_of_ok (h : (attempt f as).1 = .ok ()) : (attempt f as).2 = as := by
  induction as with
  | nil => rfl
  | cons a as ih =>
    rcases hf : f a with e | u
    · rw [attempt_cons_error hf] at h
      cases h
    · rw [attempt_cons_ok hf] at h
      rw [attempt_cons_ok hf]
      exact congrArg (a :: ·) (ih h)

end Infra
