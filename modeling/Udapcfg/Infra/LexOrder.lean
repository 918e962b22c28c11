import Mathlib.Data.List.Basic

/-!
# Cycles of a lexicographic comparison

`List.compareLex cmp` compares lists element by element, and is as good an order as `cmp`. Where
`cmp` is not transitive, a cycle of three lists goes back to three elements at one position.

* `Parted` — three lists, the first elements where they are not all equal, and what follows
* `Parted.compareLex_eq` — the elements and what follows them decide
* `exists_parted` — three lists that compare in a circle part somewhere
-/

namespace Infra

open Std

variable {α : Type} {cmp : α → α → Ordering}

/-- Elements in a circle that are all at most the next one are equal. -/
theorem eq_of_isLE_circle [TransCmp cmp] {a b c : α} (hab : (cmp a b).isLE) (hbc : (cmp b c).isLE)
    (hca : (cmp c a).isLE) : cmp a b = .eq := by
  have hba : (cmp b a).isLE := TransCmp.isLE_trans hbc hca
  exact OrientedCmp.isLE_antisymm hab hba

/-- When one of two texts has ended, so has its list of parts: lengths decide. -/
theorem compareLex_end {γ : Type} {parts : List γ → List α} (hnil : parts [] = [])
    (hcons : ∀ x xs, parts (x :: xs) ≠ []) {left right : List γ} (hend : left = [] ∨ right = []) :
    List.compareLex cmp (parts left) (parts right) = compare left.length right.length := by
  match left, right with
  | [], [] => rw [hnil, List.compareLex_nil_nil, compare_self]
  | [], x :: right =>
    obtain ⟨y, ys, hy⟩ := List.exists_cons_of_ne_nil (hcons x right)
    rw [hnil, hy, List.compareLex_nil_cons]
    exact (Nat.compare_eq_lt.mpr (Nat.succ_pos _)).symm
  | x :: left, [] =>
    obtain ⟨y, ys, hy⟩ := List.exists_cons_of_ne_nil (hcons x left)
    rw [hnil, hy, List.compareLex_cons_nil]
    exact (Nat.compare_eq_gt.mpr (Nat.succ_pos _)).symm
  | _ :: _, _ :: _ => simp at hend

/-- The comparison of elements matters on the elements of one side only. -/
theorem compareLex_congr {cmp' : α → α → Ordering} {X : List α}
    (h : ∀ x ∈ X, ∀ y, cmp x y = cmp' x y) (Y : List α) :
    List.compareLex cmp X Y = List.compareLex cmp' X Y := by
  induction X generalizing Y with
  | nil => cases Y <;> rfl
  | cons x X ih =>
    cases Y with
    | nil => rfl
    | cons y Y =>
      rw [List.compareLex_cons_cons, List.compareLex_cons_cons, h x List.mem_cons_self y,
        ih (fun z hz => h z (List.mem_cons_of_mem x hz)) Y]

/-! ## Three lists -/

/--
`Parted cmp X Y Z a b c X' Y' Z'`: from the front of `X`, `Y` and `Z` on, elements in the same place
compare equal, until `a`, `b` and `c`; what follows them is `X'`, `Y'` and `Z'`.
-/
inductive Parted (cmp : α → α → Ordering) : List α → List α → List α → α → α → α →
    List α → List α → List α → Prop
  | here (a b c : α) (X Y Z : List α) :
    Parted cmp (a :: X) (b :: Y) (c :: Z) a b c X Y Z
  | there {x y z : α} {X Y Z : List α} {a b c : α} {X' Y' Z' : List α} (hxy : cmp x y = .eq)
    (hyz : cmp y z = .eq) (hzx : cmp z x = .eq) (h : Parted cmp X Y Z a b c X' Y' Z') :
    Parted cmp (x :: X) (y :: Y) (z :: Z) a b c X' Y' Z'

variable {X Y Z X' Y' Z' : List α} {a b c : α}

theorem Parted.rotate (h : Parted cmp X Y Z a b c X' Y' Z') :
    Parted cmp Y Z X b c a Y' Z' X' := by
  induction h with
  | here a b c X Y Z => exact .here b c a Y Z X
  | there hxy hyz hzx _ ih => exact .there hyz hzx hxy ih

theorem Parted.mem_left (h : Parted cmp X Y Z a b c X' Y' Z') : a ∈ X := by
  induction h with
  | here a b c X Y Z => exact List.mem_cons_self
  | there _ _ _ _ ih => exact List.mem_cons_of_mem _ ih

/-- What compares equal in front does not count. -/
theorem Parted.compareLex_eq (h : Parted cmp X Y Z a b c X' Y' Z') :
    List.compareLex cmp X Y = (cmp a b).then (List.compareLex cmp X' Y') := by
  induction h with
  | here a b c X Y Z => exact List.compareLex_cons_cons
  | there hxy _ _ _ ih => rw [List.compareLex_cons_cons, hxy, Ordering.eq_then, ih]

/-- Less, where ties are decided by `tie`. -/
def LessThen (cmp : α → α → Ordering) (X Y : List α) (tie : Ordering) : Prop :=
  (List.compareLex cmp X Y).then tie = .lt

theorem LessThen.ne_nil_right {tie : Ordering} {x : α} (h : LessThen cmp (x :: X) Y tie) :
    Y ≠ [] := by
  rintro rfl
  simp [LessThen, List.compareLex_cons_nil] at h

/--
**Three lists that compare in a circle part somewhere**, unless it is only the ties that go in a
circle.
-/
theorem exists_parted {t₁ t₂ t₃ : Ordering} (ht : ¬ (t₁ = .lt ∧ t₂ = .lt ∧ t₃ = .lt)) :
    ∀ (X Y Z : List α), LessThen cmp X Y t₁ → LessThen cmp Y Z t₂ → LessThen cmp Z X t₃ →
    ∃ a b c X' Y' Z', Parted cmp X Y Z a b c X' Y' Z' ∧
      ¬ (cmp a b = .eq ∧ cmp b c = .eq ∧ cmp c a = .eq)
  | [], [], [], h₁, h₂, h₃ => absurd ⟨h₁, h₂, h₃⟩ ht
  | x :: X, [], _, h₁, _, _ => absurd rfl h₁.ne_nil_right
  | _, y :: Y, [], _, h₂, _ => absurd rfl h₂.ne_nil_right
  | [], _, z :: Z, _, _, h₃ => absurd rfl h₃.ne_nil_right
  | x :: X, y :: Y, z :: Z, h₁, h₂, h₃ => by
    by_cases heq : cmp x y = .eq ∧ cmp y z = .eq ∧ cmp z x = .eq
    · obtain ⟨hxy, hyz, hzx⟩ := heq
      rw [LessThen, List.compareLex_cons_cons] at h₁ h₂ h₃
      rw [hxy, Ordering.eq_then] at h₁
      rw [hyz, Ordering.eq_then] at h₂
      rw [hzx, Ordering.eq_then] at h₃
      obtain ⟨a, b, c, X', Y', Z', hparted, hne⟩ := exists_parted ht X Y Z h₁ h₂ h₃
      exact ⟨a, b, c, X', Y', Z', .there hxy hyz hzx hparted, hne⟩
    · exact ⟨x, y, z, X, Y, Z, .here x y z X Y Z, heq⟩

end Infra
