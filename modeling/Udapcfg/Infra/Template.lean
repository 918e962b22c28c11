import Mathlib.Data.List.Basic

/-!
# Templates

A template says how long a word is and which letters may stand at each position. The position from
which on a word is not the beginning of any word of the language is then the first whose letter does
not belong there.

* `DepartsAt` — where a word leaves a language, whatever the language
* `departsAt_template_iff` — where it leaves that of a template
-/

namespace Infra

variable {α : Type}

/-- The first `pos` letters begin a word of the language, and with the next one they do not. -/
def DepartsAt (L : Set (List α)) (w : List α) (pos : Nat) : Prop :=
  (∃ u ∈ L, w.take pos <+: u) ∧ pos < w.length ∧ ¬ ∃ u ∈ L, w.take (pos + 1) <+: u

/-- The words of length `n` whose letters are all in place. -/
def template (n : Nat) (ok : Nat → α → Prop) : Set (List α) :=
  {w | w.length = n ∧ ∀ i a, w[i]? = some a → ok i a}

variable {n : Nat} {ok : Nat → α → Prop} {w : List α} {pos : Nat}

theorem mem_template_cons {a : α} :
    a :: w ∈ template (n + 1) ok ↔ ok 0 a ∧ w ∈ template n fun i => ok (i + 1) := by
  constructor
  · rintro ⟨hlen, hok⟩
    exact ⟨hok 0 a rfl, Nat.succ.inj hlen, fun i => hok (i + 1)⟩
  · rintro ⟨hhead, hlen, hok⟩
    refine ⟨congrArg Nat.succ hlen, fun i b hb => ?_⟩
    cases i with
    | zero =>
      cases hb
      exact hhead
    | succ i => exact hok i b hb

theorem getElem?_mono {u v : List α} (h : u <+: v) {i : Nat} {a : α} (ha : u[i]? = some a) :
    v[i]? = some a := by
  obtain ⟨t, rfl⟩ := h
  rw [List.getElem?_append_left (List.getElem?_eq_some_iff.mp ha).1, ha]

/-- Letters in place can be continued, if there is a letter for every position. -/
theorem exists_completion {fill : Nat → α} (hfill : ∀ i, ok i (fill i)) (hw : w.length = n)
    (hpos : pos ≤ n) (hok : ∀ i < pos, ∀ a, w[i]? = some a → ok i a) :
    ∃ u ∈ template n ok, w.take pos <+: u := by
  have htake : (w.take pos).length = pos := by
    rw [List.length_take]
    omega
  refine ⟨w.take pos ++ (List.range' pos (n - pos)).map fill, ⟨?_, ?_⟩, List.prefix_append _ _⟩
  · rw [List.length_append, htake, List.length_map, List.length_range']
    omega
  · intro i a ha
    by_cases hi : i < pos
    · rw [List.getElem?_append_left (by omega), List.getElem?_take_of_lt hi] at ha
      exact hok i hi a ha
    · rw [List.getElem?_append_right (by omega), htake, List.getElem?_map] at ha
      obtain ⟨j, hj, rfl⟩ := Option.map_eq_some_iff.mp ha
      obtain ⟨hlt, hget⟩ := List.getElem?_eq_some_iff.mp hj
      rw [List.getElem_range'] at hget
      rw [show i = j by omega]
      exact hfill j

/-- **Where a word leaves the language of a template**: at its first letter out of place. -/
theorem departsAt_template_iff {fill : Nat → α} (hfill : ∀ i, ok i (fill i)) (hw : w.length = n) :
    DepartsAt (template n ok) w pos ↔
      (∃ a, w[pos]? = some a ∧ ¬ ok pos a) ∧ ∀ i < pos, ∀ a, w[i]? = some a → ok i a := by
  constructor
  · rintro ⟨⟨u, hu, hprefix⟩, hlt, hnone⟩
    have hbefore : ∀ i < pos, ∀ a, w[i]? = some a → ok i a := by
      intro i hi a ha
      rw [← List.getElem?_take_of_lt hi] at ha
      exact hu.2 i a (getElem?_mono hprefix ha)
    refine ⟨⟨w[pos], List.getElem?_eq_getElem hlt, fun hletter => ?_⟩, hbefore⟩
    -- with this letter in place as well the word could be continued
    refine hnone (exists_completion hfill hw (by omega) fun i hi a ha => ?_)
    rcases Nat.lt_succ_iff_lt_or_eq.mp hi with hi | rfl
    · exact hbefore i hi a ha
    · rw [List.getElem?_eq_getElem hlt] at ha
      cases ha
      exact hletter
  · rintro ⟨⟨a, ha, hletter⟩, hbefore⟩
    have hlt : pos < w.length := (List.getElem?_eq_some_iff.mp ha).1
    refine ⟨exists_completion hfill hw (by omega) hbefore, hlt, ?_⟩
    rintro ⟨u, hu, hprefix⟩
    rw [← List.getElem?_take_of_lt (Nat.lt_succ_self pos)] at ha
    exact hletter (hu.2 pos a (getElem?_mono hprefix ha))

end Infra
