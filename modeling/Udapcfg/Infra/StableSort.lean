import Mathlib.Data.List.Perm.Basic
import Mathlib.Data.List.Sort

/-!
# Stable sorting

What a stable sort by a key does to the elements of one key: nothing. `List.insertionSort` is the
model of the standard library's `sort_by_key` and `sort_by`.

* `filter_insertionSort` — elements that compare equal keep their order
* `pairwise_insertionSort_of_pairwise` — ties stay in the order the list had before
* `insertionSort_eq_of_perm` — under a linear order the result depends on the elements only
-/

namespace Infra

variable {α : Type} (r : α → α → Prop) [DecidableRel r]

/-- **Stability.** The elements of a class in which all are related keep their order. -/
theorem filter_insertionSort [Std.Total r] [IsTrans α r] {p : α → Bool} {l : List α}
    (h : ∀ a ∈ l, ∀ b ∈ l, p a = true → p b = true → r a b) :
    (l.insertionSort r).filter p = l.filter p := by
  have hclass : (l.filter p).Pairwise r := by
    refine List.Pairwise.imp_of_mem ?_ (List.pairwise_of_forall (R := fun _ _ => True) (by simp))
    intro a b ha hb _
    rw [List.mem_filter] at ha hb
    exact h a ha.1 b hb.1 ha.2 hb.2
  have hsub : (l.filter p).Sublist (l.insertionSort r) :=
    List.sublist_insertionSort hclass List.filter_sublist
  have hfilter : (l.filter p).Sublist ((l.insertionSort r).filter p) := by
    have := hsub.filter p
    simpa only [List.filter_filter, Bool.and_self] using this
  have hlen : ((l.insertionSort r).filter p).length = (l.filter p).length :=
    ((List.perm_insertionSort r l).filter p).length_eq
  exact (hfilter.eq_of_length hlen.symm).symm

theorem pairwise_orderedInsert_of_forall [Std.Total r] [IsTrans α r] {s : α → α → Prop} {a : α} :
    ∀ {l : List α}, (∀ b ∈ l, s a b) → (l.Pairwise fun b c => r b c ∧ (r c b → s b c)) →
    (l.orderedInsert r a).Pairwise fun b c => r b c ∧ (r c b → s b c)
  | [], _, _ => List.pairwise_singleton _ _
  | b :: l, hs, hl => by
    obtain ⟨hhead, htail⟩ := List.pairwise_cons.mp hl
    by_cases hab : r a b
    · rw [List.orderedInsert_cons_of_le r l hab]
      refine List.pairwise_cons.mpr ⟨?_, hl⟩
      intro c hc
      refine ⟨?_, fun _ => hs c hc⟩
      rcases List.mem_cons.mp hc with rfl | hc
      · exact hab
      · exact trans_of r hab (hhead c hc).1
    · rw [List.orderedInsert_of_not_le r l hab]
      refine List.pairwise_cons.mpr ⟨?_,
        pairwise_orderedInsert_of_forall (fun c hc => hs c (List.mem_cons_of_mem b hc)) htail⟩
      intro c hc
      rcases (List.mem_orderedInsert r).mp hc with rfl | hc
      · exact ⟨(total_of r c b).resolve_left hab, fun hcb => absurd hcb hab⟩
      · exact hhead c hc

/-- **Ties** are left in the order the list had before. -/
theorem pairwise_insertionSort_of_pairwise [Std.Total r] [IsTrans α r] {s : α → α → Prop} :
    ∀ {l : List α}, l.Pairwise s →
    (l.insertionSort r).Pairwise fun a b => r a b ∧ (r b a → s a b)
  | [], _ => List.Pairwise.nil
  | a :: l, h => by
    obtain ⟨hhead, htail⟩ := List.pairwise_cons.mp h
    refine pairwise_orderedInsert_of_forall r ?_ (pairwise_insertionSort_of_pairwise htail)
    intro b hb
    exact hhead b ((List.mem_insertionSort r).mp hb)

theorem insertionSort_eq_of_perm_of_isTrans [Std.Total r] [IsTrans α r] {l l' : List α}
    (h : l.Perm l') (hanti : ∀ a ∈ l, ∀ b ∈ l, r a b → r b a → a = b) :
    l.insertionSort r = l'.insertionSort r := by
  have hperm : (l.insertionSort r).Perm (l'.insertionSort r) :=
    (List.perm_insertionSort r l).trans (h.trans (List.perm_insertionSort r l').symm)
  refine hperm.eq_of_pairwise ?_ (List.pairwise_insertionSort r l)
    (List.pairwise_insertionSort r l')
  intro a b ha hb
  rw [List.mem_insertionSort] at ha hb
  exact hanti a ha b (h.mem_iff.mpr hb)

/-- **Two lists of the same elements sort to the same list**, if on these the relation
is an order. -/
theorem insertionSort_eq_of_perm {l l' : List α} (h : l.Perm l')
    (htotal : ∀ a ∈ l, ∀ b ∈ l, r a b ∨ r b a)
    (htrans : ∀ a ∈ l, ∀ b ∈ l, ∀ c ∈ l, r a b → r b c → r a c)
    (hanti : ∀ a ∈ l, ∀ b ∈ l, r a b → r b a → a = b) :
    l.insertionSort r = l'.insertionSort r := by
  -- sort the elements as elements of `l`, where the relation is an order throughout
  let s : {a // a ∈ l} → {a // a ∈ l} → Prop := fun a b => r a b
  have : Std.Total s := ⟨fun a b => htotal a a.2 b b.2⟩
  have : IsTrans {a // a ∈ l} s := ⟨fun a b c => htrans a a.2 b b.2 c c.2⟩
  let m := l'.attachWith (· ∈ l) fun a ha => h.mem_iff.mpr ha
  have hl : l.attach.map Subtype.val = l := List.attach_map_subtype_val l
  have hm : m.map Subtype.val = l' := List.attachWith_map_subtype_val _
  have hperm : l.attach.Perm m := by
    rw [← List.map_perm_map_iff Subtype.val_injective, hl, hm]
    exact h
  have hsort : l.attach.insertionSort s = m.insertionSort s :=
    insertionSort_eq_of_perm_of_isTrans s hperm fun a _ b _ hab hba =>
      Subtype.ext (hanti a a.2 b b.2 hab hba)
  calc l.insertionSort r
    _ = (l.attach.insertionSort s).map Subtype.val := by
      rw [List.map_insertionSort s r Subtype.val _ fun _ _ _ _ => Iff.rfl, hl]
    _ = (m.insertionSort s).map Subtype.val := by rw [hsort]
    _ = l'.insertionSort r := by
      rw [List.map_insertionSort s r Subtype.val _ fun _ _ _ _ => Iff.rfl, hm]

end Infra
