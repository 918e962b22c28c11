import Mathlib.Data.List.Nodup
import Mathlib.Order.Lattice
import Mathlib.Data.List.Basic
import Mathlib.Data.Option.Basic

/-!
# Ordered finite maps

A map kept as a list of entries in strictly increasing key order. The order is part of the
structure, so a map has exactly one representation: two maps with the same lookups are equal
(`OrdMap.ext_get?`), and iteration always goes by key.

* `insert` replaces, `insertAll` inserts left to right, so the last entry for a key wins
* `extend` merges another map over this one, `retain` filters
-/

namespace Infra

variable {κ υ : Type} [LinearOrder κ]

/-- A finite map with its entries in strictly increasing key order. -/
structure OrdMap (κ υ : Type) [LinearOrder κ] where
  entries : List (κ × υ)
  sorted : entries.Pairwise (fun a b => a.1 < b.1)
deriving DecidableEq

namespace OrdMap

/-! ## Entry lists -/

/-- The value of the first entry for `k`. -/
def lookup (k : κ) : List (κ × υ) → Option υ
  | [] => none
  | (k', v) :: rest => if k = k' then some v else lookup k rest

/-- Puts an entry at its place in a sorted list, replacing the entry of the same key. -/
def insertEntry (k : κ) (v : υ) : List (κ × υ) → List (κ × υ)
  | [] => [(k, v)]
  | (k', v') :: rest =>
    if k < k' then (k, v) :: (k', v') :: rest
    else if k = k' then (k, v) :: rest
    else (k', v') :: insertEntry k v rest

theorem key_of_mem_insertEntry {k : κ} {v : υ} {e : κ × υ} : ∀ {l : List (κ × υ)},
    e ∈ insertEntry k v l → e.1 = k ∨ e ∈ l
  | [], h => by simp only [insertEntry, List.mem_singleton] at h; exact Or.inl (by rw [h])
  | (k', v') :: rest, h => by
    unfold insertEntry at h
    split at h
    · rcases List.mem_cons.mp h with h | h
      · exact Or.inl (by rw [h])
      · exact Or.inr h
    · split at h
      · rcases List.mem_cons.mp h with h | h
        · exact Or.inl (by rw [h])
        · exact Or.inr (List.mem_cons_of_mem _ h)
      · rcases List.mem_cons.mp h with h | h
        · exact Or.inr (by rw [h]; exact List.mem_cons_self)
        · rcases key_of_mem_insertEntry h with h | h
          · exact Or.inl h
          · exact Or.inr (List.mem_cons_of_mem _ h)

theorem sorted_insertEntry (k : κ) (v : υ) : ∀ {l : List (κ × υ)},
    l.Pairwise (fun a b => a.1 < b.1) → (insertEntry k v l).Pairwise (fun a b => a.1 < b.1)
  | [], _ => by simp [insertEntry]
  | (k', v') :: rest, h => by
    obtain ⟨hhead, hrest⟩ := List.pairwise_cons.mp h
    unfold insertEntry
    split
    · -- the new entry comes first
      next hlt =>
      refine List.pairwise_cons.mpr ⟨?_, h⟩
      intro e he
      rcases List.mem_cons.mp he with he | he
      · rw [he]; exact hlt
      · exact lt_trans hlt (hhead e he)
    · next hnlt =>
      split
      · -- it replaces the first one
        next heq =>
        subst heq
        exact List.pairwise_cons.mpr ⟨hhead, hrest⟩
      · next hne =>
        refine List.pairwise_cons.mpr ⟨?_, sorted_insertEntry k v hrest⟩
        intro e he
        rcases key_of_mem_insertEntry he with he | he
        · rw [he]; exact lt_of_le_of_ne (not_lt.mp hnlt) (fun h => hne h.symm)
        · exact hhead e he

theorem lookup_insertEntry (k k' : κ) (v : υ) : ∀ (l : List (κ × υ)),
    lookup k' (insertEntry k v l) = if k' = k then some v else lookup k' l
  | [] => by simp [insertEntry, lookup]
  | (k₁, v₁) :: rest => by
    unfold insertEntry
    split
    · simp [lookup]
    · next hnlt =>
      split
      · next heq =>
        subst heq
        by_cases h : k' = k
        · simp [lookup, h]
        · simp [lookup, h]
      · next hne =>
        rw [lookup, lookup_insertEntry k k' v rest]
        by_cases h : k' = k
        · subst h; simp [hne]
        · simp [lookup, h]

theorem lookup_eq_none_of_lt {k : κ} : ∀ {l : List (κ × υ)},
    (∀ e ∈ l, k < e.1) → lookup k l = none
  | [], _ => rfl
  | (k', v') :: rest, h => by
    have hk : k < k' := h (k', v') List.mem_cons_self
    rw [lookup, if_neg (ne_of_lt hk)]
    exact lookup_eq_none_of_lt fun e he => h e (List.mem_cons_of_mem _ he)

theorem lookup_eq_none_iff {k : κ} : ∀ {l : List (κ × υ)},
    lookup k l = none ↔ ∀ e ∈ l, e.1 ≠ k
  | [] => by simp [lookup]
  | (k', v') :: rest => by
    unfold lookup
    by_cases h : k = k'
    · simp [h]
    · rw [if_neg h, lookup_eq_none_iff]
      constructor
      · intro hall e he
        rcases List.mem_cons.mp he with he | he
        · rw [he]; exact fun h' => h h'.symm
        · exact hall e he
      · exact fun hall e he => hall e (List.mem_cons_of_mem _ he)

theorem lookup_append (k : κ) : ∀ (l l' : List (κ × υ)),
    lookup k (l ++ l') = (lookup k l).or (lookup k l')
  | [], l' => by simp [lookup]
  | (k', v') :: rest, l' => by
    rw [List.cons_append, lookup, lookup]
    by_cases h : k = k'
    · simp [h]
    · rw [if_neg h, if_neg h, lookup_append k rest l']

theorem lookup_eq_head? (k : κ) : ∀ (l : List (κ × υ)),
    lookup k l = ((l.filter fun e => e.1 = k).head?).map Prod.snd
  | [] => rfl
  | (k', v') :: rest => by
    rw [lookup, List.filter_cons]
    by_cases h : k = k'
    · simp [h]
    · rw [if_neg h, if_neg (by simpa using fun he => h he.symm)]
      exact lookup_eq_head? k rest

/-- From the back, the last entry of a key is found. -/
theorem lookup_reverse (k : κ) (l : List (κ × υ)) :
    lookup k l.reverse = ((l.filter fun e => e.1 = k).getLast?).map Prod.snd := by
  rw [lookup_eq_head?, List.filter_reverse, List.head?_reverse]

theorem mem_of_lookup {k : κ} {v : υ} : ∀ {l : List (κ × υ)}, lookup k l = some v → (k, v) ∈ l
  | [], h => by simp [lookup] at h
  | (k', v') :: rest, h => by
    unfold lookup at h
    split at h
    · next heq => cases h; rw [heq]; exact List.mem_cons_self
    · exact List.mem_cons_of_mem _ (mem_of_lookup h)

/-- With every key at most once, membership and lookup are the same thing. -/
theorem lookup_of_mem {k : κ} {v : υ} : ∀ {l : List (κ × υ)},
    (l.map Prod.fst).Nodup → (k, v) ∈ l → lookup k l = some v
  | (k', v') :: rest, hnd, h => by
    rw [List.map_cons, List.nodup_cons] at hnd
    unfold lookup
    rcases List.mem_cons.mp h with h | h
    · cases h; simp
    · have hne : k ≠ k' := by
        intro he
        exact hnd.1 (List.mem_map.mpr ⟨(k, v), h, by rw [he]⟩)
      rw [if_neg hne]
      exact lookup_of_mem hnd.2 h

/-- If all entries of a key agree, lookup finds their value. -/
theorem lookup_of_forall {k : κ} {v : υ} : ∀ {l : List (κ × υ)}, (k, v) ∈ l →
    (∀ e ∈ l, e.1 = k → e.2 = v) → lookup k l = some v
  | (k', v') :: rest, hmem, h => by
    unfold lookup
    by_cases hk : k = k'
    · rw [if_pos hk]
      exact congrArg some (h (k', v') List.mem_cons_self hk.symm)
    · rw [if_neg hk]
      rcases List.mem_cons.mp hmem with heq | hrest
      · exact absurd (congrArg Prod.fst heq) hk
      · exact lookup_of_forall hrest fun e he => h e (List.mem_cons_of_mem _ he)

theorem nodup_keys {l : List (κ × υ)} (h : l.Pairwise (fun a b => a.1 < b.1)) :
    (l.map Prod.fst).Nodup :=
  List.pairwise_map.mpr (h.imp fun hlt => ne_of_lt hlt)

/-- Sorted lists with the same lookups are the same list. -/
theorem eq_of_lookup_eq : ∀ {l l' : List (κ × υ)},
    l.Pairwise (fun a b => a.1 < b.1) → l'.Pairwise (fun a b => a.1 < b.1) →
    (∀ k, lookup k l = lookup k l') → l = l'
  | [], [], _, _, _ => rfl
  | [], (k', v') :: rest', _, _, h => by have := h k'; simp [lookup] at this
  | (k, v) :: rest, [], _, _, h => by have := h k; simp [lookup] at this
  | (k, v) :: rest, (k', v') :: rest', hs, hs', h => by
    obtain ⟨hhead, hrest⟩ := List.pairwise_cons.mp hs
    obtain ⟨hhead', hrest'⟩ := List.pairwise_cons.mp hs'
    -- neither head key can be the smaller one: the other list would not know it
    have hge : ¬ k < k' := by
      intro hlt
      have hk := h k
      rw [lookup, if_pos rfl, lookup_eq_none_of_lt] at hk
      · simp at hk
      · intro e he
        rcases List.mem_cons.mp he with he | he
        · rw [he]; exact hlt
        · exact lt_trans hlt (hhead' e he)
    have hle : ¬ k' < k := by
      intro hlt
      have hk := h k'
      rw [lookup_eq_none_of_lt (l := (k, v) :: rest), lookup, if_pos rfl] at hk
      · simp at hk
      · intro e he
        rcases List.mem_cons.mp he with he | he
        · rw [he]; exact hlt
        · exact lt_trans hlt (hhead e he)
    have hkk : k = k' := le_antisymm (not_lt.mp hle) (not_lt.mp hge)
    subst hkk
    have hvv : v = v' := by
      have hk := h k
      simpa [lookup] using hk
    subst hvv
    have htail : rest = rest' := by
      refine eq_of_lookup_eq hrest hrest' fun k₁ => ?_
      by_cases hk₁ : k₁ = k
      · rw [hk₁, lookup_eq_none_of_lt hhead, lookup_eq_none_of_lt hhead']
      · have hk := h k₁
        rwa [lookup, lookup, if_neg hk₁, if_neg hk₁] at hk
    rw [htail]

/-! ## Maps -/

def empty : OrdMap κ υ := ⟨[], List.Pairwise.nil⟩

def get? (m : OrdMap κ υ) (k : κ) : Option υ := lookup k m.entries

def insert (m : OrdMap κ υ) (k : κ) (v : υ) : OrdMap κ υ :=
  ⟨insertEntry k v m.entries, sorted_insertEntry k v m.sorted⟩

/-- Inserts entries left to right: the last one for a key wins. -/
def insertAll (m : OrdMap κ υ) (l : List (κ × υ)) : OrdMap κ υ :=
  l.foldl (fun m e => m.insert e.1 e.2) m

/-- Merges `other` over this map. -/
def extend (m other : OrdMap κ υ) : OrdMap κ υ := m.insertAll other.entries

/-- Keeps the entries whose key satisfies `p`. -/
def retain (m : OrdMap κ υ) (p : κ → Bool) : OrdMap κ υ :=
  ⟨m.entries.filter (fun e => p e.1), m.sorted.filter _⟩

def isEmpty (m : OrdMap κ υ) : Bool := m.entries.isEmpty

variable {m m' o : OrdMap κ υ} {k k' : κ} {v : υ}

@[ext] theorem ext_get? (h : ∀ k, m.get? k = m'.get? k) : m = m' := by
  have he : m.entries = m'.entries := eq_of_lookup_eq m.sorted m'.sorted h
  cases m
  cases m'
  cases he
  rfl

theorem mem_entries_iff : (k, v) ∈ m.entries ↔ m.get? k = some v :=
  ⟨lookup_of_mem (nodup_keys m.sorted), mem_of_lookup⟩

/-- The entries of a key are one. -/
theorem filter_entries (h : m.get? k = some v) : (m.entries.filter fun e => e.1 = k) = [(k, v)] := by
  have hsorted := m.sorted.filter fun e => decide (e.1 = k)
  have hhead := lookup_eq_head? k m.entries
  rw [show lookup k m.entries = some v from h] at hhead
  have hkeys : ∀ e ∈ m.entries.filter fun e => e.1 = k, e.1 = k := by
    intro e he
    simpa using (List.mem_filter.mp he).2
  match hl : m.entries.filter fun e => e.1 = k with
  | [] =>
    rw [hl] at hhead
    simp at hhead
  | [e] =>
    rw [hl] at hhead hkeys
    have hk := hkeys e List.mem_cons_self
    simp only [List.head?_cons, Option.map_some, Option.some.injEq] at hhead
    have he : e = (k, v) := Prod.ext hk hhead.symm
    rw [hl, he]
  | e :: e' :: rest =>
    rw [hl] at hsorted hkeys
    have hlt := (List.pairwise_cons.mp hsorted).1 e' List.mem_cons_self
    rw [hkeys e List.mem_cons_self,
      hkeys e' (List.mem_cons_of_mem _ List.mem_cons_self)] at hlt
    exact absurd hlt (lt_irrefl k)

@[simp] theorem get?_empty : (empty : OrdMap κ υ).get? k = none := rfl

@[simp] theorem entries_empty : (empty : OrdMap κ υ).entries = [] := rfl

theorem get?_insert (m : OrdMap κ υ) (k k' : κ) (v : υ) :
    (m.insert k v).get? k' = if k' = k then some v else m.get? k' :=
  lookup_insertEntry k k' v m.entries

@[simp] theorem insertAll_nil : m.insertAll [] = m := rfl

@[simp] theorem insertAll_cons (e : κ × υ) (l : List (κ × υ)) :
    m.insertAll (e :: l) = (m.insert e.1 e.2).insertAll l := rfl

/-- **The last entry wins.** Looking from the back of the list finds what the map holds. -/
theorem get?_insertAll (k : κ) : ∀ (l : List (κ × υ)) (m : OrdMap κ υ),
    (m.insertAll l).get? k = (lookup k l.reverse).or (m.get? k)
  | [], m => by simp [lookup]
  | e :: rest, m => by
    rw [insertAll_cons, get?_insertAll k rest, get?_insert, List.reverse_cons, lookup_append]
    cases lookup k rest.reverse with
    | some v => simp
    | none => by_cases h : k = e.1 <;> simp [lookup, h]

theorem lookup_reverse_of_nodup : ∀ {l : List (κ × υ)}, (l.map Prod.fst).Nodup →
    lookup k l.reverse = lookup k l := by
  intro l hnd
  cases h : lookup k l with
  | none =>
    rw [lookup_eq_none_iff] at h ⊢
    exact fun e he => h e (List.mem_reverse.mp he)
  | some v =>
    refine lookup_of_mem ?_ (List.mem_reverse.mpr (mem_of_lookup h))
    rw [List.map_reverse]
    exact (List.reverse_perm _).nodup_iff.mpr hnd

/-- **Entries with different keys are all kept.** -/
theorem entries_insertAll_perm {l : List (κ × υ)} (hnd : (l.map Prod.fst).Nodup) :
    (empty.insertAll l).entries.Perm l := by
  rw [List.perm_ext_iff_of_nodup (List.Nodup.of_map Prod.fst (nodup_keys (empty.insertAll l).sorted))
    (List.Nodup.of_map Prod.fst hnd)]
  rintro ⟨k, v⟩
  rw [mem_entries_iff, get?_insertAll, get?_empty, Option.or_none, lookup_reverse_of_nodup hnd]
  exact ⟨mem_of_lookup, lookup_of_mem hnd⟩

theorem get?_extend (m o : OrdMap κ υ) (k : κ) :
    (m.extend o).get? k = (o.get? k).or (m.get? k) := by
  rw [extend, get?_insertAll, lookup_reverse_of_nodup (nodup_keys o.sorted)]
  rfl

theorem get?_retain (m : OrdMap κ υ) (p : κ → Bool) (k : κ) :
    (m.retain p).get? k = if p k then m.get? k else none := by
  cases hp : p k with
  | false =>
    rw [if_neg (by simp)]
    refine lookup_eq_none_iff.mpr fun e he => ?_
    intro hek
    have := (List.mem_filter.mp he).2
    rw [hek, hp] at this
    simp at this
  | true =>
    rw [if_pos rfl]
    cases h : m.get? k with
    | none =>
      refine lookup_eq_none_iff.mpr fun e he => ?_
      exact lookup_eq_none_iff.mp h e (List.mem_filter.mp he).1
    | some v =>
      refine mem_entries_iff.mp (List.mem_filter.mpr ⟨mem_entries_iff.mpr h, ?_⟩)
      simpa using hp

@[simp] theorem isEmpty_iff : m.isEmpty = true ↔ m = empty := by
  constructor
  · intro h
    obtain ⟨l, hs⟩ := m
    cases l with
    | nil => rfl
    | cons e rest => simp [isEmpty] at h
  · intro h; rw [h]; rfl

theorem extend_empty_left (m : OrdMap κ υ) : (empty : OrdMap κ υ).extend m = m := by
  ext k
  simp [get?_extend]

end OrdMap

end Infra
