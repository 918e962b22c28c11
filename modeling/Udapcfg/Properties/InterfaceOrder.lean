import Udapcfg.Infra.LexOrder
import Udapcfg.Infra.StableSort
import Udapcfg.Udap.Interfaces

/-!
# The order of interface names

`iface_cmp` is a lexicographic comparison of segments: tokens and the separators between them.
Tokens are compared as counters, which is an order, except that two hex identifiers are compared as
written. A token that is not a hex identifier can therefore lie between two that are, the wrong way
round.

* `tokenCmp_eq` — counters compare as lists of numbers and letters
* `ifaceLoop_eq` — names compare as lists of segments
* `circle_iff_hexConflict` — three names compare in a circle exactly if they are in conflict
* `enumerate_deterministic_iff` — when the order of interfaces does not depend on the report
-/

namespace Udap

open Infra Std

/-! ## Counters -/

/-- The digits of a run as a number, or a byte: a list of numbers, to be compared in order. -/
abbrev Key := List Nat

def keyCmp : Key → Key → Ordering := List.compareLex compare

/-- The key of a digit run: it starts where the digits do, and goes on with length and digits. -/
def numberKey (digits : Bytes) : Key := 0x30 :: digits.length :: digits.map UInt8.toNat

/-- The keys of a token. -/
def keys : Bytes → List Key
  | [] => []
  | b :: rest =>
    if isDigit b then
      numberKey (stripLeadingZeros (b :: rest.takeWhile isDigit)) :: keys (rest.dropWhile isDigit)
    else [b.toNat] :: keys rest
termination_by token => token.length
decreasing_by
  · exact Nat.lt_succ_of_le (List.dropWhile_sublist _).length_le
  · exact Nat.lt_succ_self _

/-- How lists of keys compare. -/
def keysCmp : List Key → List Key → Ordering := List.compareLex keyCmp

instance : TransCmp keysCmp := inferInstanceAs (TransCmp (List.compareLex (List.compareLex compare)))

theorem compare_toNat (a b : UInt8) : compare a.toNat b.toNat = compare a b := by
  simp only [compare, compareOfLessAndEq, UInt8.lt_iff_toNat_lt, UInt8.toNat_inj]

theorem sliceCmp_eq_map_toNat : ∀ (a b : Bytes),
    List.compareLex compare (a.map UInt8.toNat) (b.map UInt8.toNat) = sliceCmp a b
  | [], [] => rfl
  | [], _ :: _ => rfl
  | _ :: _, [] => rfl
  | x :: a, y :: b => by
    rw [List.map_cons, List.map_cons, List.compareLex_cons_cons, compare_toNat,
      sliceCmp_eq_map_toNat a b, sliceCmp, sliceCmp, List.compareLex_cons_cons]

theorem keyCmp_numberKey (a b : Bytes) : keyCmp (numberKey a) (numberKey b)
    = (compare a.length b.length).then (sliceCmp a b) := by
  rw [keyCmp, numberKey, numberKey, List.compareLex_cons_cons, List.compareLex_cons_cons,
    sliceCmp_eq_map_toNat]
  rfl

/-- Between a digit and something else it does not matter which digit it is. -/
theorem compare_digit {l r : UInt8} (hl : isDigit l = true) (hr : isDigit r = false) :
    compare 0x30 r.toNat = compare l r ∧ compare l r ≠ .eq := by
  rw [isDigit_iff] at hl
  have hr' : ¬ (48 ≤ r.toNat ∧ r.toNat ≤ 57) := by rw [← isDigit_iff, hr]; simp
  rw [← compare_toNat]
  rcases Nat.lt_or_ge r.toNat 48 with hlt | hge
  · rw [Nat.compare_eq_gt.mpr (by omega), Nat.compare_eq_gt.mpr (by omega)]
    simp
  · rw [Nat.compare_eq_lt.mpr (by omega), Nat.compare_eq_lt.mpr (by omega)]
    simp

theorem ne_eq_then {o o' : Ordering} (h : o ≠ .eq) : o.then o' = o := by
  cases o <;> first | rfl | exact absurd rfl h

/-- The first keys compare as the first bytes do, unless both are digits. -/
theorem keysCmp_cons {l r : UInt8} (h : (isDigit l && isDigit r) = false) (left right : Bytes) :
    keysCmp (keys (l :: left)) (keys (r :: right))
      = (compare l r).then (keysCmp (keys left) (keys right)) := by
  rw [keys, keys, keysCmp]
  cases hl : isDigit l with
  | true =>
    have hr : isDigit r = false := by simpa [hl] using h
    obtain ⟨heq, hne⟩ := compare_digit hl hr
    rw [if_pos rfl, hr, if_neg (by simp), List.compareLex_cons_cons, keyCmp, numberKey,
      List.compareLex_cons_cons, heq, ne_eq_then hne, ne_eq_then hne, ne_eq_then hne]
  | false =>
    cases hr : isDigit r with
    | true =>
      obtain ⟨heq, hne⟩ := compare_digit hr hl
      have hswap : compare l.toNat 0x30 = compare l r := by
        rw [@OrientedCmp.eq_swap _ compare _ l.toNat, heq, ← OrientedCmp.eq_swap]
      have hne' : compare l r ≠ .eq := fun he => hne (OrientedCmp.eq_comm.mp he)
      rw [if_neg (by simp), if_pos rfl, List.compareLex_cons_cons, keyCmp, numberKey,
        List.compareLex_cons_cons, hswap, ne_eq_then hne', ne_eq_then hne', ne_eq_then hne']
    | false =>
      rw [if_neg (by simp), if_neg (by simp), List.compareLex_cons_cons, keyCmp,
        List.compareLex_cons_cons, compare_toNat, List.compareLex_nil_nil, Ordering.then_eq]

/-- The first keys compare as the first runs do, if both are digits. -/
theorem keysCmp_digits {l r : UInt8} (hl : isDigit l = true) (hr : isDigit r = true)
    (left right : Bytes) : keysCmp (keys (l :: left)) (keys (r :: right))
      = (byValue (l :: left.takeWhile isDigit) (r :: right.takeWhile isDigit)).then
        (keysCmp (keys (left.dropWhile isDigit)) (keys (right.dropWhile isDigit))) := by
  rw [keys, keys, if_pos hl, if_pos hr, keysCmp, List.compareLex_cons_cons, keyCmp_numberKey]
  rfl

theorem keys_nil : keys [] = [] := by rw [keys]

theorem keys_cons_ne_nil (b : UInt8) (rest : Bytes) : keys (b :: rest) ≠ [] := by
  unfold keys
  split <;> simp

theorem ends_of_not_cons {left right : Bytes}
    (h : ∀ (l : UInt8) (left' : Bytes) (r : UInt8) (right' : Bytes), left = l :: left' →
      right = r :: right' → False) : left = [] ∨ right = [] := by
  cases left with
  | nil => exact Or.inl rfl
  | cons l left =>
    cases right with
    | nil => exact Or.inr rfl
    | cons r right => exact (h l left r right rfl rfl).elim

/-- **Counters compare as lists of keys.** -/
theorem tokenCmp_eq (left right : Bytes) : tokenCmp left right = keysCmp (keys left) (keys right) := by
  fun_induction tokenCmp left right with
  | case1 l left r right hdigits ordering hne =>
    rw [Bool.and_eq_true] at hdigits
    rw [keysCmp_digits hdigits.1 hdigits.2, ne_eq_then hne]
  | case2 l left r right hdigits ordering heq ih =>
    rw [Bool.and_eq_true] at hdigits
    rw [keysCmp_digits hdigits.1 hdigits.2, show byValue _ _ = .eq from of_not_not heq,
      Ordering.eq_then, ih]
  | case3 l left r right hdigits byByte hne =>
    rw [keysCmp_cons (Bool.eq_false_of_not_eq_true hdigits), ne_eq_then hne]
  | case4 l left r right hdigits byByte heq ih =>
    rw [keysCmp_cons (Bool.eq_false_of_not_eq_true hdigits), show compare l r = .eq from of_not_not heq,
      Ordering.eq_then, ih]
  | case5 left right hend =>
    exact (compareLex_end keys_nil keys_cons_ne_nil (ends_of_not_cons hend)).symm

/-! ## Segments -/

/-- A part of a name: a whole token, or one byte between tokens. -/
inductive Segment where
  | token (bytes : Bytes) (nonempty : bytes ≠ []) (letters : ∀ b ∈ bytes, isAlphanumeric b = true)
  | separator (byte : UInt8) (other : isAlphanumeric byte = false)

namespace Segment

def bytes : Segment → Bytes
  | token bytes _ _ => bytes
  | separator byte _ => [byte]

def isHex : Segment → Bool
  | token bytes _ _ => isHexIdentifier bytes
  | separator _ _ => false

/-- How two segments in the same place compare. -/
def cmp : Segment → Segment → Ordering
  | token a _ _, token b _ _ => tokenOrdering a b
  | s, t => compare (s.bytes.headD 0) (t.bytes.headD 0)

end Segment

/-- The segments of a name. -/
def segments : Bytes → List Segment
  | [] => []
  | b :: rest =>
    if h : isAlphanumeric b then
      .token (b :: rest.takeWhile isAlphanumeric) (List.cons_ne_nil _ _)
        (by
          intro x hx
          rcases List.mem_cons.mp hx with rfl | hx
          · exact h
          · exact List.all_eq_true.mp List.all_takeWhile x hx)
      :: segments (rest.dropWhile isAlphanumeric)
    else .separator b (by simpa using h) :: segments rest
termination_by name => name.length
decreasing_by
  · exact Nat.lt_succ_of_le (List.dropWhile_sublist _).length_le
  · exact Nat.lt_succ_self _

theorem segments_nil : segments [] = [] := by rw [segments]

theorem segments_cons_ne_nil (b : UInt8) (rest : Bytes) : segments (b :: rest) ≠ [] := by
  unfold segments
  split <;> simp

theorem isDigit_of_not_alphanumeric {b : UInt8} (h : isAlphanumeric b = false) :
    isDigit b = false := by
  rw [isAlphanumeric, Bool.or_eq_false_iff] at h
  exact h.1

theorem compare_ne_eq {a b : UInt8} (ha : isAlphanumeric a = true) (hb : isAlphanumeric b = false) :
    compare a b ≠ .eq := by
  intro h
  rw [LawfulEqOrd.eq_of_compare h, hb] at ha
  simp at ha

/-- Apart from two hex identifiers all segments compare as counters. -/
theorem Segment.cmp_eq (s t : Segment) : s.cmp t =
    if s.isHex && t.isHex then sliceCmp s.bytes t.bytes
    else keysCmp (keys s.bytes) (keys t.bytes) := by
  cases s with
  | token a ha hletters =>
    cases t with
    | token b _ _ => rw [Segment.cmp, tokenOrdering, tokenCmp_eq]; rfl
    | separator y hy =>
      obtain ⟨x, xs, rfl⟩ := List.exists_cons_of_ne_nil ha
      have hne := compare_ne_eq (hletters x List.mem_cons_self) hy
      have hdigit : (isDigit x && isDigit y) = false := by
        rw [isDigit_of_not_alphanumeric hy, Bool.and_false]
      simp only [Segment.cmp, Segment.isHex, Segment.bytes, Bool.and_false, Bool.false_eq_true,
        if_false, List.headD_cons, keysCmp_cons hdigit, ne_eq_then hne]
  | separator x hx =>
    cases t with
    | token b hb hletters =>
      obtain ⟨y, ys, rfl⟩ := List.exists_cons_of_ne_nil hb
      have hne : compare x y ≠ .eq := fun he =>
        compare_ne_eq (hletters y List.mem_cons_self) hx (OrientedCmp.eq_comm.mp he)
      have hdigit : (isDigit x && isDigit y) = false := by
        rw [isDigit_of_not_alphanumeric hx, Bool.false_and]
      simp only [Segment.cmp, Segment.isHex, Segment.bytes, Bool.false_and, Bool.false_eq_true,
        if_false, List.headD_cons, keysCmp_cons hdigit, ne_eq_then hne]
    | separator y hy =>
      have hdigit : (isDigit x && isDigit y) = false := by
        rw [isDigit_of_not_alphanumeric hx, Bool.false_and]
      have hend : keysCmp (keys []) (keys []) = .eq := by rw [keys_nil]; rfl
      simp only [Segment.cmp, Segment.isHex, Segment.bytes, Bool.false_and, Bool.false_eq_true,
        if_false, List.headD_cons, keysCmp_cons hdigit, hend, Ordering.then_eq]

/-- How lists of segments compare. -/
def segmentsCmp : List Segment → List Segment → Ordering := List.compareLex Segment.cmp

theorem segmentsCmp_tokens {l r : UInt8} (hl : isAlphanumeric l = true)
    (hr : isAlphanumeric r = true) (left right : Bytes) :
    segmentsCmp (segments (l :: left)) (segments (r :: right))
      = (tokenOrdering (l :: left.takeWhile isAlphanumeric)
          (r :: right.takeWhile isAlphanumeric)).then
        (segmentsCmp (segments (left.dropWhile isAlphanumeric))
          (segments (right.dropWhile isAlphanumeric))) := by
  rw [segments, segments, dif_pos hl, dif_pos hr, segmentsCmp, List.compareLex_cons_cons]
  rfl

theorem segmentsCmp_cons {l r : UInt8} (h : (isAlphanumeric l && isAlphanumeric r) = false)
    (left right : Bytes) : segmentsCmp (segments (l :: left)) (segments (r :: right))
      = (compare l r).then (segmentsCmp (segments left) (segments right)) := by
  rw [segments, segments, segmentsCmp]
  by_cases hl : isAlphanumeric l = true
  · have hr : isAlphanumeric r = false := by simpa [hl] using h
    rw [dif_pos hl, dif_neg (by simp [hr]), List.compareLex_cons_cons, Segment.cmp]
    · simp only [Segment.bytes, List.headD_cons, ne_eq_then (compare_ne_eq hl hr)]
    · simp
  · have hl' : isAlphanumeric l = false := by simpa using hl
    by_cases hr : isAlphanumeric r = true
    · have hne : compare l r ≠ .eq := fun he => compare_ne_eq hr hl' (OrientedCmp.eq_comm.mp he)
      rw [dif_neg hl, dif_pos hr, List.compareLex_cons_cons, Segment.cmp]
      · simp only [Segment.bytes, List.headD_cons, ne_eq_then hne]
      · simp
    · rw [dif_neg hl, dif_neg hr, List.compareLex_cons_cons, Segment.cmp]
      · rfl
      · simp

/-- **Names compare as lists of segments.** -/
theorem ifaceLoop_eq (left right : Bytes) :
    ifaceLoop left right = segmentsCmp (segments left) (segments right) := by
  fun_induction ifaceLoop left right with
  | case1 l left r right halnum ordering hne =>
    rw [Bool.and_eq_true] at halnum
    rw [segmentsCmp_tokens halnum.1 halnum.2, ne_eq_then hne]
  | case2 l left r right halnum ordering heq ih =>
    rw [Bool.and_eq_true] at halnum
    rw [segmentsCmp_tokens halnum.1 halnum.2, show tokenOrdering _ _ = .eq from of_not_not heq,
      Ordering.eq_then, ih]
  | case3 l left r right halnum byByte hne =>
    rw [segmentsCmp_cons (Bool.eq_false_of_not_eq_true halnum), ne_eq_then hne]
  | case4 l left r right halnum byByte heq ih =>
    rw [segmentsCmp_cons (Bool.eq_false_of_not_eq_true halnum),
      show compare l r = .eq from of_not_not heq, Ordering.eq_then, ih]
  | case5 left right hend =>
    exact (compareLex_end segments_nil segments_cons_ne_nil (ends_of_not_cons hend)).symm

/-! ## Circles of segments -/

instance : TransCmp sliceCmp := inferInstanceAs (TransCmp (List.compareLex compare))

instance : LawfulEqCmp sliceCmp := inferInstanceAs (LawfulEqCmp (List.compareLex compare))

instance : OrientedCmp Segment.cmp where
  eq_swap {s t} := by
    rw [Segment.cmp_eq, Segment.cmp_eq, Bool.and_comm t.isHex]
    split
    · exact @OrientedCmp.eq_swap _ sliceCmp _ _ _
    · exact @OrientedCmp.eq_swap _ keysCmp _ _ _

instance : OrientedCmp segmentsCmp := inferInstanceAs (OrientedCmp (List.compareLex Segment.cmp))

section Circle

variable {a b c : Segment}

theorem Segment.cmp_of_isHex (ha : a.isHex = true) (hb : b.isHex = true) :
    a.cmp b = sliceCmp a.bytes b.bytes := by
  rw [Segment.cmp_eq, ha, hb]
  rfl

theorem Segment.cmp_of_not_isHex (h : (a.isHex && b.isHex) = false) :
    a.cmp b = keysCmp (keys a.bytes) (keys b.bytes) := by
  rw [Segment.cmp_eq, h]
  rfl

/-- In a circle of hex identifiers all are equal. -/
theorem eq_of_isHex_circle (ha : a.isHex = true) (hb : b.isHex = true) (hc : c.isHex = true)
    (hab : (a.cmp b).isLE) (hbc : (b.cmp c).isLE) (hca : (c.cmp a).isLE) : a.cmp b = .eq := by
  rw [Segment.cmp_of_isHex ha hb] at hab ⊢
  rw [Segment.cmp_of_isHex hb hc] at hbc
  rw [Segment.cmp_of_isHex hc ha] at hca
  exact eq_of_isLE_circle hab hbc hca

/-- So are all in a circle of counters. -/
theorem eq_of_counter_circle (hab' : (a.isHex && b.isHex) = false)
    (hbc' : (b.isHex && c.isHex) = false) (hca' : (c.isHex && a.isHex) = false)
    (hab : (a.cmp b).isLE) (hbc : (b.cmp c).isLE) (hca : (c.cmp a).isLE) : a.cmp b = .eq := by
  rw [Segment.cmp_of_not_isHex hab'] at hab ⊢
  rw [Segment.cmp_of_not_isHex hbc'] at hbc
  rw [Segment.cmp_of_not_isHex hca'] at hca
  exact eq_of_isLE_circle hab hbc hca

/-- Two hex identifiers and something else in a circle: the first two differ, or all are equal. -/
theorem lt_of_mixed_circle (ha : a.isHex = true) (hb : b.isHex = true) (hc : c.isHex = false)
    (hab : (a.cmp b).isLE) (hbc : (b.cmp c).isLE) (hca : (c.cmp a).isLE)
    (hne : ¬ (a.cmp b = .eq ∧ b.cmp c = .eq ∧ c.cmp a = .eq)) : a.cmp b = .lt := by
  rcases Ordering.isLE_iff_eq_lt_or_eq_eq.mp hab with hlt | heq
  · exact hlt
  · -- equal identifiers are the same to `c`, so `c` is equal to both
    have hbytes : a.bytes = b.bytes := by
      rw [Segment.cmp_of_isHex ha hb] at heq
      exact LawfulEqCmp.eq_of_compare heq
    have hsame : b.cmp c = a.cmp c := by
      rw [Segment.cmp_of_not_isHex (by rw [hc, Bool.and_false]),
        Segment.cmp_of_not_isHex (by rw [hc, Bool.and_false]), hbytes]
    have hac : a.cmp c = .eq := OrientedCmp.isLE_antisymm (hsame ▸ hbc) hca
    exact absurd ⟨heq, hsame.trans hac, OrientedCmp.eq_comm.mp hac⟩ hne

/-- **A circle of segments** has two hex identifiers next to each other, and something else. -/
theorem mixed_of_circle (hab : (a.cmp b).isLE) (hbc : (b.cmp c).isLE) (hca : (c.cmp a).isLE)
    (hne : ¬ (a.cmp b = .eq ∧ b.cmp c = .eq ∧ c.cmp a = .eq)) :
    (a.isHex = true ∧ b.isHex = true ∧ c.isHex = false ∧ a.cmp b = .lt) ∨
    (b.isHex = true ∧ c.isHex = true ∧ a.isHex = false ∧ b.cmp c = .lt) ∨
    (c.isHex = true ∧ a.isHex = true ∧ b.isHex = false ∧ c.cmp a = .lt) := by
  have hne₁ : ¬ (b.cmp c = .eq ∧ c.cmp a = .eq ∧ a.cmp b = .eq) := fun h => hne ⟨h.2.2, h.1, h.2.1⟩
  have hne₂ : ¬ (c.cmp a = .eq ∧ a.cmp b = .eq ∧ b.cmp c = .eq) := fun h => hne ⟨h.2.1, h.2.2, h.1⟩
  have hcounters : (a.isHex && b.isHex) = false → (b.isHex && c.isHex) = false →
      (c.isHex && a.isHex) = false → False := fun h₁ h₂ h₃ =>
    hne ⟨eq_of_counter_circle h₁ h₂ h₃ hab hbc hca, eq_of_counter_circle h₂ h₃ h₁ hbc hca hab,
      eq_of_counter_circle h₃ h₁ h₂ hca hab hbc⟩
  cases ha : a.isHex with
  | true =>
    cases hb : b.isHex with
    | true =>
      cases hc : c.isHex with
      | true =>
        exact absurd ⟨eq_of_isHex_circle ha hb hc hab hbc hca,
          eq_of_isHex_circle hb hc ha hbc hca hab, eq_of_isHex_circle hc ha hb hca hab hbc⟩ hne
      | false => exact Or.inl ⟨rfl, rfl, rfl, lt_of_mixed_circle ha hb hc hab hbc hca hne⟩
    | false =>
      cases hc : c.isHex with
      | true =>
        exact Or.inr (Or.inr ⟨rfl, rfl, rfl, lt_of_mixed_circle hc ha hb hca hab hbc hne₂⟩)
      | false => exact (hcounters (by simp [hb]) (by simp [hb]) (by simp [hc])).elim
  | false =>
    cases hb : b.isHex with
    | true =>
      cases hc : c.isHex with
      | true => exact Or.inr (Or.inl ⟨rfl, rfl, rfl, lt_of_mixed_circle hb hc ha hbc hca hab hne₁⟩)
      | false => exact (hcounters (by simp [ha]) (by simp [hc]) (by simp [ha])).elim
    | false => exact (hcounters (by simp [ha]) (by simp [hb]) (by simp [ha])).elim

end Circle

/-! ## Circles of names -/

/-- What follows two segments that compare equal: the rest of the names, and at last the names. -/
def restCmp (Q R : String) (Q' R' : List Segment) : Ordering :=
  (segmentsCmp Q' R').then (sliceCmp (strBytes Q) (strBytes R))

/--
Where `P`, `Q` and `R` part, `P` and `Q` have hex identifiers, that of `P` first as written, and `R`
has something else, which as a counter is not before that of `Q` and not after that of `P`. If it is
equal to one of them, then what follows does not put it there either.
-/
def HexConflict (P Q R : String) : Prop :=
  ∃ p q r P' Q' R', Parted Segment.cmp (segments (strBytes P)) (segments (strBytes Q))
      (segments (strBytes R)) p q r P' Q' R' ∧
    p.isHex = true ∧ q.isHex = true ∧ r.isHex = false ∧ sliceCmp p.bytes q.bytes = .lt ∧
    (keysCmp (keys q.bytes) (keys r.bytes)).then (restCmp Q R Q' R') = .lt ∧
    (keysCmp (keys r.bytes) (keys p.bytes)).then (restCmp R P R' P') = .lt

/-- Three names each of which is less than the next. -/
def Circle (P Q R : String) : Prop :=
  ifaceCmp P Q = .lt ∧ ifaceCmp Q R = .lt ∧ ifaceCmp R P = .lt

theorem ifaceCmp_eq (P Q : String) : ifaceCmp P Q =
    restCmp P Q (segments (strBytes P)) (segments (strBytes Q)) := by
  rw [ifaceCmp, ifaceLoop_eq]
  rfl

/-- Where names part, the segments and what follows them decide. -/
theorem ifaceCmp_of_parted {P Q R : String} {p q r : Segment} {P' Q' R' : List Segment}
    (h : Parted Segment.cmp (segments (strBytes P)) (segments (strBytes Q)) (segments (strBytes R))
      p q r P' Q' R') : ifaceCmp P Q = (p.cmp q).then (restCmp P Q P' Q') := by
  rw [ifaceCmp_eq, restCmp, segmentsCmp, h.compareLex_eq, Ordering.then_assoc]
  rfl

theorem circle_of_hexConflict {P Q R : String} (h : HexConflict P Q R) : Circle P Q R := by
  obtain ⟨p, q, r, P', Q', R', hparted, hp, hq, hr, hpq, hqr, hrp⟩ := h
  refine ⟨?_, ?_, ?_⟩
  · rw [ifaceCmp_of_parted hparted, Segment.cmp_of_isHex hp hq, hpq]
    rfl
  · rw [ifaceCmp_of_parted hparted.rotate, Segment.cmp_of_not_isHex (by rw [hr, Bool.and_false])]
    exact hqr
  · rw [ifaceCmp_of_parted hparted.rotate.rotate,
      Segment.cmp_of_not_isHex (by rw [hr, Bool.false_and])]
    exact hrp

theorem hexConflict_of_mixed {P Q R : String} {p q r : Segment} {P' Q' R' : List Segment}
    (hcircle : Circle P Q R)
    (hparted : Parted Segment.cmp (segments (strBytes P)) (segments (strBytes Q))
      (segments (strBytes R)) p q r P' Q' R')
    (hmixed : p.isHex = true ∧ q.isHex = true ∧ r.isHex = false ∧ p.cmp q = .lt) :
    HexConflict P Q R := by
  obtain ⟨hp, hq, hr, hpq⟩ := hmixed
  refine ⟨p, q, r, P', Q', R', hparted, hp, hq, hr, ?_, ?_, ?_⟩
  · rw [← Segment.cmp_of_isHex hp hq, hpq]
  · rw [← Segment.cmp_of_not_isHex (by rw [hr, Bool.and_false]), ← ifaceCmp_of_parted hparted.rotate]
    exact hcircle.2.1
  · rw [← Segment.cmp_of_not_isHex (by rw [hr, Bool.false_and]),
      ← ifaceCmp_of_parted hparted.rotate.rotate]
    exact hcircle.2.2

/-- **Three names compare in a circle exactly if they are in conflict**, one way round
or another. -/
theorem circle_iff_hexConflict {P Q R : String} : Circle P Q R ↔
    HexConflict P Q R ∨ HexConflict Q R P ∨ HexConflict R P Q := by
  constructor
  · intro hcircle
    have hbytes : ¬ (sliceCmp (strBytes P) (strBytes Q) = .lt ∧
        sliceCmp (strBytes Q) (strBytes R) = .lt ∧ sliceCmp (strBytes R) (strBytes P) = .lt) := by
      rintro ⟨hpq, hqr, hrp⟩
      exact OrientedCmp.not_lt_of_lt (TransCmp.lt_trans hpq hqr) hrp
    -- the names go in a circle, their bytes do not, so it is their segments that do
    have hless := hcircle
    rw [Circle, ifaceCmp_eq, ifaceCmp_eq, ifaceCmp_eq] at hless
    obtain ⟨p, q, r, P', Q', R', hparted, hne⟩ :=
      @exists_parted _ Segment.cmp _ _ _ hbytes _ _ _ hless.1 hless.2.1 hless.2.2
    have hle : ∀ {o o' : Ordering}, o.then o' = .lt → o.isLE = true := by
      intro o o' h
      cases o <;> simp_all
    have hpq := hle ((ifaceCmp_of_parted hparted).symm.trans hcircle.1)
    have hqr := hle ((ifaceCmp_of_parted hparted.rotate).symm.trans hcircle.2.1)
    have hrp := hle ((ifaceCmp_of_parted hparted.rotate.rotate).symm.trans hcircle.2.2)
    rcases mixed_of_circle hpq hqr hrp hne with h | h | h
    · exact Or.inl (hexConflict_of_mixed hcircle hparted h)
    · exact Or.inr (Or.inl (hexConflict_of_mixed ⟨hcircle.2.1, hcircle.2.2, hcircle.1⟩
        hparted.rotate h))
    · exact Or.inr (Or.inr (hexConflict_of_mixed ⟨hcircle.2.2, hcircle.1, hcircle.2.1⟩
        hparted.rotate.rotate h))
  · rintro (h | h | h)
    · exact circle_of_hexConflict h
    · obtain ⟨hqr, hrp, hpq⟩ := circle_of_hexConflict h
      exact ⟨hpq, hqr, hrp⟩
    · obtain ⟨hrp, hpq, hqr⟩ := circle_of_hexConflict h
      exact ⟨hpq, hqr, hrp⟩

/-! ## A total order, or not -/

instance : OrientedCmp ifaceCmp where
  eq_swap {P Q} := by
    rw [ifaceCmp_eq, ifaceCmp_eq, restCmp, restCmp, Ordering.swap_then,
      ← @OrientedCmp.eq_swap _ segmentsCmp, ← @OrientedCmp.eq_swap _ sliceCmp]

/-- Distinct names never tie. -/
instance : LawfulEqCmp ifaceCmp where
  compare_self := ReflCmp.compare_self
  eq_of_compare {P Q} h := by
    rw [ifaceCmp, Ordering.then_eq_eq] at h
    exact strBytes_injective (LawfulEqCmp.eq_of_compare h.2)

/-- `iface_cmp` is a strict total order on the names of a list. -/
def StrictTotalOn (names : List String) : Prop :=
  ∀ P ∈ names, ∀ Q ∈ names, (ifaceCmp P Q = .eq ↔ P = Q) ∧ ifaceCmp Q P = (ifaceCmp P Q).swap ∧
    ∀ R ∈ names, ifaceCmp P Q = .lt → ifaceCmp Q R = .lt → ifaceCmp P R = .lt

/-- No three names of a list are in conflict. -/
def ConflictFree (names : List String) : Prop :=
  ∀ P ∈ names, ∀ Q ∈ names, ∀ R ∈ names, ¬ HexConflict P Q R

/-- **`iface_cmp` is a total order exactly on lists of names without a conflict.** -/
theorem strictTotalOn_iff (names : List String) : StrictTotalOn names ↔ ConflictFree names := by
  constructor
  · intro h P hP Q hQ R hR hconflict
    obtain ⟨hPQ, hQR, hRP⟩ := circle_of_hexConflict hconflict
    exact OrientedCmp.not_lt_of_lt ((h P hP Q hQ).2.2 R hR hPQ hQR) hRP
  · intro h P hP Q hQ
    refine ⟨LawfulEqCmp.compare_eq_iff_eq, OrientedCmp.eq_swap, ?_⟩
    intro R hR hPQ hQR
    cases hPR : ifaceCmp P R with
    | lt => rfl
    | eq =>
      have hPR' : P = R := LawfulEqCmp.eq_of_compare hPR
      rw [← hPR'] at hQR
      exact absurd hQR (OrientedCmp.not_lt_of_lt hPQ)
    | gt =>
      -- then the three names compare in a circle
      have hcircle : Circle P Q R := ⟨hPQ, hQR, OrientedCmp.gt_iff_lt.mp hPR⟩
      rcases circle_iff_hexConflict.mp hcircle with hc | hc | hc
      · exact absurd hc (h P hP Q hQ R hR)
      · exact absurd hc (h Q hQ R hR P hP)
      · exact absurd hc (h R hR P hP Q hQ)

/-- On the names of a total order the relation of the sort is transitive. -/
theorem ifaceLe_trans {ifaces : List NetInterface}
    (h : StrictTotalOn (ifaces.map NetInterface.name)) :
    ∀ a ∈ ifaces, ∀ b ∈ ifaces, ∀ c ∈ ifaces, ifaceLe a b → ifaceLe b c → ifaceLe a c := by
  intro a ha b hb c hc hab hbc
  have hmem : ∀ x ∈ ifaces, x.name ∈ ifaces.map NetInterface.name :=
    fun x hx => List.mem_map.mpr ⟨x, hx, rfl⟩
  rcases Ordering.isLE_iff_eq_lt_or_eq_eq.mp hab with hlt | heq
  · rcases Ordering.isLE_iff_eq_lt_or_eq_eq.mp hbc with hlt' | heq'
    · have hac := (h a.name (hmem a ha) b.name (hmem b hb)).2.2 c.name (hmem c hc) hlt hlt'
      rw [ifaceLe, hac]
      rfl
    · rw [ifaceLe, ← LawfulEqCmp.eq_of_compare heq']
      exact hab
  · rw [ifaceLe, LawfulEqCmp.eq_of_compare heq]
    exact hbc

/-- The order of the interfaces does not depend on the order of the report. -/
def ReportOrderIrrelevant (net : NetBroadcast) (reported : List OsInterface) : Prop :=
  ∀ reported' reported'' : List OsInterface, reported'.Perm reported → reported''.Perm reported →
    enumerate net reported' = enumerate net reported''

/-- The names that `enumerate` sorts. -/
def usableNames (net : NetBroadcast) (reported : List OsInterface) : List String :=
  (reported.filterMap (usable net)).map NetInterface.name

theorem enumerate_eq_of_perm {net : NetBroadcast} {reported reported' : List OsInterface}
    (hdistinct : (usableNames net reported).Nodup)
    (htotal : StrictTotalOn (usableNames net reported)) (h : reported.Perm reported') :
    enumerate net reported = enumerate net reported' := by
  refine insertionSort_eq_of_perm ifaceLe (h.filterMap (usable net)) ?_ (ifaceLe_trans htotal) ?_
  · intro a _ b _
    rw [ifaceLe, ifaceLe, @OrientedCmp.eq_swap _ ifaceCmp _ b.name]
    cases ifaceCmp a.name b.name <;> simp
  · intro a ha b hb hab hba
    have hname : a.name = b.name := LawfulEqCmp.eq_of_compare (OrientedCmp.isLE_antisymm hab hba)
    exact List.inj_on_of_nodup_map hdistinct ha hb hname

/--
**When the order of interfaces is determined**: for interfaces with distinct names the comparison is
a strict total order, and every order of the report gives the same list, exactly if no three of the
names are in conflict.
-/
theorem enumerate_deterministic_iff (net : NetBroadcast) (reported : List OsInterface)
    (hdistinct : (usableNames net reported).Nodup) :
    (StrictTotalOn (usableNames net reported) ∧ ReportOrderIrrelevant net reported) ↔
      ConflictFree (usableNames net reported) := by
  rw [← strictTotalOn_iff]
  refine ⟨fun h => h.1, fun htotal => ⟨htotal, ?_⟩⟩
  intro reported' reported'' h' h''
  rw [← enumerate_eq_of_perm hdistinct htotal h'.symm,
    ← enumerate_eq_of_perm hdistinct htotal h''.symm]

/-! ## Two reports -/

/-- An interface that is up, with one address. -/
def ethernet (name : String) : OsInterface :=
  ⟨name, 1, true, true, false, [(⟨192, 168, 1, 1⟩, 24)]⟩

/-- The broadcast address of that address. -/
def ethernetBroadcast : NetBroadcast := fun _ _ => some ⟨192, 168, 1, 255⟩

theorem enumerate_deterministic_iff_ethernet :
    (StrictTotalOn (usableNames ethernetBroadcast [ethernet "en10", ethernet "en2"]) ∧
      ReportOrderIrrelevant ethernetBroadcast [ethernet "en10", ethernet "en2"]) ↔
      ConflictFree (usableNames ethernetBroadcast [ethernet "en10", ethernet "en2"]) :=
  enumerate_deterministic_iff ethernetBroadcast _ (by decide +kernel)

/-- **Three bridges in a circle**: two with hex identifiers, and a counter between them. -/
theorem not_strictTotalOn_bridges :
    ¬ StrictTotalOn ["br-10f3c2a4b5d6", "br-9e8d7c6b5a40", "br-10"] := by
  intro h
  have hlt := (h "br-10f3c2a4b5d6" (by simp) "br-9e8d7c6b5a40" (by simp)).2.2 "br-10" (by simp)
    (by decide +kernel) (by decide +kernel)
  exact absurd hlt (by decide +kernel)

end Udap
