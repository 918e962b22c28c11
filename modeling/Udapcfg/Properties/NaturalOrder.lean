import Udapcfg.Properties.InterfaceOrder

/-!
# The natural order of interface names

What the order of names is meant to be, apart from hex identifiers: tokens between separators, and
in a token numbers between letters. Numbers are compared by their value, of any size.

* `Atom`, `naturalCmp` — the order, without cursors and runs
* `byValue_eq` — digit runs compare as the numbers they spell
* `tokenCmp_eq_atoms` — tokens compare atom by atom
* `naturalOrder` — names without hex identifiers are in natural order
-/

namespace Udap

open Infra Std

/-! ## The order -/

/-- A part of a token: a number, or a letter. -/
inductive Atom where
  | number (value : Nat)
  | letter (byte : UInt8)
deriving DecidableEq

/-- Numbers by value, letters by byte, and a number before a letter. -/
def Atom.cmp : Atom → Atom → Ordering
  | number m, number n => compare m n
  | number _, letter _ => .lt
  | letter _, number _ => .gt
  | letter a, letter b => compare a b

/-- The atoms of a token: its longest digit runs, and the letters between them. -/
def atoms : Bytes → List Atom
  | [] => []
  | b :: rest =>
    if isDigit b then
      .number (digitsValue (b :: rest.takeWhile isDigit)) :: atoms (rest.dropWhile isDigit)
    else .letter b :: atoms rest
termination_by token => token.length
decreasing_by
  · exact Nat.lt_succ_of_le (List.dropWhile_sublist _).length_le
  · exact Nat.lt_succ_self _

/-- Tokens atom by atom, with a proper prefix first; anything else by the first byte. -/
def Segment.naturalCmp : Segment → Segment → Ordering
  | token a _ _, token b _ _ => List.compareLex Atom.cmp (atoms a) (atoms b)
  | s, t => compare (s.bytes.headD 0) (t.bytes.headD 0)

/-- **The natural order**: segment by segment, with a proper prefix first, and the bytes at last. -/
def naturalCmp (left right : String) : Ordering :=
  (List.compareLex Segment.naturalCmp (segments (strBytes left)) (segments (strBytes right))).then
    (sliceCmp (strBytes left) (strBytes right))

/-- No token of the name is a hex identifier. -/
def HexFree (name : String) : Prop := ∀ s ∈ segments (strBytes name), s.isHex = false

/-! ## Digit runs -/

/-- Leading zeros do not count. -/
theorem digitsValue_stripLeadingZeros (run : Bytes) :
    digitsValue (stripLeadingZeros run) = digitsValue run := by
  fun_induction stripLeadingZeros run with
  | case1 c rest ih =>
    rw [ih, digitsValue_cons 0x30]
    show _ = (48 - 48) * _ + _
    rw [Nat.sub_self, Nat.zero_mul, Nat.zero_add]
  | case2 b c rest hb => rfl
  | case3 run h => rfl

theorem all_stripLeadingZeros {run : Bytes} (h : run.all isDigit = true) :
    (stripLeadingZeros run).all isDigit = true := by
  fun_induction stripLeadingZeros run with
  | case1 c rest ih =>
    rw [List.all_cons, Bool.and_eq_true] at h
    exact ih h.2
  | case2 b c rest hb => exact h
  | case3 run h' => exact h

/-- What is left begins with a zero only if it is one digit at most. -/
theorem head_stripLeadingZeros (run : Bytes) :
    (stripLeadingZeros run).length ≤ 1 ∨ (stripLeadingZeros run).head? ≠ some 0x30 := by
  fun_induction stripLeadingZeros run with
  | case1 c rest ih => exact ih
  | case2 b c rest hb =>
    refine Or.inr ?_
    rw [List.head?_cons, ne_eq, Option.some.injEq]
    exact hb
  | case3 run h =>
    refine Or.inl ?_
    rcases run with _ | ⟨b, _ | ⟨c, rest⟩⟩
    · exact Nat.zero_le 1
    · exact Nat.le_refl 1
    · exact (h b c rest rfl).elim

theorem stripLeadingZeros_ne_nil {run : Bytes} (h : run ≠ []) : stripLeadingZeros run ≠ [] := by
  fun_induction stripLeadingZeros run with
  | case1 c rest ih => exact ih (List.cons_ne_nil _ _)
  | case2 b c rest hb => exact h
  | case3 run h' => exact h

/-- The longer of two stripped runs is the larger number. -/
theorem digitsValue_lt_of_length_lt {x y : Bytes} (hx : x.all isDigit = true)
    (hy : y.all isDigit = true) (hne : x ≠ []) (hzero : y.length ≤ 1 ∨ y.head? ≠ some 0x30)
    (hlt : x.length < y.length) : digitsValue x < digitsValue y := by
  have hpos : 0 < x.length := List.length_pos_iff.mpr hne
  obtain ⟨d, rest, rfl⟩ := List.exists_cons_of_length_pos (Nat.lt_trans hpos hlt)
  have hhead : d ≠ 0x30 := by
    rintro rfl
    rcases hzero with hshort | hhead
    · omega
    · exact hhead rfl
  have hdigit : 48 < d.toNat := by
    rw [List.all_cons, Bool.and_eq_true, isDigit_iff] at hy
    have hne48 : d.toNat ≠ 48 := fun h => hhead (UInt8.toNat_inj.mp h)
    omega
  calc digitsValue x < 10 ^ x.length := digitsValue_lt hx
    _ ≤ 10 ^ rest.length := Nat.pow_le_pow_right (by decide) (Nat.le_of_lt_succ hlt)
    _ ≤ digitsValue (d :: rest) := le_digitsValue hdigit rest

/-- **Digit runs compare as the numbers they spell**, whatever their zeros and their length. -/
theorem byValue_eq {left right : Bytes} (hleft : left.all isDigit = true)
    (hright : right.all isDigit = true) (hl : left ≠ []) (hr : right ≠ []) :
    byValue left right = compare (digitsValue left) (digitsValue right) := by
  have hx := all_stripLeadingZeros hleft
  have hy := all_stripLeadingZeros hright
  rw [byValue, ← digitsValue_stripLeadingZeros left, ← digitsValue_stripLeadingZeros right]
  rcases Nat.lt_trichotomy (stripLeadingZeros left).length (stripLeadingZeros right).length with
    hlt | heq | hgt
  · have hvalue := digitsValue_lt_of_length_lt hx hy (stripLeadingZeros_ne_nil hl)
      (head_stripLeadingZeros right) hlt
    rw [Nat.compare_eq_lt.mpr hlt, Nat.compare_eq_lt.mpr hvalue]
    rfl
  · rw [Nat.compare_eq_eq.mpr heq, compare_digitsValue heq hx hy, sliceCmp_eq_map_toNat]
    rfl
  · have hvalue := digitsValue_lt_of_length_lt hy hx (stripLeadingZeros_ne_nil hr)
      (head_stripLeadingZeros left) hgt
    rw [Nat.compare_eq_gt.mpr hgt, Nat.compare_eq_gt.mpr hvalue]
    rfl

/-! ## Tokens -/

/-- How lists of atoms compare. -/
def atomsCmp : List Atom → List Atom → Ordering := List.compareLex Atom.cmp

theorem atoms_nil : atoms [] = [] := by rw [atoms]

theorem atoms_cons_ne_nil (b : UInt8) (rest : Bytes) : atoms (b :: rest) ≠ [] := by
  unfold atoms
  split <;> simp

/-- The first atoms compare as the first runs do, if both are digits. -/
theorem atomsCmp_digits {l r : UInt8} (hl : isDigit l = true) (hr : isDigit r = true)
    (left right : Bytes) : atomsCmp (atoms (l :: left)) (atoms (r :: right))
      = (byValue (l :: left.takeWhile isDigit) (r :: right.takeWhile isDigit)).then
        (atomsCmp (atoms (left.dropWhile isDigit)) (atoms (right.dropWhile isDigit))) := by
  have hrun : ∀ (b : UInt8) (rest : Bytes), isDigit b = true →
      (b :: rest.takeWhile isDigit).all isDigit = true := by
    intro b rest hb
    rw [List.all_cons, hb, List.all_takeWhile]
    rfl
  rw [atoms, atoms, if_pos hl, if_pos hr, atomsCmp, List.compareLex_cons_cons,
    byValue_eq (hrun l left hl) (hrun r right hr) (List.cons_ne_nil _ _) (List.cons_ne_nil _ _)]
  rfl

/-- A digit is before a letter. -/
theorem compare_digit_letter {l r : UInt8} (hl : isDigit l = true) (hr : isDigit r = false)
    (halnum : isAlphanumeric r = true) : compare l r = .lt := by
  have hletter : 0x41 ≤ r.toNat := by
    simp only [isAlphanumeric, hr, Bool.false_or, isAlphabetic, Bool.or_eq_true, Bool.and_eq_true,
      decide_eq_true_eq, UInt8.le_iff_toNat_le] at halnum
    rcases halnum with ⟨hlow, _⟩ | ⟨hlow, _⟩
    · exact hlow
    · exact Nat.le_trans (show 0x41 ≤ 0x61 by decide) hlow
  rw [isDigit_iff] at hl
  rw [← compare_toNat, Nat.compare_eq_lt]
  omega

/-- The first atoms compare as the first bytes do, unless both are digits. -/
theorem atomsCmp_cons {l r : UInt8} (h : (isDigit l && isDigit r) = false)
    (hl : isAlphanumeric l = true) (hr : isAlphanumeric r = true) (left right : Bytes) :
    atomsCmp (atoms (l :: left)) (atoms (r :: right))
      = (compare l r).then (atomsCmp (atoms left) (atoms right)) := by
  rw [atoms, atoms, atomsCmp]
  cases hdl : isDigit l with
  | true =>
    have hdr : isDigit r = false := by simpa [hdl] using h
    rw [hdr, compare_digit_letter hdl hdr hr]
    rfl
  | false =>
    cases hdr : isDigit r with
    | true =>
      have hgt : compare l r = .gt := OrientedCmp.gt_iff_lt.mpr (compare_digit_letter hdr hdl hl)
      rw [hgt]
      rfl
    | false =>
      rw [if_neg Bool.false_ne_true, if_neg Bool.false_ne_true, List.compareLex_cons_cons]
      rfl

/-- **Tokens compare atom by atom.** -/
theorem tokenCmp_eq_atoms (left right : Bytes) (hleft : ∀ b ∈ left, isAlphanumeric b = true)
    (hright : ∀ b ∈ right, isAlphanumeric b = true) :
    tokenCmp left right = atomsCmp (atoms left) (atoms right) := by
  fun_induction tokenCmp left right with
  | case1 l left r right hdigits ordering hne =>
    rw [Bool.and_eq_true] at hdigits
    rw [atomsCmp_digits hdigits.1 hdigits.2, ne_eq_then hne]
  | case2 l left r right hdigits ordering heq ih =>
    rw [Bool.and_eq_true] at hdigits
    rw [atomsCmp_digits hdigits.1 hdigits.2, show byValue _ _ = .eq from of_not_not heq,
      Ordering.eq_then]
    refine ih (fun b hb => hleft b ?_) (fun b hb => hright b ?_)
    · exact List.mem_cons_of_mem _ ((List.dropWhile_sublist _).subset hb)
    · exact List.mem_cons_of_mem _ ((List.dropWhile_sublist _).subset hb)
  | case3 l left r right hdigits byByte hne =>
    rw [atomsCmp_cons (Bool.eq_false_of_not_eq_true hdigits) (hleft l List.mem_cons_self)
      (hright r List.mem_cons_self), ne_eq_then hne]
  | case4 l left r right hdigits byByte heq ih =>
    rw [atomsCmp_cons (Bool.eq_false_of_not_eq_true hdigits) (hleft l List.mem_cons_self)
      (hright r List.mem_cons_self), show compare l r = .eq from of_not_not heq, Ordering.eq_then]
    exact ih (fun b hb => hleft b (List.mem_cons_of_mem _ hb))
      (fun b hb => hright b (List.mem_cons_of_mem _ hb))
  | case5 left right hend =>
    exact (compareLex_end atoms_nil atoms_cons_ne_nil (ends_of_not_cons hend)).symm

/-! ## Names -/

/-- Segments that are no hex identifiers are in natural order. -/
theorem Segment.cmp_eq_naturalCmp {s t : Segment} (hs : s.isHex = false) :
    s.cmp t = s.naturalCmp t := by
  cases s with
  | token a ha hletters =>
    cases t with
    | token b hb hletters' =>
      have hhex : isHexIdentifier a = false := hs
      rw [Segment.cmp, tokenOrdering, hhex, Bool.false_and, if_neg Bool.false_ne_true,
        tokenCmp_eq_atoms a b hletters hletters']
      rfl
    | separator y hy => rfl
  | separator x hx => rfl

/-- Names whose order is the natural one, in which it is total. -/
structure NaturallyOrdered (names : List String) : Prop where
  natural : ∀ P ∈ names, ∀ Q ∈ names, ifaceCmp P Q = naturalCmp P Q
  total : StrictTotalOn names

/-- **Names without hex identifiers** are in natural order, which is a strict total order. -/
theorem naturalOrder (names : List String) (h : ∀ name ∈ names, HexFree name) :
    NaturallyOrdered names where
  natural P hP Q _ := by
    rw [ifaceCmp, ifaceLoop_eq, naturalCmp, segmentsCmp,
      compareLex_congr fun s hs t => Segment.cmp_eq_naturalCmp (h P hP s hs)]
  total := by
    rw [strictTotalOn_iff]
    rintro P hP Q _ R _ ⟨p, q, r, P', Q', R', hparted, hhex, _⟩
    -- a conflict begins with a hex identifier
    rw [h P hP p hparted.mem_left] at hhex
    cases hhex

/-- Leading zeros, runs wider than any machine integer, and bytes that are no letters. -/
theorem naturalOrder_mixed : NaturallyOrdered ["en10", "en007", "en7", "eth0.99", "é1"] :=
  naturalOrder ["en10", "en007", "en7", "eth0.99", "é1"] (by unfold HexFree; decide +kernel)

end Udap
