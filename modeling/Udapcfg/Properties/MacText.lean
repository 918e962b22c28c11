import Udapcfg.Infra.Ascii
import Udapcfg.Infra.Template
import Udapcfg.Udap.Mac

/-!
# The text form of a MAC

`from_str` reads group by group, and within a group the digits before the colon, so that it comes
upon a wrong byte in the order of the text.

* `macText` — six groups of two hex digits, with colons between them
* `fromStrLoop_succ`, `fromStrLoop_eq` — one group, and all that are left
* `macGrammar` — what is accepted, what it is displayed as, and what is reported
-/

namespace Udap

open Infra

/-! ## The grammar -/

/-- An ASCII hex digit, of either case. -/
def IsHexDigit (b : UInt8) : Prop :=
  (0x30 ≤ b ∧ b ≤ 0x39) ∨ (0x41 ≤ b ∧ b ≤ 0x46) ∨ (0x61 ≤ b ∧ b ≤ 0x66)

instance (b : UInt8) : Decidable (IsHexDigit b) := inferInstanceAs (Decidable (_ ∨ _ ∨ _))

/-- Groups of two bytes, with colons between them. -/
def joinGroups (groups : List (UInt8 × UInt8)) : Bytes :=
  [0x3A].intercalate (groups.map fun g => [g.1, g.2])

/-- Six groups of two hex digits, with colons between them. -/
def macText : Set Bytes :=
  {v | ∃ groups, groups.length = Mac.macLen ∧ (∀ g ∈ groups, IsHexDigit g.1 ∧ IsHexDigit g.2) ∧
    v = joinGroups groups}

/-- What may stand at a position: a colon at every third one, a digit elsewhere. -/
def InPlace (pos : Nat) (b : UInt8) : Prop := if pos % 3 = 2 then b = 0x3A else IsHexDigit b

instance (pos : Nat) (b : UInt8) : Decidable (InPlace pos b) :=
  inferInstanceAs (Decidable (if pos % 3 = 2 then b = 0x3A else IsHexDigit b))

theorem inPlace_add_three : (fun pos => InPlace (pos + 3)) = InPlace := by
  funext pos b
  rw [InPlace, InPlace, Nat.add_mod_right]

theorem joinGroups_cons_cons (g g' : UInt8 × UInt8) (groups : List (UInt8 × UInt8)) :
    joinGroups (g :: g' :: groups) = g.1 :: g.2 :: 0x3A :: joinGroups (g' :: groups) := by
  rw [joinGroups, List.map_cons, List.map_cons, List.intercalate_cons_cons]
  rfl

/-- What holds of the digits and of colons holds of the whole text. -/
theorem forall_mem_joinGroups {P : UInt8 → Prop} {groups : List (UInt8 × UInt8)} (hcolon : P 0x3A)
    (hdigits : ∀ g ∈ groups, P g.1 ∧ P g.2) : ∀ b ∈ joinGroups groups, P b := by
  induction groups with
  | nil =>
    intro b hb
    cases hb
  | cons g groups ih =>
    obtain ⟨hfirst, hrest⟩ := List.forall_mem_cons.mp hdigits
    cases groups with
    | nil => exact List.forall_mem_cons.mpr ⟨hfirst.1, List.forall_mem_singleton.mpr hfirst.2⟩
    | cons g' groups =>
      rw [joinGroups_cons_cons]
      exact List.forall_mem_cons.mpr ⟨hfirst.1, List.forall_mem_cons.mpr
        ⟨hfirst.2, List.forall_mem_cons.mpr ⟨hcolon, ih hrest⟩⟩⟩

/-- What is in place, position by position, is a list of groups. -/
theorem mem_template_iff {n : Nat} {v : Bytes} : v ∈ template (3 * n + 2) InPlace ↔
    ∃ groups, groups.length = n + 1 ∧ (∀ g ∈ groups, IsHexDigit g.1 ∧ IsHexDigit g.2) ∧
      v = joinGroups groups := by
  have hdigits : ∀ {a b : UInt8} {w : Bytes} {m : Nat}, a :: b :: w ∈ template (m + 2) InPlace ↔
      (IsHexDigit a ∧ IsHexDigit b) ∧ w ∈ template m fun i => InPlace (i + 2) := by
    intro a b w m
    rw [mem_template_cons, mem_template_cons, and_assoc]
    rfl
  have hcolon : ∀ {c : UInt8} {w : Bytes} {m : Nat},
      (c :: w ∈ template (m + 1) fun i => InPlace (i + 2)) ↔ c = 0x3A ∧ w ∈ template m InPlace := by
    intro c w m
    rw [mem_template_cons]
    simp only [Nat.add_assoc, Nat.reduceAdd, inPlace_add_three]
    rfl
  induction n generalizing v with
  | zero =>
    constructor
    · intro hv
      obtain ⟨a, b, rfl⟩ := List.length_eq_two.mp hv.1
      exact ⟨[(a, b)], rfl, by simpa using (hdigits.mp hv).1, rfl⟩
    · rintro ⟨groups, hlen, hhex, rfl⟩
      obtain ⟨g, rfl⟩ := List.length_eq_one_iff.mp hlen
      exact hdigits.mpr ⟨hhex g List.mem_cons_self, rfl, fun i a ha => by cases ha⟩
  | succ n ih =>
    constructor
    · intro hv
      obtain ⟨a, b, c, rest, rfl⟩ : ∃ a b c rest, v = a :: b :: c :: rest := by
        match v, hv.1 with
        | a :: b :: c :: rest, _ => exact ⟨a, b, c, rest, rfl⟩
      obtain ⟨hfirst, htail⟩ := hdigits.mp hv
      obtain ⟨rfl, hrest⟩ := hcolon.mp htail
      obtain ⟨groups, hlen, hhex, rfl⟩ := ih.mp hrest
      obtain ⟨g, groups, rfl⟩ := List.exists_cons_of_length_eq_add_one hlen
      refine ⟨(a, b) :: g :: groups, congrArg Nat.succ hlen, ?_, ?_⟩
      · exact List.forall_mem_cons.mpr ⟨hfirst, hhex⟩
      · rw [joinGroups_cons_cons]
    · rintro ⟨groups, hlen, hhex, rfl⟩
      obtain ⟨g, g', groups, rfl⟩ : ∃ g g' rest, groups = g :: g' :: rest := by
        match groups, hlen with
        | g :: g' :: rest, _ => exact ⟨g, g', rest, rfl⟩
      obtain ⟨hfirst, hhex⟩ := List.forall_mem_cons.mp hhex
      rw [joinGroups_cons_cons]
      exact hdigits.mpr ⟨hfirst, hcolon.mpr ⟨rfl, ih.mpr ⟨_, Nat.succ.inj hlen, hhex, rfl⟩⟩⟩

theorem macText_eq_template : macText = template Mac.macStrLen InPlace :=
  Set.ext fun _ => mem_template_iff.symm

theorem length_of_mem_macText {v : Bytes} (h : v ∈ macText) : v.length = Mac.macStrLen := by
  rw [macText_eq_template] at h
  exact h.1

/-- A letter that is in place, wherever. -/
theorem inPlace_fill (pos : Nat) : InPlace pos (if pos % 3 = 2 then 0x3A else 0x30) := by
  unfold InPlace
  split
  · rfl
  · decide

/-! ## Digits -/

theorem hexNibble_eq_none_iff (b : UInt8) : hexNibble b = none ↔ ¬ IsHexDigit b :=
  byte_forall (P := fun b => hexNibble b = none ↔ ¬ IsHexDigit b) (by decide +kernel) b

/-- The digit of a nibble is the one that was read, in lower case. -/
theorem hexNibble_of_isHexDigit {b : UInt8} (h : IsHexDigit b) :
    ∃ n < 16, hexNibble b = some (UInt8.ofNat n) ∧ hexDigit n = (asciiChar b).toLower :=
  byte_forall (P := fun b => IsHexDigit b → ∃ n < 16, hexNibble b = some (UInt8.ofNat n) ∧
    hexDigit n = (asciiChar b).toLower) (by decide +kernel) b h

/-- The byte of a group. -/
def pairByte (g : UInt8 × UInt8) : UInt8 :=
  (hexNibble g.1).getD 0 <<< 4 ||| (hexNibble g.2).getD 0

theorem nibbles_eq : ∀ hi < 16, ∀ lo < 16,
    UInt8.ofNat hi <<< 4 ||| UInt8.ofNat lo = UInt8.ofNat (16 * hi + lo) := by decide +kernel

theorem hexByte_pairByte {g : UInt8 × UInt8} (h : IsHexDigit g.1 ∧ IsHexDigit g.2) :
    hexByte (pairByte g) = [(asciiChar g.1).toLower, (asciiChar g.2).toLower] := by
  obtain ⟨hi, hhi, hread, hlower⟩ := hexNibble_of_isHexDigit h.1
  obtain ⟨lo, hlo, hread', hlower'⟩ := hexNibble_of_isHexDigit h.2
  have hbyte : (pairByte g).toNat = 16 * hi + lo := by
    rw [pairByte, hread, hread', Option.getD_some, Option.getD_some, nibbles_eq hi hhi lo hlo,
      UInt8.toNat_ofNat']
    omega
  rw [hexByte, hbyte, show (16 * hi + lo) / 16 = hi by omega, show (16 * hi + lo) % 16 = lo by omega,
    hlower, hlower']

/-! ## The loop -/

/-- The first byte that is out of place, of `len` bytes from `pos` on. -/
def misfit? (v : Bytes) (pos len : Nat) : Option Nat :=
  (List.range' pos len).find? fun i => !decide (InPlace i (v.getD i 0))

theorem misfit?_succ (v : Bytes) (pos len : Nat) : misfit? v pos (len + 1)
    = if InPlace pos (v.getD pos 0) then misfit? v (pos + 1) len else some pos := by
  rw [misfit?, List.range'_succ, List.find?_cons]
  by_cases h : InPlace pos (v.getD pos 0)
  · rw [if_pos h, decide_eq_true h]
    rfl
  · rw [if_neg h, decide_eq_false h]
    rfl

theorem misfit?_add (v : Bytes) (pos len len' : Nat) :
    misfit? v pos (len + len') = (misfit? v pos len).or (misfit? v (pos + len) len') := by
  rw [misfit?, ← List.range'_append_1, List.find?_append]
  rfl

/-- The error for a position: that what it calls for is not there. -/
def misplaced (s : String) (pos : Nat) : MacParseError :=
  if pos % 3 = 2 then .missingColon s pos else .nonHex s pos

/-- The digits of the group with number `i`. -/
def groupAt (v : Bytes) (i : Nat) : UInt8 × UInt8 := (v.getD (i * 3) 0, v.getD (i * 3 + 1) 0)

theorem inPlace_iff_of_digit {pos : Nat} (h : pos % 3 ≠ 2) (b : UInt8) :
    InPlace pos b ↔ hexNibble b ≠ none := by
  rw [InPlace, if_neg h, ne_eq, hexNibble_eq_none_iff, not_not]

namespace Mac

variable (s : String) (v : Bytes)

/-- A colon is called for after every group but the last. -/
theorem misfit?_colon (i : Nat) : misfit? v (i * 3 + 1 + 1) (if i < macLen - 1 then 1 else 0)
    = if i < macLen - 1 ∧ v.getD (i * 3 + 2) 0 ≠ 0x3A then some (i * 3 + 2) else none := by
  have hcolon : InPlace (i * 3 + 2) (v.getD (i * 3 + 2) 0) ↔ v.getD (i * 3 + 2) 0 = 0x3A := by
    rw [InPlace, if_pos (by omega)]
  by_cases hmore : i < macLen - 1
  · rw [if_pos hmore, misfit?_succ]
    by_cases hbyte : v.getD (i * 3 + 2) 0 = 0x3A
    · rw [if_pos (hcolon.mpr hbyte), if_neg fun h => h.2 hbyte]
      rfl
    · rw [if_neg (mt hcolon.mp hbyte), if_pos ⟨hmore, hbyte⟩]
  · rw [if_neg hmore, if_neg fun h => hmore h.1]
    rfl

/-- **One group**: its bytes are looked at in the order they stand in. -/
theorem fromStrLoop_succ (n i : Nat) : (fromStrLoop s v (n + 1) i).map List.Vector.toList
    = match misfit? v (i * 3) ((if i < macLen - 1 then 1 else 0) + 2) with
      | some pos => .error (misplaced s pos)
      | none => ((fromStrLoop s v n (i + 1)).map List.Vector.toList).map
          (pairByte (groupAt v i) :: ·) := by
  have hbase : i * 3 % 3 ≠ 2 := by omega
  have hnext : (i * 3 + 1) % 3 ≠ 2 := by omega
  have hlast : (i * 3 + 2) % 3 = 2 := by omega
  rw [fromStrLoop, misfit?_succ, misfit?_succ, misfit?_colon]
  cases hhi : hexNibble (v.getD (i * 3) 0) with
  | none =>
    rw [if_neg fun h => (inPlace_iff_of_digit hbase _).mp h hhi]
    show Except.error (.nonHex s (i * 3)) = Except.error (misplaced s (i * 3))
    rw [misplaced, if_neg hbase]
  | some hi =>
    rw [if_pos ((inPlace_iff_of_digit hbase _).mpr (by rw [hhi]; simp))]
    cases hlo : hexNibble (v.getD (i * 3 + 1) 0) with
    | none =>
      rw [if_neg fun h => (inPlace_iff_of_digit hnext _).mp h hlo]
      show Except.error (.nonHex s (i * 3 + 1)) = Except.error (misplaced s (i * 3 + 1))
      rw [misplaced, if_neg hnext]
    | some lo =>
      rw [if_pos ((inPlace_iff_of_digit hnext _).mpr (by rw [hlo]; simp))]
      have hpair : pairByte (groupAt v i) = hi <<< 4 ||| lo := by
        rw [pairByte, groupAt, hhi, hlo]
        rfl
      simp only
      by_cases hcolon : i < macLen - 1 ∧ v.getD (i * 3 + 2) 0 ≠ 0x3A
      · rw [if_pos hcolon, if_pos hcolon]
        show Except.error (.missingColon s (i * 3 + 2)) = Except.error (misplaced s (i * 3 + 2))
        rw [misplaced, if_pos hlast]
      · rw [if_neg hcolon, if_neg hcolon, hpair]
        cases fromStrLoop s v n (i + 1) with
        | error e => rfl
        | ok rest => exact congrArg Except.ok (List.Vector.toList_cons _ rest)

/-- **All that are left**: the first byte out of place is what is reported. -/
theorem fromStrLoop_eq (n i : Nat) (hi : i + (n + 1) = macLen) :
    (fromStrLoop s v (n + 1) i).map List.Vector.toList
      = match misfit? v (i * 3) (3 * n + 2) with
        | some pos => .error (misplaced s pos)
        | none => .ok ((List.range' i (n + 1)).map fun i => pairByte (groupAt v i)) := by
  induction n generalizing i with
  | zero =>
    rw [fromStrLoop_succ, if_neg (by omega)]
    rfl
  | succ n ih =>
    have hlt : i < macLen - 1 := by omega
    have hmisfit : misfit? v (i * 3) (3 * (n + 1) + 2)
        = (misfit? v (i * 3) (1 + 2)).or (misfit? v ((i + 1) * 3) (3 * n + 2)) := by
      rw [show 3 * (n + 1) + 2 = 1 + 2 + (3 * n + 2) by omega, misfit?_add,
        show i * 3 + (1 + 2) = (i + 1) * 3 by omega]
    rw [fromStrLoop_succ, if_pos hlt, ih (i + 1) (by omega), hmisfit]
    cases misfit? v (i * 3) (1 + 2) with
    | some pos => rfl
    | none =>
      rw [Option.none_or]
      cases misfit? v ((i + 1) * 3) (3 * n + 2) with
      | some pos => rfl
      | none =>
        rw [List.range'_succ]
        rfl

/-! ## Texts of the right length -/

variable {s v}

/-- The bytes of a MAC, or the error for the first byte out of place. -/
theorem fromStr_eq (hlen : (strBytes s).length = macStrLen) :
    (fromStr s).map (fun m => m.bytes.toList)
      = match misfit? (strBytes s) 0 macStrLen with
        | some pos => .error (misplaced s pos)
        | none => .ok ((List.range macLen).map fun i => pairByte (groupAt (strBytes s) i)) := by
  rw [List.range_eq_range']
  refine Eq.trans ?_ (fromStrLoop_eq s (strBytes s) 5 0 rfl)
  show _ = (fromStrLoop s (strBytes s) macLen 0).map List.Vector.toList
  rw [fromStr]
  simp only [if_neg (not_not.mpr hlen)]
  cases fromStrLoop s (strBytes s) macLen 0 with
  | error e => rfl
  | ok out => rfl

theorem getD_of_getElem? {i : Nat} {b : UInt8} (h : v[i]? = some b) : v.getD i 0 = b := by
  rw [List.getD_eq_getElem?_getD, h, Option.getD_some]

theorem getElem?_eq_getD {i : Nat} (h : i < v.length) : v[i]? = some (v.getD i 0) := by
  rw [List.getD_eq_getElem?_getD, List.getElem?_eq_getElem h, Option.getD_some]

/-- **The first byte out of place** is where the text departs from the grammar. -/
theorem misfit?_eq_some_iff (hlen : v.length = macStrLen) {pos : Nat} :
    misfit? v 0 macStrLen = some pos ↔ DepartsAt macText v pos := by
  rw [macText_eq_template, departsAt_template_iff inPlace_fill hlen, misfit?,
    List.find?_range'_eq_some]
  simp only [Bool.not_eq_true', decide_eq_false_iff_not, Bool.not_not, decide_eq_true_eq,
    List.mem_range'_1, Nat.zero_le, true_and, true_imp_iff, Nat.zero_add]
  constructor
  · rintro ⟨hout, hlt, hbefore⟩
    refine ⟨⟨_, getElem?_eq_getD (hlen.symm ▸ hlt), hout⟩, fun i hi b hb => ?_⟩
    rw [← getD_of_getElem? hb]
    exact hbefore i hi
  · rintro ⟨⟨b, hb, hout⟩, hbefore⟩
    have hlt : pos < v.length := (List.getElem?_eq_some_iff.mp hb).1
    refine ⟨by rwa [getD_of_getElem? hb], hlen ▸ hlt, fun i hi => ?_⟩
    exact hbefore i hi _ (getElem?_eq_getD (Nat.lt_trans hi hlt))

/-- Nothing is out of place in a text of the grammar, and only there. -/
theorem misfit?_eq_none_iff (hlen : v.length = macStrLen) :
    misfit? v 0 macStrLen = none ↔ v ∈ macText := by
  rw [macText_eq_template, misfit?, List.find?_eq_none]
  simp only [List.mem_range'_1, Nat.zero_le, true_and, Nat.zero_add, Bool.not_eq_true',
    decide_eq_false_iff_not, not_not]
  constructor
  · intro hall
    refine ⟨hlen, fun i b hb => ?_⟩
    rw [← getD_of_getElem? hb]
    exact hall i (hlen ▸ (List.getElem?_eq_some_iff.mp hb).1)
  · intro hv i hi
    exact hv.2 i _ (getElem?_eq_getD (hlen.symm ▸ hi))

/-! ## Display -/

theorem groupAt_joinGroups {groups : List (UInt8 × UInt8)} (h : groups.length = macLen) :
    (List.range macLen).map (fun i => pairByte (groupAt (joinGroups groups) i))
      = groups.map pairByte := by
  obtain ⟨a, b, c, d, e, f, rfl⟩ := exists_of_length_six h
  rfl

/-- A MAC is displayed group by group. -/
theorem format_eq {m : Mac} {groups : List (UInt8 × UInt8)} (hlen : groups.length = macLen)
    (hhex : ∀ g ∈ groups, IsHexDigit g.1 ∧ IsHexDigit g.2)
    (hbytes : m.bytes.toList = groups.map pairByte) :
    m.format = String.ofList ((joinGroups groups).map fun b => (asciiChar b).toLower) := by
  obtain ⟨a, b, c, d, e, f, rfl⟩ := exists_of_length_six hlen
  simp only [List.forall_mem_cons] at hhex
  obtain ⟨ha, hb, hc, hd, he, hf, -⟩ := hhex
  have hcolon : (asciiChar 0x3A).toLower = ':' := by decide
  rw [format, hbytes]
  simp [joinGroups, hexByte_pairByte, ha, hb, hc, hd, he, hf, hcolon]

/-- **What is accepted**: the bytes are those of the groups. -/
theorem exists_groups_of_fromStr {s : String} {m : Mac} (h : fromStr s = .ok m) :
    ∃ groups, groups.length = macLen ∧ (∀ g ∈ groups, IsHexDigit g.1 ∧ IsHexDigit g.2) ∧
      strBytes s = joinGroups groups ∧ m.bytes.toList = groups.map pairByte := by
  have hlen : (strBytes s).length = macStrLen := by
    by_contra hlen
    rw [fromStr] at h
    simp only [if_pos hlen] at h
    cases h
  have heq := fromStr_eq hlen
  rw [h] at heq
  cases hmisfit : misfit? (strBytes s) 0 macStrLen with
  | some pos =>
    rw [hmisfit] at heq
    cases heq
  | none =>
    obtain ⟨groups, hgroups, hhex, hbytes⟩ := (misfit?_eq_none_iff hlen).mp hmisfit
    rw [hmisfit, hbytes] at heq
    exact ⟨groups, hgroups, hhex, hbytes,
      (Except.ok.inj heq).trans (groupAt_joinGroups hgroups)⟩

theorem fromStr_of_groups {s : String} {groups : List (UInt8 × UInt8)}
    (hlen : groups.length = macLen) (hhex : ∀ g ∈ groups, IsHexDigit g.1 ∧ IsHexDigit g.2)
    (hbytes : strBytes s = joinGroups groups) :
    ∃ m, fromStr s = .ok m ∧ m.bytes.toList = groups.map pairByte := by
  have hmem : strBytes s ∈ macText := ⟨groups, hlen, hhex, hbytes⟩
  have hlength := length_of_mem_macText hmem
  have heq := fromStr_eq hlength
  rw [(misfit?_eq_none_iff hlength).mpr hmem, hbytes, groupAt_joinGroups hlen] at heq
  cases hm : fromStr s with
  | error e =>
    rw [hm] at heq
    cases heq
  | ok m =>
    rw [hm] at heq
    exact ⟨m, rfl, Except.ok.inj heq⟩

/-- A text of the grammar is ASCII. -/
theorem lt_of_mem_joinGroups {groups : List (UInt8 × UInt8)}
    (hhex : ∀ g ∈ groups, IsHexDigit g.1 ∧ IsHexDigit g.2) : ∀ b ∈ joinGroups groups, b < 0x80 := by
  have hascii : ∀ b, IsHexDigit b → b < 0x80 :=
    byte_forall (P := fun b => IsHexDigit b → b < 0x80) (by decide +kernel)
  exact forall_mem_joinGroups (by decide) fun g hg =>
    ⟨hascii _ (hhex g hg).1, hascii _ (hhex g hg).2⟩

/-- **Displayed in lower case.** -/
theorem format_of_fromStr {s : String} {m : Mac} (h : fromStr s = .ok m) : m.format = s.toLower := by
  obtain ⟨groups, hlen, hhex, hbytes, hm⟩ := exists_groups_of_fromStr h
  have hlower : s.toLower.toList = (joinGroups groups).map fun b => (asciiChar b).toLower := by
    have hascii := lt_of_mem_joinGroups hhex
    rw [← hbytes] at hascii
    show (s.map Char.toLower).toList = _
    rw [eq_asciiText hascii, hbytes, asciiText, String.toList_map, String.toList_ofList,
      List.map_map]
    rfl
  rw [format_eq hlen hhex hm, ← hlower, String.ofList_toList]

/-- The digits of a byte, in lower case. -/
def digitsOf (b : UInt8) : UInt8 × UInt8 :=
  (asciiByte (hexDigit (b.toNat / 16)), asciiByte (hexDigit (b.toNat % 16)))

theorem hexDigit_spec : ∀ n < 16, IsHexDigit (asciiByte (hexDigit n)) ∧
    hexNibble (asciiByte (hexDigit n)) = some (UInt8.ofNat n) ∧
    (asciiChar (asciiByte (hexDigit n))).toLower = asciiChar (asciiByte (hexDigit n)) := by
  decide +kernel

theorem pairByte_digitsOf (b : UInt8) : pairByte (digitsOf b) = b := by
  have hb : b.toNat < 256 := b.toNat_lt
  have hhi : b.toNat / 16 < 16 := by omega
  have hlo : b.toNat % 16 < 16 := by omega
  rw [pairByte, digitsOf, (hexDigit_spec _ hhi).2.1, (hexDigit_spec _ hlo).2.1, Option.getD_some,
    Option.getD_some, nibbles_eq _ hhi _ hlo, Nat.div_add_mod]
  exact UInt8.ofNat_toNat

/-- **What is displayed is parsed back.** -/
theorem fromStr_format (m : Mac) : fromStr m.format = .ok m := by
  have hlen : (m.bytes.toList.map digitsOf).length = macLen := by
    rw [List.length_map]
    exact m.bytes.toList_length
  have hspec : ∀ g ∈ m.bytes.toList.map digitsOf, (IsHexDigit g.1 ∧ IsHexDigit g.2) ∧
      (asciiChar g.1).toLower = asciiChar g.1 ∧ (asciiChar g.2).toLower = asciiChar g.2 := by
    intro g hg
    obtain ⟨b, _, rfl⟩ := List.mem_map.mp hg
    have hb : b.toNat < 256 := b.toNat_lt
    have hhi := hexDigit_spec (b.toNat / 16) (by omega)
    have hlo := hexDigit_spec (b.toNat % 16) (by omega)
    exact ⟨⟨hhi.1, hlo.1⟩, hhi.2.2, hlo.2.2⟩
  have hbytes : (m.bytes.toList.map digitsOf).map pairByte = m.bytes.toList := by
    rw [List.map_map, show pairByte ∘ digitsOf = id from funext pairByte_digitsOf, List.map_id]
  -- there is nothing to put into lower case
  have hformat : m.format = asciiText (joinGroups (m.bytes.toList.map digitsOf)) := by
    rw [format_eq hlen (fun g hg => (hspec g hg).1) hbytes.symm, asciiText]
    refine congrArg String.ofList (List.map_congr_left ?_)
    exact forall_mem_joinGroups (by decide) fun g hg => (hspec g hg).2
  have hascii := lt_of_mem_joinGroups fun g hg => (hspec g hg).1
  obtain ⟨m', hm', hbytes'⟩ := fromStr_of_groups hlen (fun g hg => (hspec g hg).1)
    (hformat.symm ▸ strBytes_asciiText hascii)
  rw [hm']
  refine congrArg Except.ok ?_
  rw [hbytes] at hbytes'
  cases m
  cases m'
  exact congrArg Mac.mk (Subtype.ext hbytes')

/-! ## All of it -/

/-- What `from_str` makes of a text. -/
structure Grammar (s : String) : Prop where
  /-- The texts of the grammar are accepted and nothing else, -/
  accepts : (∃ m, fromStr s = .ok m) ↔ (strBytes s).length = macStrLen ∧ strBytes s ∈ macText
  /-- and displayed in lower case. -/
  lower : ∀ m, fromStr s = .ok m → m.format = s.toLower
  /-- Of the others those of the right length are reported for the byte at which they depart from the
  grammar: for a digit or for a colon, whichever should be there. -/
  error : (strBytes s).length = macStrLen → ∀ e, fromStr s = .error e ↔
    ∃ pos, DepartsAt macText (strBytes s) pos ∧ e = misplaced s pos

/-- **The error of a text of the right length.** -/
theorem fromStr_error_iff {s : String} (hlen : (strBytes s).length = macStrLen)
    {e : MacParseError} : fromStr s = .error e ↔
      ∃ pos, DepartsAt macText (strBytes s) pos ∧ e = misplaced s pos := by
  have heq := fromStr_eq hlen
  constructor
  · intro h
    rw [h] at heq
    cases hmisfit : misfit? (strBytes s) 0 macStrLen with
    | none =>
      rw [hmisfit] at heq
      cases heq
    | some pos =>
      rw [hmisfit] at heq
      exact ⟨pos, (misfit?_eq_some_iff hlen).mp hmisfit, Except.error.inj heq⟩
  · rintro ⟨pos, hpos, rfl⟩
    rw [(misfit?_eq_some_iff hlen).mpr hpos] at heq
    cases h : fromStr s with
    | ok m =>
      rw [h] at heq
      cases heq
    | error e =>
      rw [h] at heq
      exact congrArg Except.error (Except.error.inj heq)

/-- **The grammar of MACs**: every text is treated by it, and what is displayed is parsed back. -/
theorem macGrammar : (∀ s, Grammar s) ∧ ∀ m : Mac, fromStr m.format = .ok m := by
  refine ⟨fun s => ⟨⟨?_, ?_⟩, fun m => format_of_fromStr, fun hlen e => fromStr_error_iff hlen⟩,
    fromStr_format⟩
  · rintro ⟨m, hm⟩
    obtain ⟨groups, hlen, hhex, hbytes, _⟩ := exists_groups_of_fromStr hm
    have hmem : strBytes s ∈ macText := ⟨groups, hlen, hhex, hbytes⟩
    exact ⟨length_of_mem_macText hmem, hmem⟩
  · rintro ⟨_, groups, hlen, hhex, hbytes⟩
    obtain ⟨m, hm, _⟩ := fromStr_of_groups hlen hhex hbytes
    exact ⟨m, hm⟩

end Mac

end Udap
