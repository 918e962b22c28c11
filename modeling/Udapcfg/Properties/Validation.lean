import Udapcfg.Properties.ReadModifyWrite
import Udapcfg.Udap.Validation

/-!
# Validated values

What is validated is encoded, sent, stored, read back and rendered, and three sets of rules decide
on it.

* `encodesUnsigned_iff` — numbers: encoding and validation agree except about a leading `+`
* `survives_iff` — a validated value is rendered as it was given, except for a NUL in a string
-/

namespace Udap

open Infra

/-! ## Unsigned numbers -/

/-- Go's `ParseUint` for a number of `width` bytes: digits only, at least one, in range. -/
def IsUnsigned (width : Nat) (v : Bytes) : Prop :=
  v ≠ [] ∧ v.all isDigit = true ∧ digitsValue v < 256 ^ width

instance (width : Nat) (v : Bytes) : Decidable (IsUnsigned width v) :=
  inferInstanceAs (Decidable (_ ∧ _ ∧ _))

/-- `width` bytes, big-endian. -/
def bigEndian (width n : Nat) : Bytes :=
  (List.range width).map fun i => UInt8.ofNat (n / 256 ^ (width - 1 - i))

theorem parseUnsigned_of_isUnsigned {width max : Nat} {v : Bytes} (hmax : max + 1 = 256 ^ width)
    (h : IsUnsigned width (stripPlus v)) :
    parseUnsigned max v = some (digitsValue (stripPlus v)) := by
  obtain ⟨hne, hall, hlt⟩ := h
  rw [parseUnsigned, if_neg, if_pos (by omega)]
  rintro (hnil | hfalse)
  · exact hne hnil
  · rw [hall] at hfalse
    cases hfalse

theorem isUnsigned_of_parseUnsigned {width max n : Nat} {v : Bytes} (hmax : max + 1 = 256 ^ width)
    (h : parseUnsigned max v = some n) : IsUnsigned width (stripPlus v) := by
  unfold parseUnsigned at h
  simp only at h
  split at h
  · cases h
  · next hdigits =>
    rw [not_or, Bool.not_eq_false] at hdigits
    split at h
    · exact ⟨hdigits.1, hdigits.2, by omega⟩
    · cases h

/-- **`FromStr`** takes what `ParseUint` does, also behind a `+`. -/
theorem parseUnsigned_isSome_iff {width max : Nat} (v : Bytes) (hmax : max + 1 = 256 ^ width) :
    (parseUnsigned max v).isSome ↔ IsUnsigned width (stripPlus v) := by
  constructor
  · intro h
    obtain ⟨n, hn⟩ := Option.isSome_iff_exists.mp h
    exact isUnsigned_of_parseUnsigned hmax hn
  · intro h
    rw [parseUnsigned_of_isUnsigned hmax h]
    rfl

/-- A number does not begin with a sign. -/
theorem stripPlus_of_isUnsigned {width : Nat} {v : Bytes} (h : IsUnsigned width v) :
    v.head? ≠ some 0x2B ∧ stripPlus v = v := by
  cases v with
  | nil => exact absurd rfl h.1
  | cons b rest =>
    have hb : b ≠ 0x2B := by
      rintro rfl
      have hall := h.2.1
      rw [List.all_cons, Bool.and_eq_true] at hall
      exact absurd hall.1 (by decide)
    refine ⟨?_, by rw [stripPlus, if_neg hb]⟩
    rw [List.head?_cons, ne_eq, Option.some.injEq]
    exact hb

theorem isUnsigned_stripPlus_iff {width : Nat} {v : Bytes} :
    IsUnsigned width (stripPlus v) ↔
      IsUnsigned width v ∨ ∃ digits, v = 0x2B :: digits ∧ IsUnsigned width digits := by
  constructor
  · intro h
    cases v with
    | nil => exact Or.inl h
    | cons b rest =>
      by_cases hb : b = 0x2B
      · rw [stripPlus, if_pos hb] at h
        exact Or.inr ⟨rest, by rw [hb], h⟩
      · rw [stripPlus, if_neg hb] at h
        exact Or.inl h
  · rintro (h | ⟨digits, rfl, h⟩)
    · rw [(stripPlus_of_isUnsigned h).2]
      exact h
    · exact h

/-! ## Numeric widths -/

theorem bigEndian_one (n : Nat) : bigEndian 1 n = [UInt8.ofNat n] := by simp [bigEndian]

theorem bigEndian_two {n : Nat} (h : n < 65536) :
    bigEndian 2 n = u16ToBe (UInt16.ofNat n) := by
  have hn : (UInt16.ofNat n).toNat = n := by
    rw [UInt16.toNat_ofNat']
    omega
  have hlow : UInt8.ofNat (n % 256) = UInt8.ofNat n := UInt8.ofNat_mod_size
  rw [u16ToBe, hn, hlow]
  simp [bigEndian, List.range_succ]

theorem check_eq_ok_iff {ε : Type} {c : Prop} [Decidable c] {e : ε} :
    (if c then .ok () else .error e) = (.ok () : Except ε Unit) ↔ c := by
  split
  · next h => exact iff_of_true rfl h
  · next h => exact iff_of_false (fun he => by cases he) h

/-- How a numeric width is encoded and validated: by the same reader, but for the sign. -/
structure ReadsUnsigned (p : Parameter) (max : Nat) : Prop where
  range : max + 1 = 256 ^ p.length.toNat
  accept : ∀ v n, parseUnsigned max v = some n → p.encode v = .ok (bigEndian p.length.toNat n)
  reject : ∀ v, parseUnsigned max v = none → ∀ b, p.encode v ≠ .ok b
  validate : ∀ value, validateWidth p value = .ok () ↔ parsesAsUnsigned max value = true

theorem readsUnsigned_one {p : Parameter} (h : p.length = 1) : ReadsUnsigned p 255 where
  range := by rw [h]; rfl
  accept v n hparse := by
    rw [Parameter.encode, h]
    simp only [show (1 : UInt16).toNat = 1 from rfl, hparse, bigEndian_one]
  reject v hparse b hb := by
    rw [Parameter.encode, h] at hb
    simp only [show (1 : UInt16).toNat = 1 from rfl, hparse] at hb
    cases hb
  validate value := by
    rw [validateWidth, h]
    exact check_eq_ok_iff

theorem readsUnsigned_two {p : Parameter} (h : p.length = 2) : ReadsUnsigned p 65535 where
  range := by rw [h]; rfl
  accept v n hparse := by
    have hlt : n < 65536 := by
      have hdigits : IsUnsigned 2 (stripPlus v) := isUnsigned_of_parseUnsigned rfl hparse
      have hvalue : parseUnsigned 65535 v = some (digitsValue (stripPlus v)) :=
        parseUnsigned_of_isUnsigned rfl hdigits
      rw [hvalue] at hparse
      rw [← Option.some.inj hparse]
      exact hdigits.2.2
    rw [Parameter.encode, h]
    simp only [show (2 : UInt16).toNat = 2 from rfl, hparse, bigEndian_two hlt]
  reject v hparse b hb := by
    rw [Parameter.encode, h] at hb
    simp only [show (2 : UInt16).toNat = 2 from rfl, hparse] at hb
    cases hb
  validate value := by
    rw [validateWidth, h]
    exact check_eq_ok_iff

theorem exists_readsUnsigned {p : Parameter} (hp : p.length = 1 ∨ p.length = 2) :
    ∃ max, ReadsUnsigned p max := by
  rcases hp with h | h
  · exact ⟨255, readsUnsigned_one h⟩
  · exact ⟨65535, readsUnsigned_two h⟩

variable {p : Parameter}

/-- A number is encoded in the width it has room in. -/
theorem encode_of_isUnsigned (hp : p.length = 1 ∨ p.length = 2) {v : Bytes}
    (h : IsUnsigned p.length.toNat (stripPlus v)) :
    p.encode v = .ok (bigEndian p.length.toNat (digitsValue (stripPlus v))) := by
  obtain ⟨max, hreads⟩ := exists_readsUnsigned hp
  exact hreads.accept v _ (parseUnsigned_of_isUnsigned hreads.range h)

/-- **Encoding a number**: a leading `+` is let through. -/
theorem encode_isOk_iff_isUnsigned (hp : p.length = 1 ∨ p.length = 2) (v : Bytes) :
    (∃ b, p.encode v = .ok b) ↔ IsUnsigned p.length.toNat (stripPlus v) := by
  refine ⟨?_, fun h => ⟨_, encode_of_isUnsigned hp h⟩⟩
  rintro ⟨b, hb⟩
  obtain ⟨max, hreads⟩ := exists_readsUnsigned hp
  cases hparse : parseUnsigned max v with
  | none => exact absurd hb (hreads.reject v hparse b)
  | some n => exact isUnsigned_of_parseUnsigned hreads.range hparse

/-- **Validating a number**: a leading `+` is not. -/
theorem validateWidth_iff_isUnsigned (hp : p.length = 1 ∨ p.length = 2) (value : String) :
    validateWidth p value = .ok () ↔ IsUnsigned p.length.toNat (strBytes value) := by
  obtain ⟨max, hreads⟩ := exists_readsUnsigned hp
  rw [hreads.validate, parsesAsUnsigned, Bool.and_eq_true, decide_eq_true_eq,
    parseUnsigned_isSome_iff _ hreads.range]
  constructor
  · rintro ⟨hsign, hdigits⟩
    rcases isUnsigned_stripPlus_iff.mp hdigits with hdigits | ⟨digits, hplus, _⟩
    · exact hdigits
    · rw [hplus] at hsign
      exact absurd rfl hsign
  · intro h
    obtain ⟨hsign, hstrip⟩ := stripPlus_of_isUnsigned h
    exact ⟨hsign, by rwa [hstrip]⟩

/-- Encoding and validation of a number read Go's grammar. -/
structure EncodesUnsigned (p : Parameter) (v : Bytes) : Prop where
  accepts : (∃ b, p.encode v = .ok b) ↔ IsUnsigned p.length.toNat v
  bytes : IsUnsigned p.length.toNat v →
    p.encode v = .ok (bigEndian p.length.toNat (digitsValue v))
  validates : ∀ value, strBytes value = v →
    (validateWidth p value = .ok () ↔ IsUnsigned p.length.toNat v)

/-- **Where the grammar is Go's**: everywhere but at a number with a `+` in front of it. -/
theorem encodesUnsigned_iff (p : Parameter) (hp : p.length = 1 ∨ p.length = 2) (v : Bytes) :
    EncodesUnsigned p v ↔ ∀ digits, v = 0x2B :: digits → ¬ IsUnsigned p.length.toNat digits := by
  constructor
  · rintro ⟨haccepts, _, _⟩ digits rfl hdigits
    have hsigned : IsUnsigned p.length.toNat ((0x2B : UInt8) :: digits) := by
      rw [← haccepts, encode_isOk_iff_isUnsigned hp]
      exact hdigits
    exact (stripPlus_of_isUnsigned hsigned).1 rfl
  · intro h
    refine ⟨?_, ?_, ?_⟩
    · rw [encode_isOk_iff_isUnsigned hp, isUnsigned_stripPlus_iff, or_iff_left]
      rintro ⟨digits, hplus, hdigits⟩
      exact h digits hplus hdigits
    · intro hv
      have hstrip := (stripPlus_of_isUnsigned hv).2
      have hencode := encode_of_isUnsigned hp (v := v) (by rwa [hstrip])
      rwa [hstrip] at hencode
    · rintro value rfl
      exact validateWidth_iff_isUnsigned hp value

/-- Leading zeros are no sign. -/
theorem encodesUnsigned_iff_zeros : ∃ p, byName "lan_ip_mode" = some p ∧
    (EncodesUnsigned p (strBytes "007") ↔
      ∀ digits, strBytes "007" = 0x2B :: digits → ¬ IsUnsigned p.length.toNat digits) :=
  ⟨_, rfl, encodesUnsigned_iff _ (by decide) _⟩

/-- `+1` is taken for a number. -/
theorem not_encodesUnsigned_plus : ∃ p, byName "lan_ip_mode" = some p ∧
    ¬ EncodesUnsigned p (strBytes "+1") := by
  refine ⟨_, rfl, ?_⟩
  rintro ⟨haccepts, _, _⟩
  exact absurd (haccepts.mp ⟨[1], by decide +kernel⟩) (by decide +kernel)

/-! ## Values a user is allowed to supply -/

/-- Two texts of one value: of a number, of an address, or of a string, which is just itself. -/
def SameValue (p : Parameter) (v w : Bytes) : Prop :=
  if p.length = 1 ∨ p.length = 2 then
    IsUnsigned p.length.toNat v ∧ IsUnsigned p.length.toNat w ∧ digitsValue v = digitsValue w
  else if p.length = 4 then ∃ ip, Ipv4Addr.parse v = some ip ∧ Ipv4Addr.parse w = some ip
  else v = w

/-- What becomes of a value that survives: it fits, is not cut, and is rendered as the
value it is. -/
def Survives (p : Parameter) (v : Bytes) : Prop :=
  ∃ b, p.encode v = .ok b ∧ b.length = p.length.toNat ∧ (¬ p.IsNumeric → v <+: b) ∧
    SameValue p v (GetData.formatValue b)

theorem formatValue_bigEndian (hp : p.length = 1 ∨ p.length = 2) {n : Nat}
    (h : n < 256 ^ p.length.toNat) :
    GetData.formatValue (bigEndian p.length.toNat n) = decimal n := by
  rcases hp with hw | hw
  · rw [hw] at h ⊢
    have hn : (UInt8.ofNat n).toNat = n := by
      rw [UInt8.toNat_ofNat']
      exact Nat.mod_eq_of_lt h
    show GetData.formatValue (bigEndian 1 n) = _
    rw [bigEndian_one, GetData.formatValue, hn]
  · rw [hw] at h ⊢
    have hn : (UInt16.ofNat n).toNat = n := by
      rw [UInt16.toNat_ofNat']
      exact Nat.mod_eq_of_lt h
    show GetData.formatValue (bigEndian 2 n) = _
    rw [bigEndian_two h]
    show decimal (u16FromBe _ _).toNat = _
    rw [u16FromBe_toBe, hn]

theorem survives_of_isUnsigned (hp : p.length = 1 ∨ p.length = 2) {v : Bytes}
    (h : IsUnsigned p.length.toNat v) : Survives p v := by
  have hstrip := (stripPlus_of_isUnsigned h).2
  have hencode := encode_of_isUnsigned hp (v := v) (by rwa [hstrip])
  rw [hstrip] at hencode
  refine ⟨_, hencode, Parameter.length_encode hencode, ?_, ?_⟩
  · intro hstring
    exact absurd (hp.imp_right Or.inl) hstring
  · rw [SameValue, if_pos hp, formatValue_bigEndian hp h.2.2, digitsValue_decimal]
    refine ⟨h, ⟨decimal_ne_nil _, all_isDigit_decimal _, ?_⟩, rfl⟩
    rw [digitsValue_decimal]
    exact h.2.2

theorem survives_of_parse (hp : p.length = 4) {v : Bytes} {ip : Ipv4Addr}
    (h : Ipv4Addr.parse v = some ip) : Survives p v := by
  have hnumeric : p.IsNumeric := Or.inr (Or.inr hp)
  refine ⟨ip.octets, ?_, by rw [hp]; rfl, fun hstring => absurd hnumeric hstring, ?_⟩
  · rw [Parameter.encode, hp]
    simp only [show (4 : UInt16).toNat = 4 from rfl, h]
  · rw [SameValue, hp, if_neg (by decide), if_pos rfl]
    exact ⟨ip, h, Ipv4Addr.parse_format ip⟩

/-- A string that fits survives unless there is a NUL in it. -/
theorem survives_string_iff (hp : ¬ p.IsNumeric) {v : Bytes} (hlen : v.length ≤ p.length.toNat) :
    Survives p v ↔ 0 ∉ v := by
  have hencode := Parameter.encode_of_string hp v
  have hsame : ∀ w, SameValue p v w ↔ v = w := by
    intro w
    rw [SameValue, if_neg fun h => hp (h.imp_right Or.inl), if_neg fun h => hp (Or.inr (Or.inr h))]
  have hrender : GetData.formatValue (Parameter.padTo p.length.toNat v)
      = (v ++ zeros (p.length.toNat - v.length)).takeWhile (· ≠ 0) := by
    rw [Parameter.formatValue_of_string (Parameter.length_padTo _ v) hp, Parameter.padTo_of_le hlen]
  constructor
  · rintro ⟨b, hb, _, _, hvalue⟩ hzero
    rw [hencode] at hb
    cases hb
    rw [hsame, hrender] at hvalue
    -- nothing of what is rendered is zero
    rw [hvalue] at hzero
    exact Parameter.ne_zero_of_mem_takeWhile hzero rfl
  · intro hzero
    refine ⟨_, hencode, Parameter.length_padTo _ v, fun _ => ?_, ?_⟩
    · rw [Parameter.padTo_of_le hlen]
      exact List.prefix_append _ _
    · rw [hsame, hrender]
      refine (Parameter.takeWhile_append_zeros (fun b hb => ?_) _).symm
      rintro rfl
      exact hzero hb

theorem validateWidth_address_iff (hp : p.length = 4) (value : String) :
    validateWidth p value = .ok () ↔ ∃ ip, Ipv4Addr.parse (strBytes value) = some ip := by
  rw [validateWidth, hp, ← Option.isSome_iff_exists]
  exact check_eq_ok_iff

theorem length_le_of_validateWidth (hp : ¬ p.IsNumeric) {value : String}
    (h : validateWidth p value = .ok ()) : (strBytes value).length ≤ p.length.toNat := by
  unfold validateWidth at h
  split at h
  · next hw => exact absurd (Or.inl ((Parameter.length_eq_iff 1 (by decide)).mpr hw)) hp
  · next hw => exact absurd (Or.inr (Or.inl ((Parameter.length_eq_iff 2 (by decide)).mpr hw))) hp
  · next hw => exact absurd (Or.inr (Or.inr ((Parameter.length_eq_iff 4 (by decide)).mpr hw))) hp
  · split at h
    · cases h
    · next hlen => exact Nat.not_lt.mp hlen

/-- **Which validated values survive**: all but strings with a NUL in them. -/
theorem survives_iff (name value : String) (p : Parameter) (hname : byName name = some p)
    (hvalid : validateParameter name value = .ok ()) :
    Survives p (strBytes value) ↔ (p.IsNumeric ∨ 0 ∉ strBytes value) := by
  have hwidth := validateWidth_of_validateParameter hname hvalid
  by_cases hp : p.length = 1 ∨ p.length = 2
  · have hnumeric : p.IsNumeric := hp.imp_right Or.inl
    exact iff_of_true (survives_of_isUnsigned hp ((validateWidth_iff_isUnsigned hp value).mp hwidth))
      (Or.inl hnumeric)
  · by_cases h4 : p.length = 4
    · obtain ⟨ip, hip⟩ := (validateWidth_address_iff h4 value).mp hwidth
      exact iff_of_true (survives_of_parse h4 hip) (Or.inl (Or.inr (Or.inr h4)))
    · have hstring : ¬ p.IsNumeric := fun h => h4 ((or_assoc.mpr h).resolve_left hp)
      rw [survives_string_iff hstring (length_le_of_validateWidth hstring hwidth),
        or_iff_right hstring]

/-- A name that fits exactly. -/
theorem survives_iff_exact : ∃ p, byName "wireless_wep_key" = some p ∧
    (Survives p (strBytes "0123456789abc") ↔ (p.IsNumeric ∨ 0 ∉ strBytes "0123456789abc")) :=
  ⟨_, rfl, survives_iff "wireless_wep_key" "0123456789abc" _ rfl (by decide +kernel)⟩

/-- A host name with a NUL in it is validated, and what follows the NUL is lost. -/
theorem not_survives_nul : ∃ p, byName "hostname" = some p ∧
    validateParameter "hostname" "a\x00b" = .ok () ∧ ¬ Survives p (strBytes "a\x00b") := by
  refine ⟨_, rfl, by decide +kernel, ?_⟩
  rw [survives_string_iff (by unfold Parameter.IsNumeric; decide) (by decide +kernel)]
  decide +kernel

end Udap
