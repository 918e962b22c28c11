import Udapcfg.Properties.ResponseGrammar
import Udapcfg.Properties.Validation

/-!
# Writing back what was read

`parse_response` renders a value by the length it arrived in, `encode` reads it by the width of the
table. A device that sends another length decides what becomes of it.

* `encode_formatValue_isOk_iff` — the values whose rendering can be encoded
* `get?_parseResponse_name` — a parameter has the rendering of the last value sent for it
* `writesBack_iff` — a response can be written back exactly if its last values can
-/

namespace Udap

open Infra

/-! ## Addresses -/

theorem encode_isOk_iff_address {p : Parameter} (hp : p.length = 4) (v : Bytes) :
    (∃ b, p.encode v = .ok b) ↔ ∃ ip : Ipv4Addr, v = ip.format := by
  rw [Parameter.encode, hp]
  simp only [show (4 : UInt16).toNat = 4 from rfl]
  constructor
  · rintro ⟨b, hb⟩
    cases hparse : Ipv4Addr.parse v with
    | none =>
      rw [hparse] at hb
      cases hb
    | some ip => exact ⟨ip, Ipv4Addr.eq_format_of_parse hparse⟩
  · rintro ⟨ip, rfl⟩
    rw [Ipv4Addr.parse_format]
    exact ⟨ip.octets, rfl⟩

theorem dot_mem_format (ip : Ipv4Addr) : (0x2E : UInt8) ∈ ip.format :=
  List.mem_append_right _ List.mem_cons_self

/-- An address is not a number, -/
theorem not_isUnsigned_format (width : Nat) (ip : Ipv4Addr) :
    ¬ IsUnsigned width (stripPlus ip.format) := by
  have hdot : ∀ digits : Bytes, digits.all isDigit = true → (0x2E : UInt8) ∉ digits := by
    intro digits hall hmem
    exact absurd (List.all_eq_true.mp hall _ hmem) (by decide)
  rw [isUnsigned_stripPlus_iff]
  rintro (h | ⟨digits, hplus, h⟩)
  · exact hdot _ h.2.1 (dot_mem_format ip)
  · have hmem := dot_mem_format ip
    rw [hplus] at hmem
    rcases List.mem_cons.mp hmem with hsign | hmem
    · exact absurd hsign (by decide)
    · exact hdot _ h.2.1 hmem

/-- and a number is not an address. -/
theorem decimal_ne_format (n : Nat) (ip : Ipv4Addr) : decimal n ≠ ip.format := by
  intro h
  have hmem := dot_mem_format ip
  rw [← h] at hmem
  exact absurd (isDigit_of_mem_decimal hmem) (by decide)

theorem isUnsigned_stripPlus_decimal_iff {width n : Nat} :
    IsUnsigned width (stripPlus (decimal n)) ↔ n < 256 ^ width := by
  rw [stripPlus_decimal]
  constructor
  · intro h
    have hlt := h.2.2
    rwa [digitsValue_decimal] at hlt
  · intro h
    exact ⟨decimal_ne_nil n, all_isDigit_decimal n, by rwa [digitsValue_decimal]⟩

/-! ## One value -/

/-- Neither rendered as a number nor as an address. -/
def IsText (raw : Bytes) : Prop := raw.length ≠ 1 ∧ raw.length ≠ 2 ∧ raw.length ≠ 4

/-- The values, of any length, whose rendering a parameter can be encoded from. -/
def Rereadable (p : Parameter) (raw : Bytes) : Prop :=
  if p.length = 1 then
    raw.length = 1 ∨ (raw.length = 2 ∧ raw.head? = some 0) ∨
      (IsText raw ∧ IsUnsigned 1 (stripPlus (raw.takeWhile (· ≠ 0))))
  else if p.length = 2 then
    raw.length = 1 ∨ raw.length = 2 ∨
      (IsText raw ∧ IsUnsigned 2 (stripPlus (raw.takeWhile (· ≠ 0))))
  else if p.length = 4 then
    raw.length = 4 ∨ (IsText raw ∧ ∃ ip : Ipv4Addr, raw.takeWhile (· ≠ 0) = ip.format)
  else True

/-- How a value is rendered. -/
inductive Rendered : Bytes → Bytes → Prop
  | byte (a : UInt8) : Rendered [a] (decimal a.toNat)
  | word (a b : UInt8) : Rendered [a, b] (decimal (u16FromBe a b).toNat)
  | address (ip : Ipv4Addr) : Rendered ip.octets ip.format
  | text {raw : Bytes} (h : IsText raw) : Rendered raw (raw.takeWhile (· ≠ 0))

theorem rendered_formatValue (raw : Bytes) : Rendered raw (GetData.formatValue raw) := by
  unfold GetData.formatValue
  split
  · exact .byte _
  · exact .word _ _
  · exact .address ⟨_, _, _, _⟩
  · next h1 h2 h4 =>
    refine .text ⟨?_, ?_, ?_⟩
    · intro hlen
      obtain ⟨a, ha⟩ := List.length_eq_one_iff.mp hlen
      exact h1 a ha
    · intro hlen
      obtain ⟨a, b, hab⟩ := List.length_eq_two.mp hlen
      exact h2 a b hab
    · intro hlen
      obtain ⟨a, b, c, d, habcd⟩ := List.length_eq_four.mp hlen
      exact h4 a b c d habcd

/-- Two bytes are a number below 256 exactly if the first is zero. -/
theorem u16FromBe_lt_iff (a b : UInt8) : (u16FromBe a b).toNat < 256 ^ 1 ↔ a = 0 := by
  have ha : a.toNat < 256 := a.toNat_lt
  have hb : b.toNat < 256 := b.toNat_lt
  rw [u16FromBe, UInt16.toNat_ofNat', ← UInt8.toNat_inj]
  show _ ↔ a.toNat = 0
  omega

/-- **Which values can be written back.** -/
theorem encode_formatValue_isOk_iff (p : Parameter) (raw : Bytes) :
    (∃ b, p.encode (GetData.formatValue raw) = .ok b) ↔ Rereadable p raw := by
  have hrendered := rendered_formatValue raw
  generalize GetData.formatValue raw = v at hrendered
  unfold Rereadable
  split
  · next h1 =>
    rw [encode_isOk_iff_isUnsigned (Or.inl h1), h1]
    show IsUnsigned 1 (stripPlus v) ↔ _
    cases hrendered with
    | byte a =>
      rw [isUnsigned_stripPlus_decimal_iff]
      exact iff_of_true a.toNat_lt (Or.inl rfl)
    | word a b =>
      rw [isUnsigned_stripPlus_decimal_iff, u16FromBe_lt_iff]
      simp [IsText]
    | address ip =>
      refine iff_of_false (not_isUnsigned_format 1 ip) ?_
      simp [IsText, Ipv4Addr.octets]
    | text h => simp [h, h.1, h.2.1]
  · split
    · next h2 =>
      rw [encode_isOk_iff_isUnsigned (Or.inr h2), h2]
      show IsUnsigned 2 (stripPlus v) ↔ _
      cases hrendered with
      | byte a =>
        rw [isUnsigned_stripPlus_decimal_iff]
        exact iff_of_true (Nat.lt_trans a.toNat_lt (by decide)) (Or.inl rfl)
      | word a b =>
        rw [isUnsigned_stripPlus_decimal_iff]
        exact iff_of_true (u16FromBe a b).toNat_lt (Or.inr (Or.inl rfl))
      | address ip =>
        refine iff_of_false (not_isUnsigned_format 2 ip) ?_
        simp [IsText, Ipv4Addr.octets]
      | text h => simp [h, h.1, h.2.1]
    · split
      · next h4 =>
        rw [encode_isOk_iff_address h4]
        cases hrendered with
        | byte a => simp [IsText, decimal_ne_format]
        | word a b => simp [IsText, decimal_ne_format]
        | address ip => exact iff_of_true ⟨ip, rfl⟩ (Or.inl rfl)
        | text h => simp [h, h.2.2]
      · next h1 h2 h4 =>
        refine iff_of_true ⟨_, Parameter.encode_of_string ?_ v⟩ trivial
        rintro (h | h | h)
        · exact h1 h
        · exact h2 h
        · exact h4 h

/-! ## A response -/

/-- The value of the last item for an offset. -/
def lastItem (data : Bytes) (offset : UInt16) : Option Bytes :=
  (((GetData.replyItems data).filter fun it => it.1 = offset).getLast?).map Prod.snd

/-- **The last value** sent for a parameter is the one that is kept. -/
theorem get?_parseResponse_name {data : Bytes} {m : Params} (h : GetData.parseResponse data = .ok m)
    {p : Parameter} (hp : p ∈ parameters) :
    m.get? p.name = (lastItem data p.offset).map GetData.formatValue := by
  have hkey : GetData.itemEntry (p.offset, []) = (p.name, GetData.formatValue []) :=
    GetData.itemEntry_of_byOffset (byOffset_offset p hp)
  have hlast := GetData.get?_insertAll_itemEntry (GetData.replyItems data) (p.offset, [])
  rw [hkey, ← GetData.parseResponse_ok h] at hlast
  rw [hlast, lastItem, Option.map_map]
  refine Option.map_congr fun it hit => ?_
  have hoffset : it.1 = p.offset := of_decide_eq_true (List.mem_filter.mp (List.mem_of_getLast? hit)).2
  rw [GetData.itemEntry_of_byOffset (by rw [hoffset]; exact byOffset_offset p hp)]
  rfl

/-- What can be done with the cache that a response leaves. -/
structure WritesBack (data : Bytes) (m : Params) : Prop where
  /-- Every value of a table name encodes, -/
  encodes : ∀ p ∈ parameters, ∀ v, m.get? p.name = some v → ∃ b, p.encode v = .ok b
  /-- so that no later `set` fails because of it, -/
  sendable : ∀ config, Encodable config → ∃ body, setDataPayload (m.extend config) = .ok body
  /-- and a value that came in the width of the table is encoded to what it was. -/
  last : ∀ p ∈ parameters, ∀ raw, lastItem data p.offset = some raw →
    raw.length = p.length.toNat → NulPadded raw → ∃ v, m.get? p.name = some v ∧ p.encode v = .ok raw

/-- **When a response can be written back**: when the last value for each parameter can. -/
theorem writesBack_iff (data : Bytes) (m : Params) (h : GetData.parseResponse data = .ok m) :
    WritesBack data m ↔
      ∀ p ∈ parameters, ∀ raw, lastItem data p.offset = some raw → Rereadable p raw := by
  constructor
  · intro hwrites p hp raw hlast
    rw [← encode_formatValue_isOk_iff]
    exact hwrites.encodes p hp _ (by rw [get?_parseResponse_name h hp, hlast]; rfl)
  · intro hraw
    have hencodes : ∀ p ∈ parameters, ∀ v, m.get? p.name = some v → ∃ b, p.encode v = .ok b := by
      intro p hp v hv
      rw [get?_parseResponse_name h hp] at hv
      obtain ⟨raw, hlast, rfl⟩ := Option.map_eq_some_iff.mp hv
      exact (encode_formatValue_isOk_iff p raw).mpr (hraw p hp raw hlast)
    refine ⟨hencodes, ?_, ?_⟩
    · intro config hconfig
      refine setDataPayload_isOk_iff.mpr (Encodable.extend ?_ hconfig)
      intro k v p hv hname
      -- the keys of a response are canonical names
      rw [canonicalFor_parseResponse h p k hname (by rw [hv]; simp)] at hv
      exact hencodes p (byName_mem hname) v hv
    · intro p hp raw hlast hlength hpadded
      refine ⟨_, by rw [get?_parseResponse_name h hp, hlast]; rfl, ?_⟩
      rw [Parameter.encode_formatValue hlength, (normalize_eq_iff hlength).mpr (Or.inr hpadded)]

/-- A response with one byte for `lan_ip_mode`. -/
theorem writesBack_iff_byte : ∃ m,
    GetData.parseResponse (responsePayload [(4, [7])]) = .ok m ∧
    (WritesBack (responsePayload [(4, [7])]) m ↔ ∀ p ∈ parameters, ∀ raw,
      lastItem (responsePayload [(4, [7])]) p.offset = some raw → Rereadable p raw) :=
  ⟨_, rfl, writesBack_iff _ _ rfl⟩

/-- A response with no byte for `lan_ip_mode`: what is cached is no number. -/
theorem not_writesBack_empty : ∃ m,
    GetData.parseResponse (responsePayload [(4, [])]) = .ok m ∧
    ¬ WritesBack (responsePayload [(4, [])]) m := by
  refine ⟨_, rfl, ?_⟩
  intro hwrites
  have hencodes := hwrites.encodes ⟨"lan_ip_mode", 4, 1, "1"⟩ (by decide +kernel) [] rfl
  rw [encode_isOk_iff_isUnsigned (Or.inl rfl)] at hencodes
  exact hencodes.1 rfl

end Udap
