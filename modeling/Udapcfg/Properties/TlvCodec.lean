import Udapcfg.Infra.Framing
import Udapcfg.Udap.Tlv

/-!
# The TLV codec in both directions

Entries are a self-delimiting format, so what `decode` returns is the one way to cut a buffer into
entries.

* `decode_eq_iff` — what is decoded, re-encoded, stands in front of a rest with no entry at its
  start
* `decode_codec` — both directions, and truncation
-/

namespace Udap

open Infra

namespace Tlv

/-! ## One entry -/

/-- Reads one entry and returns what follows it. -/
def takeEntry : Bytes → Option (Tlv × Bytes)
  | tag :: len :: rest =>
    if len.toNat ≤ rest.length then some (⟨tag, rest.take len.toNat⟩, rest.drop len.toNat)
    else none
  | _ => none

/-- The bytes start with a complete entry. -/
def StartsEntry (d : Bytes) : Prop :=
  ∃ (e : Tlv) (rest : Bytes), e.value.length ≤ 255 ∧ d = encode e.tag e.value ++ rest

/-- They do not: they end before the value can begin, or inside it. -/
def Incomplete (d : Bytes) : Prop :=
  d.length < 2 ∨ ∃ tag len rest, d = tag :: len :: rest ∧ rest.length < len.toNat

/-- A short value is written as it is. -/
theorem encode_of_le {value : Bytes} (h : value.length ≤ 255) (tag : UInt8) :
    encode tag value = tag :: UInt8.ofNat value.length :: value := by
  rw [encode, Nat.min_eq_left h, List.take_length]

/-- A long one is cut. -/
theorem encode_eq_take (tag : UInt8) (value : Bytes) :
    encode tag value = encode tag (value.take 255) := by
  simp only [encode, List.length_take, List.take_take]
  rw [show min (min 255 value.length) 255 = min value.length 255 by omega,
    show min (min value.length 255) 255 = min value.length 255 by omega]

theorem takeEntry_eq_some_iff {d : Bytes} {e : Tlv} {rest : Bytes} :
    takeEntry d = some (e, rest) ↔ e.value.length ≤ 255 ∧ d = encode e.tag e.value ++ rest := by
  obtain ⟨tag, value⟩ := e
  constructor
  · intro h
    unfold takeEntry at h
    split at h
    · next tag' len body =>
      split at h
      · next hle =>
        cases h
        have hlen : len.toNat < 256 := len.toNat_lt
        have hvalue : (body.take len.toNat).length = len.toNat := List.length_take_of_le hle
        refine ⟨by rw [hvalue]; omega, ?_⟩
        rw [encode_of_le (by rw [hvalue]; omega), hvalue, UInt8.ofNat_toNat]
        simp
      · cases h
    · cases h
  · rintro ⟨hle, rfl⟩
    replace hle : value.length ≤ 255 := hle
    have hlen : (UInt8.ofNat value.length).toNat = value.length := by
      rw [UInt8.toNat_ofNat']
      exact Nat.mod_eq_of_lt (by omega)
    rw [encode_of_le hle]
    simp [takeEntry, hlen]

/-- The entries as a self-delimiting format. -/
def framing : Framing Tlv UInt8 where
  encode e := encode e.tag e.value
  Fits e := e.value.length ≤ 255
  read := takeEntry
  read_iff := takeEntry_eq_some_iff
  encode_ne_nil _ := List.cons_ne_nil _ _

/-- The encodings of entries, one after another. -/
def encodeAll (entries : List Tlv) : Bytes := entries.flatMap fun e => encode e.tag e.value

theorem takeEntry_eq_none_iff {d : Bytes} : takeEntry d = none ↔ ¬ StartsEntry d := by
  rw [Option.eq_none_iff_forall_ne_some, StartsEntry]
  constructor
  · rintro h ⟨e, rest, hfit, hd⟩
    exact h (e, rest) (takeEntry_eq_some_iff.mpr ⟨hfit, hd⟩)
  · rintro h ⟨e, rest⟩ hread
    obtain ⟨hfit, hd⟩ := takeEntry_eq_some_iff.mp hread
    exact h ⟨e, rest, hfit, hd⟩

theorem takeEntry_eq_none_iff_incomplete {d : Bytes} : takeEntry d = none ↔ Incomplete d := by
  unfold takeEntry
  split
  · next tag len rest =>
    rw [Incomplete]
    constructor
    · intro h
      refine Or.inr ⟨tag, len, rest, rfl, ?_⟩
      by_contra hle
      rw [if_pos (by omega)] at h
      cases h
    · rintro (hshort | ⟨_, _, _, heq, hlt⟩)
      · simp only [List.length_cons] at hshort
        omega
      · cases heq
        rw [if_neg (by omega)]
  · next hne =>
    refine ⟨fun _ => Or.inl ?_, fun _ => rfl⟩
    cases d with
    | nil => exact Nat.zero_lt_two
    | cons tag d =>
      cases d with
      | nil => exact Nat.one_lt_two
      | cons len rest => exact absurd rfl (hne tag len rest)

/-! ## The loop -/

/-- Reading an entry at a position: the two bounds checks of the loop. -/
theorem takeEntry_drop (data : Bytes) (pos : Nat) :
    takeEntry (data.drop pos) =
      if data.length < pos + 2 then none
      else if data.length < pos + 2 + (data.getD (pos + 1) 0).toNat then none
      else some (⟨data.getD pos 0, slice data (pos + 2) (data.getD (pos + 1) 0).toNat⟩,
        data.drop (pos + 2 + (data.getD (pos + 1) 0).toNat)) := by
  have hlength : (data.drop pos).length = data.length - pos := List.length_drop
  by_cases h2 : data.length < pos + 2
  · -- less than a tag and a length
    rw [if_pos h2, takeEntry_eq_none_iff_incomplete]
    exact Or.inl (by omega)
  · have hdrop : data.drop pos
        = data.getD pos 0 :: data.getD (pos + 1) 0 :: data.drop (pos + 2) := by
      rw [drop_eq_getD_cons (by omega), drop_eq_getD_cons (by omega)]
    have hrest : (data.drop (pos + 2)).length = data.length - (pos + 2) := List.length_drop
    rw [if_neg h2, hdrop, takeEntry, slice, List.drop_drop]
    by_cases hle : (data.getD (pos + 1) 0).toNat ≤ (data.drop (pos + 2)).length
    · rw [if_pos hle, if_neg (by omega)]
    · rw [if_neg hle, if_pos (by omega)]

theorem decodeLoop_eq (data : Bytes) (fuel pos : Nat) :
    decodeLoop data fuel pos = framing.readN fuel (data.drop pos) := by
  induction fuel generalizing pos with
  | zero => rfl
  | succ fuel ih =>
    have hread : framing.read (data.drop pos) = takeEntry (data.drop pos) := rfl
    rw [decodeLoop, Framing.readN, hread, takeEntry_drop]
    by_cases h2 : data.length < pos + 2
    · simp only [if_pos h2]
    · by_cases hlen : data.length < pos + 2 + (data.getD (pos + 1) 0).toNat
      · simp only [if_neg h2, if_pos hlen]
      · simp only [if_neg h2, if_neg hlen, ih]

theorem decode_eq_readAll (data : Bytes) : decode data = framing.readAll data :=
  decodeLoop_eq data data.length 0

/-! ## The codec -/

/-- **What is decoded** is the one way to cut a buffer into entries. -/
theorem decode_eq_iff {d : Bytes} {entries : List Tlv} : decode d = entries ↔
    ∃ rest, d = encodeAll entries ++ rest ∧ (∀ e ∈ entries, e.value.length ≤ 255) ∧
      takeEntry rest = none := by
  rw [decode_eq_readAll]
  exact Framing.readAll_eq_iff

/-- Entries that were written are decoded, and what follows them is decoded behind. -/
theorem decode_encodeAll_append {entries : List Tlv} (h : ∀ e ∈ entries, e.value.length ≤ 255)
    (rest : Bytes) : decode (encodeAll entries ++ rest) = entries ++ decode rest := by
  rw [decode_eq_readAll, decode_eq_readAll]
  exact Framing.readAll_encodeAll_append h rest

/-- **The codec.** Entries are read back, up to the first tail that holds none; a decoded buffer is
its entries and an incomplete rest; a truncated buffer decodes to a prefix. -/
theorem decode_codec :
    (∀ (entries : List Tlv) (t : Bytes), (∀ e ∈ entries, e.value.length ≤ 255) →
      ¬ StartsEntry t → decode (encodeAll entries ++ t) = entries) ∧
    (∀ d : Bytes, ∃ rest, d = encodeAll (decode d) ++ rest ∧ Incomplete rest ∧
      ¬ StartsEntry rest) ∧
    (∀ (d : Bytes) (n : Nat), decode (d.take n) <+: decode d) := by
  refine ⟨?_, ?_, ?_⟩
  · intro entries t hfits ht
    exact decode_eq_iff.mpr ⟨t, rfl, hfits, takeEntry_eq_none_iff.mpr ht⟩
  · intro d
    obtain ⟨rest, hd, _, hrest⟩ := decode_eq_iff.mp (rfl : decode d = decode d)
    exact ⟨rest, hd, takeEntry_eq_none_iff_incomplete.mp hrest, takeEntry_eq_none_iff.mp hrest⟩
  · intro d n
    rw [decode_eq_readAll, decode_eq_readAll]
    exact Framing.readAll_take n d

/-- The dangling byte of a cut second entry is dropped. -/
theorem decode_codec_dangling :
    decode (encodeAll [⟨0x02, [97, 98]⟩] ++ [0x09]) = [⟨0x02, [97, 98]⟩] := by
  refine decode_codec.1 [⟨0x02, [97, 98]⟩] [0x09] ?_ ?_
  · intro e he
    rw [List.mem_singleton.mp he]
    decide
  · rw [← takeEntry_eq_none_iff]
    rfl

end Tlv

end Udap
