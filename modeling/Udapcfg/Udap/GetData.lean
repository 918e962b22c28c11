import Mathlib.Data.String.Basic
import Mathlib.Data.List.TakeWhile
import Udapcfg.Infra.OrdMap
import Udapcfg.Infra.ItemList
import Udapcfg.Udap.Hex
import Udapcfg.Udap.Parameters

/-!
# `GetData` responses

`getdata.rs`: a `u16` count and that many items, each rendered by the width it arrived in.

* `parseResponse_encodeItems` — a complete item list decodes to the left-to-right insertion of its
  entries
* `Parameter.encode_formatValue` — what a rendered NVRAM value encodes back to: the value itself for
  the numeric widths, the value cut at its first NUL otherwise
-/

namespace Udap

open Infra

/-- `BTreeMap<String, Vec<u8>>`. Strings compare by code point, which is the order of
their UTF-8. -/
abbrev Params := OrdMap String Bytes

/-- `GetDataError`. -/
inductive GetDataError where
  | payloadTooShort (got : Nat)
  | truncatedHeader (index pos : Nat)
  | itemExceedsPayload (index : Nat) (offset length : UInt16) (remaining : Nat)
deriving DecidableEq

namespace GetData

/-- Renders a raw NVRAM value: decimal, dotted quad, or a NUL-terminated string. -/
def formatValue (value : Bytes) : Bytes :=
  match value with
  | [a] => decimal a.toNat
  | [a, b] => decimal (u16FromBe a b).toNat
  | [a, b, c, d] => Ipv4Addr.format ⟨a, b, c, d⟩
  | _ => value.takeWhile (· ≠ 0)

/-- `format!("offset_{offset}")`. -/
def syntheticKey (offset : UInt16) : String := "offset_" ++ toString offset.toNat

/-- The map entry an item becomes. -/
def itemEntry (it : Item) : String × Bytes :=
  match byOffset it.1 with
  | some p => (p.name, formatValue it.2)
  | none => (syntheticKey it.1, strBytes (Hex.encode it.2))

/-- The loop of `parse_response`: `n` items to go, the next one is `index` and starts at `pos`. -/
def parseLoop (data : Bytes) : Nat → Nat → Nat → Params → Except GetDataError Params
  | 0, _, _, out => .ok out
  | n + 1, index, pos, out =>
    if data.length < pos + 4 then .error (.truncatedHeader index pos)
    else
      let offset := u16At data pos
      let length := u16At data (pos + 2)
      if data.length < pos + 4 + length.toNat then
        .error (.itemExceedsPayload index offset length (data.length - (pos + 4)))
      else
        let entry := itemEntry (offset, slice data (pos + 4) length.toNat)
        parseLoop data n (index + 1) (pos + 4 + length.toNat) (out.insert entry.1 entry.2)

/-- `getdata::parse_response`. -/
def parseResponse (data : Bytes) : Except GetDataError Params :=
  if data.length < 2 then .error (.payloadTooShort data.length)
  else parseLoop data (u16At data 0).toNat 0 2 OrdMap.empty

/-! ## Complete item lists -/

/-- When all `n` items are there, the loop inserts them left to right. -/
theorem parseLoop_of_complete (data : Bytes) : ∀ (n index pos : Nat) (out : Params),
    (takeItems n (data.drop pos)).length = n →
    parseLoop data n index pos out
      = .ok (out.insertAll ((takeItems n (data.drop pos)).map itemEntry))
  | 0, _, _, _, _ => rfl
  | n + 1, index, pos, out, h => by
    rw [takeItems, takeItem_drop] at h ⊢
    unfold parseLoop
    split at h
    · next hread =>
      simp at h
    · next it rest hread =>
      by_cases h4 : data.length < pos + 4
      · rw [if_pos h4] at hread
        simp at hread
      · rw [if_neg h4] at hread ⊢
        by_cases hlen : data.length < pos + 4 + (u16At data (pos + 2)).toNat
        · rw [if_pos hlen] at hread
          simp at hread
        · simp only [if_neg hlen] at hread ⊢
          cases hread
          simp only [List.length_cons, Nat.add_right_cancel_iff] at h
          rw [parseLoop_of_complete data n _ _ _ h]
          rfl

/-- **A complete item list decodes to the insertion of its entries, left to right.** -/
theorem parseResponse_encodeItems {items : List Item} (hcount : items.length < 65536)
    (hfit : ∀ it ∈ items, it.2.length < 65536) (tail : Bytes) :
    parseResponse (u16ToBe (u16OrMax items.length) ++ (encodeItems items ++ tail))
      = .ok (OrdMap.empty.insertAll (items.map itemEntry)) := by
  have hread : takeItems items.length (encodeItems items ++ tail) = items := by
    rw [takeItems_encodeItems hfit _ (Nat.le_refl _), List.take_length]
  have hcnt : u16At (u16ToBe (u16OrMax items.length) ++ (encodeItems items ++ tail)) 0
      = u16OrMax items.length := (u16At_eq rfl).trans (u16FromBe_toBe _)
  have hdrop : (u16ToBe (u16OrMax items.length) ++ (encodeItems items ++ tail)).drop 2
      = encodeItems items ++ tail := rfl
  have hlen : ¬ (u16ToBe (u16OrMax items.length) ++ (encodeItems items ++ tail)).length < 2 := by
    rw [List.length_append, length_u16ToBe]
    omega
  rw [parseResponse, if_neg hlen, hcnt, toNat_u16OrMax hcount, parseLoop_of_complete]
  · rw [hdrop, hread]
  · rw [hdrop, hread]

/-- The loop succeeds only if all `n` items are there. -/
theorem complete_of_parseLoop (data : Bytes) : ∀ (n index pos : Nat) (out m : Params),
    parseLoop data n index pos out = .ok m → (takeItems n (data.drop pos)).length = n
  | 0, _, _, _, _, _ => rfl
  | n + 1, index, pos, out, m, h => by
    unfold parseLoop at h
    rw [takeItems, takeItem_drop]
    by_cases h4 : data.length < pos + 4
    · simp [h4] at h
    · rw [if_neg h4] at h ⊢
      by_cases hlen : data.length < pos + 4 + (u16At data (pos + 2)).toNat
      · simp [hlen] at h
      · simp only [if_neg hlen] at h ⊢
        rw [List.length_cons, complete_of_parseLoop data n _ _ _ m h]

/-- The items of a response, as many as are there. -/
def replyItems (data : Bytes) : List Item := takeItems (u16At data 0).toNat (data.drop 2)

/-- **What was decoded is the insertion of the items, left to right.** -/
theorem parseResponse_ok {data : Bytes} {m : Params} (h : parseResponse data = .ok m) :
    m = OrdMap.empty.insertAll ((replyItems data).map itemEntry) := by
  unfold parseResponse at h
  split at h
  · simp at h
  · have hcomplete := complete_of_parseLoop data _ _ _ _ m h
    rw [parseLoop_of_complete data _ _ _ _ hcomplete] at h
    exact (Except.ok.inj h).symm

theorem parseResponse_keys {data : Bytes} {m : Params} (h : parseResponse data = .ok m) {k : String}
    (hk : m.get? k ≠ none) : ∃ it ∈ replyItems data, (itemEntry it).1 = k := by
  rw [parseResponse_ok h, OrdMap.get?_insertAll, OrdMap.get?_empty, Option.or_none] at hk
  obtain ⟨v, hv⟩ := Option.ne_none_iff_exists'.mp hk
  obtain ⟨it, hit, heq⟩ := List.mem_map.mp (List.mem_reverse.mp (OrdMap.mem_of_lookup hv))
  exact ⟨it, hit, by rw [heq]⟩

theorem get?_parseResponse_of_mem {data : Bytes} {m : Params} (h : parseResponse data = .ok m)
    {it : Item} (hit : it ∈ replyItems data) : m.get? (itemEntry it).1 ≠ none := by
  rw [parseResponse_ok h, OrdMap.get?_insertAll, OrdMap.get?_empty, Option.or_none]
  intro hnone
  exact OrdMap.lookup_eq_none_iff.mp hnone _
    (List.mem_reverse.mpr (List.mem_map_of_mem hit)) rfl

/-! ## Keys -/

/-- Decides whether a key is one `get_all` clears: `k.starts_with("offset_")`. -/
def isSynthetic (k : String) : Bool := "offset_".toList.isPrefixOf k.toList

theorem isSynthetic_name : ∀ name ∈ names, isSynthetic name = false := by decide +kernel

theorem isSynthetic_syntheticKey (offset : UInt16) : isSynthetic (syntheticKey offset) = true := by
  rw [isSynthetic, syntheticKey, String.toList_append, List.isPrefixOf_iff_prefix]
  exact List.prefix_append _ _

theorem itemEntry_of_byOffset {it : Item} {p : Parameter} (h : byOffset it.1 = some p) :
    itemEntry it = (p.name, formatValue it.2) := by
  rw [itemEntry, h]

/-- A decoded key is a table name or synthetic, never an alias. -/
theorem itemEntry_key (it : Item) :
    (∃ p ∈ parameters, p.offset = it.1 ∧ (itemEntry it).1 = p.name) ∨
      isSynthetic (itemEntry it).1 = true := by
  cases h : byOffset it.1 with
  | some p =>
    obtain ⟨hmem, hoff⟩ := byOffset_eq_some h
    exact Or.inl ⟨p, hmem, hoff, by rw [itemEntry_of_byOffset h]⟩
  | none =>
    refine Or.inr ?_
    rw [itemEntry, h]
    exact isSynthetic_syntheticKey it.1

end GetData

/-! ## Rendering and encoding -/

namespace Parameter

open GetData

/-- What is left of a raw value once it has been rendered and encoded again. -/
def normalize (p : Parameter) (b : Bytes) : Bytes :=
  if p.length = 1 ∨ p.length = 2 ∨ p.length = 4 then b
  else padTo p.length.toNat (b.takeWhile (· ≠ 0))

theorem takeWhile_append_zeros {v : Bytes} (h : ∀ b ∈ v, b ≠ 0) (n : Nat) :
    (v ++ zeros n).takeWhile (· ≠ 0) = v := by
  rw [List.takeWhile_append_of_pos (by simpa using h)]
  cases n with
  | zero => simp [zeros]
  | succ n => simp [zeros, List.replicate_succ]

theorem ne_zero_of_mem_takeWhile {v : Bytes} {b : UInt8} (h : b ∈ v.takeWhile (· ≠ 0)) : b ≠ 0 := by
  simpa using List.mem_takeWhile_imp h

theorem length_eq_iff {p : Parameter} (n : Nat) (hn : n < 65536) :
    p.length = UInt16.ofNat n ↔ p.length.toNat = n := by
  constructor
  · intro h
    rw [h, UInt16.toNat_ofNat']
    omega
  · intro h
    rw [← h]
    exact UInt16.ofNat_toNat.symm

/-- A string width: the value is taken as it is. -/
theorem encode_of_string {p : Parameter} (h : ¬ (p.length = 1 ∨ p.length = 2 ∨ p.length = 4))
    (value : Bytes) : p.encode value = .ok (padTo p.length.toNat value) := by
  have h1 : p.length.toNat ≠ 1 := fun hw => h (Or.inl ((length_eq_iff 1 (by decide)).mpr hw))
  have h2 : p.length.toNat ≠ 2 :=
    fun hw => h (Or.inr (Or.inl ((length_eq_iff 2 (by decide)).mpr hw)))
  have h4 : p.length.toNat ≠ 4 :=
    fun hw => h (Or.inr (Or.inr ((length_eq_iff 4 (by decide)).mpr hw)))
  unfold encode
  split
  · contradiction
  · contradiction
  · contradiction
  · rfl

theorem formatValue_of_string {p : Parameter} {b : Bytes} (hb : b.length = p.length.toNat)
    (h : ¬ (p.length = 1 ∨ p.length = 2 ∨ p.length = 4)) :
    formatValue b = b.takeWhile (· ≠ 0) := by
  unfold formatValue
  split
  · exact absurd (Or.inl ((length_eq_iff 1 (by decide)).mpr hb.symm)) h
  · exact absurd (Or.inr (Or.inl ((length_eq_iff 2 (by decide)).mpr hb.symm))) h
  · exact absurd (Or.inr (Or.inr ((length_eq_iff 4 (by decide)).mpr hb.symm))) h
  · rfl

/-- **A rendered value encodes back**, to the bytes it came from up to normalization. -/
theorem encode_formatValue {p : Parameter} {b : Bytes} (hb : b.length = p.length.toNat) :
    p.encode (formatValue b) = .ok (p.normalize b) := by
  by_cases hs : p.length = 1 ∨ p.length = 2 ∨ p.length = 4
  · rw [normalize, if_pos hs]
    rcases hs with h | h | h
    · have hw : p.length.toNat = 1 := by rw [h]; rfl
      rw [hw, List.length_eq_one_iff] at hb
      obtain ⟨x, rfl⟩ := hb
      have hx : x.toNat < 256 := x.toNat_lt
      rw [encode, hw]
      simp only [formatValue]
      rw [parseUnsigned_decimal (by omega)]
      simp
    · have hw : p.length.toNat = 2 := by rw [h]; rfl
      rw [hw, List.length_eq_two] at hb
      obtain ⟨x, y, rfl⟩ := hb
      have hxy : (u16FromBe x y).toNat < 65536 := (u16FromBe x y).toNat_lt
      rw [encode, hw]
      simp only [formatValue]
      rw [parseUnsigned_decimal (by omega)]
      simp [u16ToBe_fromBe]
    · have hw : p.length.toNat = 4 := by rw [h]; rfl
      rw [hw, List.length_eq_four] at hb
      obtain ⟨x, y, z, w, rfl⟩ := hb
      rw [encode, hw]
      simp [formatValue, Ipv4Addr.parse_format, Ipv4Addr.octets]
  · -- a string is cut at its first NUL and padded again
    rw [normalize, if_neg hs, formatValue_of_string hb hs, encode_of_string hs]

theorem length_normalize {p : Parameter} {b : Bytes} (hb : b.length = p.length.toNat) :
    (p.normalize b).length = p.length.toNat := length_encode (encode_formatValue hb)

/-- A string is cut at its first NUL and filled up with zeros. -/
theorem normalize_of_string {p : Parameter} {b : Bytes} (hb : b.length = p.length.toNat)
    (h : ¬ (p.length = 1 ∨ p.length = 2 ∨ p.length = 4)) : p.normalize b
      = b.takeWhile (· ≠ 0) ++ zeros (p.length.toNat - (b.takeWhile (· ≠ 0)).length) := by
  have hle : (b.takeWhile (· ≠ 0)).length ≤ p.length.toNat := by
    rw [← hb]
    exact (List.takeWhile_prefix _).length_le
  rw [normalize, if_neg h, padTo_of_le hle]

/-- Normalization does not show in the rendering. -/
theorem formatValue_normalize {p : Parameter} {b : Bytes} (hb : b.length = p.length.toNat) :
    formatValue (p.normalize b) = formatValue b := by
  by_cases hs : p.length = 1 ∨ p.length = 2 ∨ p.length = 4
  · rw [normalize, if_pos hs]
  · rw [formatValue_of_string (length_normalize hb) hs, formatValue_of_string hb hs,
      normalize_of_string hb hs]
    exact takeWhile_append_zeros (fun x hx => ne_zero_of_mem_takeWhile hx) _

/-- The rendering of the value a parameter would store: `None` when it cannot be encoded. -/
def render (p : Parameter) (value : Bytes) : Option Bytes :=
  match p.encode value with
  | .ok b => some (formatValue b)
  | .error _ => none

theorem render_of_encode {p : Parameter} {value b : Bytes} (h : p.encode value = .ok b) :
    p.render value = some (formatValue b) := by rw [render, h]

theorem encode_of_render {p : Parameter} {value r : Bytes} (h : p.render value = some r) :
    ∃ b, p.encode value = .ok b ∧ formatValue b = r := by
  unfold render at h
  split at h
  · next b hb => exact ⟨b, hb, Option.some.inj h⟩
  · simp at h

/-- **Rendering is stable**: a rendered value renders to itself. -/
theorem render_render {p : Parameter} {value r : Bytes} (h : p.render value = some r) :
    p.render r = some r := by
  obtain ⟨b, hb, rfl⟩ := encode_of_render h
  have hlen : b.length = p.length.toNat := length_encode hb
  rw [render_of_encode (encode_formatValue hlen), formatValue_normalize hlen]

end Parameter

end Udap
