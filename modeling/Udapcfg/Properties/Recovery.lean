import Udapcfg.Properties.MacText
import Udapcfg.Properties.ReadModifyWrite
import Udapcfg.Properties.ResponseGrammar

/-!
# What a decoded response still tells

A response is decoded into a map of names, in which items of unknown offsets have made-up ones.
No item is lost to another, and from the keys the offsets can be read again.

* `decode_encode` — hex digits give the bytes back
* `keyOffset_itemEntry` — a key gives the offset back
* `recoverable` — every item of a response can be found in its map
-/

namespace Udap

open Infra

/-! ## Hex -/

/-- Reads pairs of hex digits. -/
def Hex.decode : Bytes → Option Bytes
  | [] => some []
  | [_] => none
  | a :: b :: rest =>
    match hexNibble a, hexNibble b, decode rest with
    | some hi, some lo, some value => some ((hi <<< 4 ||| lo) :: value)
    | _, _, _ => none

theorem hexDigit_lt : ∀ n < 16, (hexDigit n).toNat < 0x80 := by decide

theorem strBytes_encode (value : Bytes) : strBytes (Hex.encode value)
    = value.flatMap fun b => [(Mac.digitsOf b).1, (Mac.digitsOf b).2] := by
  rw [Hex.encode, strBytes_ofList, List.map_flatMap]
  · rfl
  · intro c hc
    obtain ⟨b, _, hc⟩ := List.mem_flatMap.mp hc
    have hb : b.toNat < 256 := b.toNat_lt
    simp only [hexByte, List.mem_cons, List.not_mem_nil, or_false] at hc
    rcases hc with rfl | rfl
    · exact hexDigit_lt _ (by omega)
    · exact hexDigit_lt _ (by omega)

/-- **Hex digits give the bytes back**, however many. -/
theorem Hex.decode_encode (value : Bytes) : Hex.decode (strBytes (Hex.encode value)) = some value := by
  rw [strBytes_encode]
  induction value with
  | nil => rfl
  | cons b value ih =>
    have hb : b.toNat < 256 := b.toNat_lt
    have hhi := (Mac.hexDigit_spec (b.toNat / 16) (by omega)).2.1
    have hlo := (Mac.hexDigit_spec (b.toNat % 16) (by omega)).2.1
    have hbyte := Mac.pairByte_digitsOf b
    rw [pairByte, Mac.digitsOf, hhi, hlo, Option.getD_some, Option.getD_some] at hbyte
    rw [List.flatMap_cons, List.cons_append, List.cons_append, List.nil_append, decode, ih,
      Mac.digitsOf, hhi, hlo]
    simp only [hbyte]

/-! ## Keys -/

/-- The offset a key stands for: that of the parameter of this name, or the one spelled
out in it. -/
def keyOffset (k : String) : Option UInt16 :=
  match byName k with
  | some p => some p.offset
  | none =>
    if GetData.isSynthetic k then
      (parseUnsigned 65535 ((strBytes k).drop "offset_".length)).map UInt16.ofNat
    else none

theorem keyOffset_syntheticKey (offset : UInt16) :
    keyOffset (GetData.syntheticKey offset) = some offset := by
  have hsynthetic := GetData.isSynthetic_syntheticKey offset
  have hlt : offset.toNat < 65536 := offset.toNat_lt
  unfold keyOffset
  cases hname : byName (GetData.syntheticKey offset) with
  | some p =>
    -- no name of a parameter, nor an alias, begins like this
    rw [isSynthetic_knownNames _ (mem_knownNames hname)] at hsynthetic
    cases hsynthetic
  | none =>
    have hdrop : (strBytes (GetData.syntheticKey offset)).drop "offset_".length
        = decimal offset.toNat := by
      rw [GetData.strBytes_syntheticKey]
      exact List.drop_left' (by decide)
    simp only [if_pos hsynthetic]
    rw [hdrop, parseUnsigned_decimal (by omega), Option.map_some, UInt16.ofNat_toNat]

/-- **A key gives the offset back.** -/
theorem keyOffset_itemEntry (it : Item) : keyOffset (GetData.itemEntry it).1 = some it.1 := by
  cases h : byOffset it.1 with
  | some p =>
    obtain ⟨hmem, hoffset⟩ := byOffset_eq_some h
    rw [GetData.itemEntry_of_byOffset h, keyOffset, byName_name p hmem]
    exact congrArg some hoffset
  | none =>
    rw [GetData.itemEntry, h]
    exact keyOffset_syntheticKey it.1

/-! ## A response -/

/-- The map of a response still tells its items. -/
structure Recoverable (data : Bytes) (items : List Item) (m : Params) : Prop where
  /-- There are as many entries as the response says there are items, -/
  count : m.entries.length = (u16At data 0).toNat
  /-- the keys give the offsets back, each once, -/
  offsets : (m.entries.map fun e => keyOffset e.1).Perm (items.map fun it => some it.1)
  /-- and every item has an entry under such a key, from which its bytes can be read if the table
  does not know the offset. -/
  entry : ∀ it ∈ items, ∃ k v, m.get? k = some v ∧ keyOffset k = some it.1 ∧
    (byOffset it.1 = none → Hex.decode v = some it.2)

theorem nodup_keys {items : List Item} (h : (items.map Prod.fst).Nodup) :
    ((items.map GetData.itemEntry).map Prod.fst).Nodup := by
  rw [List.map_map]
  exact List.pairwise_map.mpr ((List.pairwise_map.mp h).imp fun hne heq =>
    hne (GetData.itemEntry_key_eq_iff.mp heq))

/-- **No item is lost to another** in a response in which no offset occurs twice. -/
theorem recoverable (data : Bytes) (items : List Item) (tail : Bytes) (m : Params)
    (hresponse : GetData.IsResponse data items tail) (hdistinct : (items.map Prod.fst).Nodup)
    (h : GetData.parseResponse data = .ok m) : Recoverable data items m := by
  have hm : m = OrdMap.empty.insertAll (items.map GetData.itemEntry) := by
    rw [GetData.parseResponse_of_isResponse hresponse] at h
    exact (Except.ok.inj h).symm
  have hperm := OrdMap.entries_insertAll_perm (nodup_keys hdistinct)
  rw [← hm] at hperm
  refine ⟨?_, ?_, ?_⟩
  · obtain ⟨count, hcount, rfl⟩ := hresponse.bytes
    have hread : u16At (u16ToBe count ++ (encodeItems items ++ tail)) 0 = count :=
      (u16At_eq rfl).trans (u16FromBe_toBe _)
    rw [hperm.length_eq, List.length_map, hread, hcount]
  · refine (hperm.map _).trans ?_
    rw [List.map_map]
    exact .of_eq (List.map_congr_left fun it _ => keyOffset_itemEntry it)
  · intro it hit
    refine ⟨(GetData.itemEntry it).1, (GetData.itemEntry it).2, ?_, keyOffset_itemEntry it, ?_⟩
    · exact OrdMap.mem_entries_iff.mp (hperm.mem_iff.mpr (List.mem_map_of_mem hit))
    · intro hnone
      rw [GetData.itemEntry, hnone]
      exact Hex.decode_encode it.2

/-- A response with an offset of the table and another. -/
theorem recoverable_unknown : ∃ m,
    GetData.parseResponse (responsePayload [(4, [1]), (9999, [0xDE, 0xAD])]) = .ok m ∧
      Recoverable (responsePayload [(4, [1]), (9999, [0xDE, 0xAD])]) [(4, [1]), (9999, [0xDE, 0xAD])]
        m := by
  have hresponse : GetData.IsResponse (responsePayload [(4, [1]), (9999, [0xDE, 0xAD])])
      [(4, [1]), (9999, [0xDE, 0xAD])] [] := ⟨by decide, 2, rfl, rfl⟩
  have hparse := GetData.parseResponse_of_isResponse hresponse
  exact ⟨_, hparse, recoverable _ _ _ _ hresponse (by decide) hparse⟩

end Udap
