import Udapcfg.Properties.SetData

/-!
# The two halves of a `SetData` request

The client's encoder and the device's parser are written separately. Every request the one writes is
read back by the other, name by name; and the device reads a prefix of the items of a request that
was cut.

* `namedItems` — the items with the names they come from
* `recovered` — what the device reads of a request
* `parseSetDataRequest_take` — and of a cut one
* `setDataCodec` — all of it
-/

namespace Mocksbr

open Infra Udap

/-! ## Items and their names -/

/-- The known names of a map with their parameters and values, in wire order. -/
def namedItems (m : Params) : List (String × Parameter × Bytes) :=
  (m.entries.filterMap fun e => (byName e.1).map fun p => (e.1, p, e.2)).insertionSort
    (fun a b => a.2.1.offset ≤ b.2.1.offset)

/-- Without the names these are the client's items. -/
theorem map_namedItems (m : Params) : (namedItems m).map Prod.snd = knownItems m := by
  have hsort := List.map_insertionSort
    (fun a b : String × Parameter × Bytes => a.2.1.offset ≤ b.2.1.offset)
    (fun a b : Parameter × Bytes => a.1.offset ≤ b.1.offset) Prod.snd
    (m.entries.filterMap fun e => (byName e.1).map fun p => (e.1, p, e.2)) fun _ _ _ _ => Iff.rfl
  rw [namedItems, hsort, List.map_filterMap, knownItems]
  simp only [Option.map_map]
  rfl

theorem mem_namedItems {m : Params} {k : String} {p : Parameter} {v : Bytes} :
    (k, p, v) ∈ namedItems m ↔ m.get? k = some v ∧ byName k = some p := by
  rw [namedItems, List.mem_insertionSort, List.mem_filterMap]
  constructor
  · rintro ⟨⟨k', v'⟩, hmem, h⟩
    obtain ⟨p', hname, heq⟩ := Option.map_eq_some_iff.mp h
    cases heq
    exact ⟨OrdMap.mem_entries_iff.mp hmem, hname⟩
  · rintro ⟨hget, hname⟩
    exact ⟨(k, v), OrdMap.mem_entries_iff.mpr hget, by rw [hname]; rfl⟩

/-- The order on the wire: by offset, and by name where the offsets are the same. -/
def WireBefore (k k' : String) : Prop :=
  ∃ p p', byName k = some p ∧ byName k' = some p' ∧
    (p.offset < p'.offset ∨ p.offset = p'.offset ∧ k < k')

/-- **Wire order** of the names: the sort by offset leaves ties in key order. -/
theorem namedItems_order (m : Params) : ((namedItems m).map Prod.fst).Pairwise WireBefore := by
  have hentries : (m.entries.filterMap fun e => (byName e.1).map fun p => (e.1, p, e.2)).Pairwise
      fun a b => a.1 < b.1 := by
    refine List.Pairwise.filterMap _ ?_ m.sorted
    intro e e' hlt a ha b hb
    obtain ⟨p, _, rfl⟩ := Option.map_eq_some_iff.mp ha
    obtain ⟨p', _, rfl⟩ := Option.map_eq_some_iff.mp hb
    exact hlt
  have hsort := pairwise_insertionSort_of_pairwise
    (fun a b : String × Parameter × Bytes => a.2.1.offset ≤ b.2.1.offset) hentries
  refine List.pairwise_map.mpr (List.Pairwise.imp_of_mem ?_ hsort)
  rintro ⟨k, p, v⟩ ⟨k', p', v'⟩ ha hb ⟨hle, htie⟩
  refine ⟨p, p', (mem_namedItems.mp ha).2, (mem_namedItems.mp hb).2, ?_⟩
  rcases UInt16.lt_or_eq_of_le hle with hlt | heq
  · exact Or.inl hlt
  · exact Or.inr ⟨heq, htie (UInt16.le_of_eq heq.symm)⟩

/-! ## Requests -/

/-- The item that a name of a map becomes. -/
def WritesName (m : Params) (k : String) (it : Item) : Prop :=
  ∃ p ∈ parameters, ∃ v, byName k = some p ∧ m.get? k = some v ∧ it.1 = p.offset ∧
    p.encode v = .ok it.2 ∧ it.2.length = p.length.toNat ∧ toSetDataItem it = ⟨it.2, some p.name⟩

/-- The device reads a body as one item for each known name of a map, and nothing is left over. -/
structure Recovered (m : Params) (body : Bytes) (named : List String) (items : List Item) :
    Prop where
  known : ∀ k, k ∈ named ↔ m.get? k ≠ none ∧ byName k ≠ none
  order : named.Pairwise WireBefore
  item : List.Forall₂ (WritesName m) named items
  bytes : ∃ count : UInt16, count.toNat = items.length ∧
    body = zeros 32 ++ (u16ToBe count ++ encodeItems items)
  parsed : parseSetDataRequest body = items.map toSetDataItem

theorem writesName_of_mem {m : Params} {body : Bytes} (h : setDataPayload m = .ok body)
    {e : String × Parameter × Bytes} (he : e ∈ namedItems m) :
    WritesName m e.1 (wireItem e.2) := by
  obtain ⟨k, p, v⟩ := e
  obtain ⟨hget, hname⟩ := mem_namedItems.mp he
  obtain ⟨b, hb⟩ := setDataPayload_isOk_iff.mp ⟨body, h⟩ k v p hget hname
  have hbytes : encodedBytes (p, v) = b := encodedBytes_of_ok hb
  refine ⟨p, byName_mem hname, v, hname, hget, rfl, ?_, ?_, ?_⟩
  · show p.encode v = .ok (encodedBytes (p, v))
    rw [hbytes, hb]
  · show (encodedBytes (p, v)).length = p.length.toNat
    rw [hbytes, Parameter.length_encode hb]
  · rw [toSetDataItem, wireItem, byOffset_offset p (byName_mem hname)]
    rfl

/-- **What the device reads** of a request. -/
theorem recovered {m : Params} {body : Bytes} (h : setDataPayload m = .ok body) :
    ∃ named items, Recovered m body named items := by
  have hitems : (namedItems m).map (fun e => wireItem e.2) = (knownItems m).map wireItem := by
    rw [← map_namedItems, List.map_map]
    rfl
  refine ⟨(namedItems m).map Prod.fst, (namedItems m).map fun e => wireItem e.2, ?_,
    namedItems_order m, ?_, ?_, ?_⟩
  · intro k
    rw [List.mem_map, Option.ne_none_iff_exists', Option.ne_none_iff_exists']
    constructor
    · rintro ⟨⟨k', p, v⟩, he, rfl⟩
      obtain ⟨hget, hname⟩ := mem_namedItems.mp he
      exact ⟨⟨v, hget⟩, p, hname⟩
    · rintro ⟨⟨v, hget⟩, p, hname⟩
      exact ⟨(k, p, v), mem_namedItems.mpr ⟨hget, hname⟩, rfl⟩
  · rw [List.forall₂_map_left_iff, List.forall₂_map_right_iff, List.forall₂_same]
    exact fun e he => writesName_of_mem h he
  · rw [hitems]
    exact ⟨_, toNat_u16OrMax (count_wireItem m), setDataPayload_eq h⟩
  · have hparse := parseSetDataRequest_encodeItems (length_zeros Udap.credentialFields)
      (count_wireItem m) (fit_wireItem h) []
    rw [List.append_nil] at hparse
    rw [hitems, setDataPayload_eq h, hparse]

/-- There is no request exactly if a value of a known name does not encode. -/
theorem setDataPayload_error_iff {m : Params} : (∃ e, setDataPayload m = .error e) ↔
    ∃ k v p, m.get? k = some v ∧ byName k = some p ∧ ∃ e, p.encode v = .error e := by
  constructor
  · rintro ⟨e, h⟩
    by_contra hall
    obtain ⟨body, hbody⟩ := setDataPayload_isOk_iff.mpr fun k v p hget hname => by
      cases hb : p.encode v with
      | ok b => exact ⟨b, rfl⟩
      | error e => exact absurd ⟨k, v, p, hget, hname, e, hb⟩ hall
    rw [h] at hbody
    cases hbody
  · rintro ⟨k, v, p, hget, hname, e, he⟩
    cases h : setDataPayload m with
    | error e => exact ⟨e, rfl⟩
    | ok body =>
      obtain ⟨b, hb⟩ := setDataPayload_isOk_iff.mp ⟨body, h⟩ k v p hget hname
      rw [he] at hb
      cases hb

/-! ## Cut requests -/

theorem u16At_take {data : Bytes} {pos n : Nat} (h : pos + 2 ≤ n) :
    u16At (data.take n) pos = u16At data pos := by
  have hget : ∀ i, i < n → (data.take n).getD i 0 = data.getD i 0 := by
    intro i hi
    rw [List.getD_eq_getElem?_getD, List.getElem?_take_of_lt hi, List.getD_eq_getElem?_getD]
  rw [u16At, u16At, hget pos (by omega), hget (pos + 1) (by omega)]

/-- **A cut request** is read as a prefix of the whole one. -/
theorem parseSetDataRequest_take (payload : Bytes) (n : Nat) :
    parseSetDataRequest (payload.take n) <+: parseSetDataRequest payload := by
  have hlen : (payload.take n).length = min n payload.length := List.length_take
  by_cases hcut : (payload.take n).length < credentialFields + 2
  · -- not even the count is there
    rw [parseSetDataRequest, if_pos hcut]
    exact List.nil_prefix
  · rw [parseSetDataRequest, if_neg hcut, parseSetDataRequest, if_neg (by omega),
      u16At_take (by omega), setDataLoop_eq, setDataLoop_eq, List.drop_take]
    exact (takeItems_take _ _ _).map toSetDataItem

/-! ## The codec -/

/-- **The two halves agree.** -/
structure SetDataCodec : Prop where
  /-- Encoding fails for a value that its parameter rejects, and for nothing else. -/
  fails : ∀ m : Params, (∃ e, setDataPayload m = .error e) ↔
    ∃ k v p, m.get? k = some v ∧ byName k = some p ∧ ∃ e, p.encode v = .error e
  /-- What was encoded is recovered. -/
  recovers : ∀ (m : Params) (body : Bytes), setDataPayload m = .ok body →
    ∃ named items, Recovered m body named items
  /-- What was cut is recovered as far as it goes. -/
  truncates : ∀ (payload : Bytes) (n : Nat),
    parseSetDataRequest (payload.take n) <+: parseSetDataRequest payload

theorem setDataCodec : SetDataCodec where
  fails _ := setDataPayload_error_iff
  recovers _ _ := recovered
  truncates := parseSetDataRequest_take

end Mocksbr
