import Udapcfg.Infra.StableSort
import Udapcfg.Mocksbr.Network
import Udapcfg.Udap.Ops.Config

/-!
# What a `SetData` request says and does

The client writes one item for every known name of a map, by offset; the device applies the items in
order. Two names of one parameter become two items, and the last one wins: as the sort is stable,
that is the last name in key order.

* `setDataPayload_isOk_iff` — when there is a request at all
* `parseSetDataRequest_setDataPayload` — the device reads the client's items
* `get?_setDataUpdates` — each parameter gets the rendering of its `lastValue`
-/

namespace Udap

open Infra

/-! ## Names of one parameter -/

/-- The entries the table knows, with their parameter, in key order. -/
def resolved (m : Params) : List (Parameter × Bytes) :=
  m.entries.filterMap fun e => (byName e.1).map fun p => (p, e.2)

/-- The value of the last name of `p`, in key order. -/
def lastValue (m : Params) (p : Parameter) : Option Bytes :=
  ((m.entries.filter fun e => byName e.1 = some p).getLast?).map Prod.snd

theorem mem_resolved {m : Params} {p : Parameter} {v : Bytes} :
    (p, v) ∈ resolved m ↔ ∃ k, m.get? k = some v ∧ byName k = some p := by
  rw [resolved, List.mem_filterMap]
  constructor
  · rintro ⟨⟨k, v'⟩, hmem, h⟩
    rw [Option.map_eq_some_iff] at h
    obtain ⟨q, hq, heq⟩ := h
    cases heq
    exact ⟨k, OrdMap.mem_entries_iff.mp hmem, hq⟩
  · rintro ⟨k, hget, hname⟩
    exact ⟨(k, v), OrdMap.mem_entries_iff.mpr hget, by rw [hname]; rfl⟩

/-- Of the entries of one parameter only the values are left. -/
theorem filter_resolved (m : Params) (p : Parameter) :
    (resolved m).filter (fun e => e.1 = p)
      = (m.entries.filter fun e => byName e.1 = some p).map fun e => (p, e.2) := by
  unfold resolved
  induction m.entries with
  | nil => rfl
  | cons e rest ih =>
    rw [List.filterMap_cons, List.filter_cons]
    cases h : byName e.1 with
    | none => simpa [h] using ih
    | some q =>
      by_cases hq : q = p
      · simpa [hq] using ih
      · simpa [hq] using ih

theorem lastValue_eq_none_iff {m : Params} {p : Parameter} :
    lastValue m p = none ↔ ∀ k, byName k = some p → m.get? k = none := by
  rw [lastValue, Option.map_eq_none_iff, List.getLast?_eq_none_iff, List.filter_eq_nil_iff]
  constructor
  · intro h k hk
    cases hget : m.get? k with
    | none => rfl
    | some v => exact absurd (by simpa using hk) (h (k, v) (OrdMap.mem_entries_iff.mpr hget))
  · intro h e he hname
    have hget := OrdMap.mem_entries_iff.mp he
    rw [h e.1 (by simpa using hname)] at hget
    simp at hget

/-- The last name is the greatest. -/
theorem lastValue_eq_some_iff {m : Params} {p : Parameter} {v : Bytes} :
    lastValue m p = some v ↔ ∃ k, byName k = some p ∧ m.get? k = some v ∧
      ∀ k', byName k' = some p → m.get? k' ≠ none → k' ≤ k := by
  have hsorted := m.sorted.filter (fun e => decide (byName e.1 = some p))
  rw [lastValue, Option.map_eq_some_iff]
  constructor
  · rintro ⟨⟨k, v'⟩, hlast, rfl⟩
    obtain ⟨init, hinit⟩ := List.getLast?_eq_some_iff.mp hlast
    have hmem := List.mem_filter.mp (List.mem_of_getLast? hlast)
    refine ⟨k, by simpa using hmem.2, OrdMap.mem_entries_iff.mp hmem.1, ?_⟩
    intro k' hname hget
    obtain ⟨w, hw⟩ := Option.ne_none_iff_exists'.mp hget
    have hmem' : (k', w) ∈ init ++ [(k, v')] := by
      rw [← hinit]
      exact List.mem_filter.mpr ⟨OrdMap.mem_entries_iff.mpr hw, by simpa using hname⟩
    rcases List.mem_append.mp hmem' with h | h
    · rw [hinit, List.pairwise_append] at hsorted
      exact le_of_lt (hsorted.2.2 _ h _ List.mem_cons_self)
    · rw [List.mem_singleton] at h
      cases h
      exact le_refl k
  · rintro ⟨k, hname, hget, hmax⟩
    have hmem : (k, v) ∈ m.entries.filter fun e => byName e.1 = some p :=
      List.mem_filter.mpr ⟨OrdMap.mem_entries_iff.mpr hget, by simpa using hname⟩
    cases hlast : (m.entries.filter fun e => byName e.1 = some p).getLast? with
    | none =>
      rw [List.getLast?_eq_none_iff.mp hlast] at hmem
      simp at hmem
    | some e =>
      refine ⟨e, rfl, ?_⟩
      obtain ⟨init, hinit⟩ := List.getLast?_eq_some_iff.mp hlast
      rw [hinit] at hmem hsorted
      rcases List.mem_append.mp hmem with h | h
      · -- an entry in front of the last has a smaller key
        have hlt := (List.pairwise_append.mp hsorted).2.2 _ h _ List.mem_cons_self
        have he := List.mem_filter.mp (List.mem_of_getLast? hlast)
        have hle := hmax e.1 (by simpa using he.2)
          (by rw [OrdMap.mem_entries_iff.mp he.1]; simp)
        exact absurd hlt (not_lt.mpr hle)
      · rw [List.mem_singleton] at h
        rw [← h]

/-- Only what the names of `p` map to counts. -/
theorem lastValue_congr {m m' : Params} {p : Parameter}
    (h : ∀ k, byName k = some p → m.get? k = m'.get? k) : lastValue m p = lastValue m' p := by
  cases hv : lastValue m' p with
  | none =>
    rw [lastValue_eq_none_iff] at hv ⊢
    exact fun k hk => (h k hk).trans (hv k hk)
  | some v =>
    rw [lastValue_eq_some_iff] at hv ⊢
    obtain ⟨k, hname, hget, hmax⟩ := hv
    exact ⟨k, hname, (h k hname).trans hget,
      fun k' hname' hget' => hmax k' hname' (by rwa [← h k' hname'])⟩

/-! ## The request -/

/-- The bytes of an item, empty where they do not encode. -/
def encodedBytes (e : Parameter × Bytes) : Bytes :=
  match e.1.encode e.2 with
  | .ok b => b
  | .error _ => []

/-- The item `encode_params` writes. -/
def wireItem (e : Parameter × Bytes) : Item := (e.1.offset, encodedBytes e)

theorem encodedBytes_of_ok {e : Parameter × Bytes} {b : Bytes} (h : e.1.encode e.2 = .ok b) :
    encodedBytes e = b := by rw [encodedBytes, h]

theorem encodeItem_wireItem {e : Parameter × Bytes} {b : Bytes} (h : e.1.encode e.2 = .ok b) :
    encodeItem (wireItem e) = u16ToBe e.1.offset ++ (u16ToBe e.1.length ++ b) := by
  have hlt : e.1.length.toNat < 65536 := e.1.length.toNat_lt
  rw [encodeItem, wireItem, encodedBytes_of_ok h, Parameter.length_encode h, u16OrMax, if_pos hlt,
    UInt16.ofNat_toNat]

/-- The loop over the items fails if one does, and else writes them all. -/
theorem encodeParams_eq : ∀ (items : List (Parameter × Bytes)),
    (∀ e ∈ items, ∃ b, e.1.encode e.2 = .ok b) →
    encodeParams items = .ok (encodeItems (items.map wireItem))
  | [], _ => rfl
  | e :: rest, h => by
    obtain ⟨b, hb⟩ := h e List.mem_cons_self
    rw [encodeParams, hb, encodeParams_eq rest (fun x hx => h x (List.mem_cons_of_mem _ hx))]
    simp only [List.map_cons, encodeItems_cons, encodeItem_wireItem hb, List.append_assoc]

theorem encodeParams_ok : ∀ {items : List (Parameter × Bytes)} {out : Bytes},
    encodeParams items = .ok out → ∀ e ∈ items, ∃ b, e.1.encode e.2 = .ok b
  | [], _, _, e, he => by simp at he
  | e₁ :: rest, out, h, e, he => by
    unfold encodeParams at h
    split at h
    · simp at h
    · next b hb =>
      split at h
      · simp at h
      · next out' hrest =>
        rcases List.mem_cons.mp he with rfl | he
        · exact ⟨b, hb⟩
        · exact encodeParams_ok hrest e he

theorem mem_knownItems {m : Params} {e : Parameter × Bytes} :
    e ∈ knownItems m ↔ e ∈ resolved m := List.mem_insertionSort _

/-- The map can be sent. -/
def Sendable (m : Params) : Prop := ∃ body, setDataPayload m = .ok body

/-- **There is a request** exactly if every value of a known name encodes. -/
theorem setDataPayload_isOk_iff {m : Params} :
    (∃ body, setDataPayload m = .ok body) ↔
      ∀ k v p, m.get? k = some v → byName k = some p → ∃ b, p.encode v = .ok b := by
  constructor
  · rintro ⟨body, h⟩ k v p hget hname
    rw [setDataPayload] at h
    split at h
    · simp at h
    · next out hout =>
      exact encodeParams_ok hout (p, v) (mem_knownItems.mpr (mem_resolved.mpr ⟨k, hget, hname⟩))
  · intro h
    have hall : ∀ e ∈ knownItems m, ∃ b, e.1.encode e.2 = .ok b := by
      intro e he
      obtain ⟨k, hget, hname⟩ := mem_resolved.mp (mem_knownItems.mp he)
      exact h k e.2 e.1 hget hname
    unfold setDataPayload
    simp only [encodeParams_eq _ hall]
    exact ⟨_, rfl⟩

/-! ## How many items there can be -/

/-- Every name `by_name` resolves. -/
def knownNames : List String := names ++ aliases.map Prod.fst

theorem mem_knownNames {k : String} {p : Parameter} (h : byName k = some p) : k ∈ knownNames := by
  rcases (byName_eq_some h).2 with hname | halias
  · exact List.mem_append_left _ (mem_names_iff.mpr ⟨p, byName_mem h, hname⟩)
  · exact List.mem_append_right _ (List.mem_map_of_mem halias)

theorem length_resolved_le (m : Params) : (resolved m).length ≤ 28 := by
  have hlen : (resolved m).length
      = ((m.entries.filter fun e => (byName e.1).isSome).map Prod.fst).length := by
    rw [resolved, List.length_map]
    induction m.entries with
    | nil => rfl
    | cons e rest ih =>
      rw [List.filterMap_cons, List.filter_cons]
      cases h : byName e.1 with
      | none => simpa using ih
      | some p => simpa using ih
  have hnodup : ((m.entries.filter fun e => (byName e.1).isSome).map Prod.fst).Nodup :=
    (OrdMap.nodup_keys m.sorted).sublist (List.filter_sublist.map _)
  have hsub : (m.entries.filter fun e => (byName e.1).isSome).map Prod.fst ⊆ knownNames := by
    intro k hk
    obtain ⟨e, he, rfl⟩ := List.mem_map.mp hk
    obtain ⟨p, hp⟩ := Option.isSome_iff_exists.mp (List.mem_filter.mp he).2
    exact mem_knownNames hp
  rw [hlen]
  exact List.Nodup.length_le_of_subset hnodup hsub

theorem length_knownItems_le (m : Params) : (knownItems m).length ≤ 28 := by
  unfold knownItems
  exact (List.length_insertionSort _ _).trans_le (length_resolved_le m)

theorem encode_of_mem {m : Params} {body : Bytes} (h : setDataPayload m = .ok body) :
    ∀ e ∈ knownItems m, ∃ b, e.1.encode e.2 = .ok b := by
  intro e he
  obtain ⟨k, hget, hname⟩ := mem_resolved.mp (mem_knownItems.mp he)
  exact setDataPayload_isOk_iff.mp ⟨body, h⟩ k e.2 e.1 hget hname

/-- Header fields aside, a request is the count and the items. -/
theorem setDataPayload_eq {m : Params} {body : Bytes} (h : setDataPayload m = .ok body) :
    body = zeros credentialFields ++ (u16ToBe (u16OrMax ((knownItems m).map wireItem).length) ++
      encodeItems ((knownItems m).map wireItem)) := by
  unfold setDataPayload at h
  simp only [encodeParams_eq _ (encode_of_mem (by rw [setDataPayload]; exact h))] at h
  cases h
  rw [List.length_map]

/-- The items of a request body, read at their positions. -/
def writtenItems (body : Bytes) : List Item :=
  takeItems (u16At body credentialFields).toNat (body.drop (credentialFields + 2))

theorem fit_wireItem {m : Params} {body : Bytes} (h : setDataPayload m = .ok body) :
    ∀ it ∈ (knownItems m).map wireItem, it.2.length < 65536 := by
  intro it hit
  obtain ⟨e, he, rfl⟩ := List.mem_map.mp hit
  obtain ⟨b, hb⟩ := encode_of_mem h e he
  rw [wireItem, encodedBytes_of_ok hb, Parameter.length_encode hb]
  exact e.1.length.toNat_lt

theorem count_wireItem (m : Params) : ((knownItems m).map wireItem).length < 65536 := by
  rw [List.length_map]
  have := length_knownItems_le m
  omega

/-- **A request carries one item for each known name**, by offset. -/
theorem writtenItems_setDataPayload {m : Params} {body : Bytes} (h : setDataPayload m = .ok body) :
    writtenItems body = (knownItems m).map wireItem := by
  have heq := setDataPayload_eq h
  have hd : body.drop credentialFields
      = u16ToBe (u16OrMax ((knownItems m).map wireItem).length) ++
        encodeItems ((knownItems m).map wireItem) := by
    rw [heq]
    exact List.drop_left' (length_zeros _)
  have hd2 : body.drop (credentialFields + 2)
      = encodeItems ((knownItems m).map wireItem) ++ [] := by
    rw [← List.drop_drop, hd, List.append_nil]
    rfl
  have hcnt : u16At body credentialFields = u16OrMax ((knownItems m).map wireItem).length :=
    (u16At_eq hd).trans (u16FromBe_toBe _)
  rw [writtenItems, hcnt, hd2, toNat_u16OrMax (count_wireItem m),
    takeItems_encodeItems (fit_wireItem h) _ (Nat.le_refl _), List.take_length]

/-- The items at the offset of one parameter. -/
theorem filter_writtenItems {m : Params} {body : Bytes} (h : setDataPayload m = .ok body)
    {p : Parameter} (hp : p ∈ parameters) :
    (writtenItems body).filter (fun it => it.1 = p.offset)
      = ((knownItems m).filter fun e => e.1 = p).map wireItem := by
  rw [writtenItems_setDataPayload h, List.filter_map]
  congr 1
  refine List.filter_congr ?_
  intro e he
  obtain ⟨k, _, hname⟩ := mem_resolved.mp (mem_knownItems.mp he)
  have hoffset : e.1.offset = p.offset ↔ e.1 = p :=
    ⟨eq_of_offset_eq (byName_mem hname) hp, fun heq => by rw [heq]⟩
  simp only [Function.comp_apply, wireItem, hoffset]

/-- Sorting by offset leaves the items of one parameter in key order. -/
theorem filter_knownItems (m : Params) (p : Parameter) :
    (knownItems m).filter (fun e => e.1 = p) = (resolved m).filter (fun e => e.1 = p) := by
  refine filter_insertionSort _ ?_
  intro a _ b _ ha hb
  rw [decide_eq_true_eq] at ha hb
  rw [ha, hb]
  exact UInt16.le_refl _

end Udap

namespace Mocksbr

open Infra Udap

/-! ## What the device makes of it -/

/-- What the device reads of an item. -/
def readItem (e : Parameter × Bytes) : SetDataItem := ⟨encodedBytes e, some e.1.name⟩

/-- **The device reads the client's items**, each with the name of its parameter. -/
theorem parseSetDataRequest_setDataPayload {m : Params} {body : Bytes}
    (h : setDataPayload m = .ok body) :
    parseSetDataRequest body = (knownItems m).map readItem := by
  have hparse := parseSetDataRequest_encodeItems (length_zeros Udap.credentialFields)
    (count_wireItem m) (fit_wireItem h) []
  rw [List.append_nil] at hparse
  rw [setDataPayload_eq h, hparse, List.map_map]
  refine List.map_congr_left ?_
  intro e he
  obtain ⟨k, _, hname⟩ := mem_resolved.mp (mem_knownItems.mp he)
  rw [Function.comp, toSetDataItem, wireItem, readItem, byOffset_offset _ (byName_mem hname)]
  rfl

/-- Of the items of one parameter the last is that of the last name. -/
theorem getLast?_knownItems (m : Params) (p : Parameter) :
    (((knownItems m).filter fun e => e.1 = p).getLast?) = (lastValue m p).map fun v => (p, v) := by
  rw [filter_knownItems, filter_resolved, List.getLast?_map, lastValue, Option.map_map]
  rfl

theorem setDataUpdates_eq {m : Params} {body : Bytes} (h : setDataPayload m = .ok body) :
    setDataUpdates (parseSetDataRequest body) = OrdMap.empty.insertAll
      ((knownItems m).map fun e => (e.1.name, GetData.formatValue (encodedBytes e))) := by
  rw [setDataUpdates, parseSetDataRequest_setDataPayload h, List.filterMap_map]
  congr 1
  rw [← List.filterMap_eq_map]
  refine List.filterMap_congr ?_
  intro e _
  simp [readItem, decodeParamValue_eq_formatValue]

/-- **Every parameter gets the rendering of its last value**, and stays as it is without one. -/
theorem get?_setDataUpdates {m : Params} {body : Bytes} (h : setDataPayload m = .ok body)
    {p : Parameter} (hp : p ∈ parameters) :
    (setDataUpdates (parseSetDataRequest body)).get? p.name = (lastValue m p).bind p.render := by
  have hkey : ∀ e ∈ knownItems m, (e.1.name = p.name ↔ e.1 = p) := by
    intro e he
    obtain ⟨k, _, hname⟩ := mem_resolved.mp (mem_knownItems.mp he)
    exact ⟨eq_of_name_eq (byName_mem hname) hp, fun heq => by rw [heq]⟩
  -- the device keeps the last item of the parameter
  rw [setDataUpdates_eq h, OrdMap.get?_insertAll, OrdMap.lookup_reverse, List.filter_map]
  have hfilter : (knownItems m).filter
        ((fun e : String × Bytes => decide (e.1 = p.name)) ∘
          fun e => (e.1.name, GetData.formatValue (encodedBytes e)))
      = (knownItems m).filter fun e => e.1 = p := by
    refine List.filter_congr ?_
    intro e he
    simpa using hkey e he
  rw [hfilter, List.getLast?_map, getLast?_knownItems]
  cases hv : lastValue m p with
  | none => rfl
  | some v =>
    obtain ⟨k, hname, hget, _⟩ := lastValue_eq_some_iff.mp hv
    obtain ⟨b, hb⟩ := setDataPayload_isOk_iff.mp ⟨body, h⟩ k v p hget hname
    simp [Parameter.render_of_encode hb, encodedBytes_of_ok (e := (p, v)) hb]

end Mocksbr
