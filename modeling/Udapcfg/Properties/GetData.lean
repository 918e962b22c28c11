import Udapcfg.Mocksbr.Network
import Udapcfg.Udap.Ops.Config

/-!
# What a `GetData` request reads

The client asks for the parameters it knows, by offset; the device walks the offsets and answers
with what it can encode; the client decodes the items into a map.

* `getDataItems_getDataPayload` — the device finds the client's offsets, up to the count that fits
* `parseResponse_getDataItems` — the map a reply decodes to is the `readout` of what was asked
* `get?_readout` — a `readout` maps each parameter asked for to the device's answer
-/

namespace Mocksbr

open Infra Udap

/-! ## The answer for one parameter -/

/-- What a device reports for a parameter, as the client renders it. -/
def DeviceState.answer (state : DeviceState) (p : Parameter) : Option Bytes :=
  p.render ((state.get p.name).getD [])

/-- The item a device sends for a parameter. -/
def DeviceState.answerItem (state : DeviceState) (p : Parameter) : Option Item :=
  match p.encode ((state.get p.name).getD []) with
  | .ok encoded => some (p.offset, encoded)
  | .error _ => none

/-- The map a client has after reading `ps`. -/
def DeviceState.readout (state : DeviceState) (ps : List Parameter) : Params :=
  OrdMap.empty.insertAll (ps.filterMap fun p => (state.answer p).map fun v => (p.name, v))

/-- What an item decodes to. -/
theorem map_itemEntry_answerItem (state : DeviceState) {p : Parameter} (hp : p ∈ parameters) :
    (state.answerItem p).map GetData.itemEntry = (state.answer p).map fun v => (p.name, v) := by
  unfold DeviceState.answerItem DeviceState.answer Parameter.render
  cases p.encode ((state.get p.name).getD []) with
  | error e => rfl
  | ok b => exact congrArg some (GetData.itemEntry_of_byOffset (byOffset_offset p hp))

theorem get?_readout (state : DeviceState) {ps : List Parameter} (hps : ∀ p ∈ ps, p ∈ parameters)
    {p : Parameter} (hp : p ∈ parameters) :
    (state.readout ps).get? p.name = if p ∈ ps then state.answer p else none := by
  -- every entry under this name is the answer for `p`
  have hentry : ∀ e ∈ ps.filterMap (fun q => (state.answer q).map fun v => (q.name, v)),
      e.1 = p.name → p ∈ ps ∧ state.answer p = some e.2 := by
    intro e he hname
    obtain ⟨q, hq, hans⟩ := List.mem_filterMap.mp he
    obtain ⟨v, hv, rfl⟩ := Option.map_eq_some_iff.mp hans
    have hqp : q = p := eq_of_name_eq (hps q hq) hp hname
    subst hqp
    exact ⟨hq, hv⟩
  rw [DeviceState.readout, OrdMap.get?_insertAll, OrdMap.get?_empty, Option.or_none]
  cases hlook : OrdMap.lookup p.name
    (ps.filterMap fun q => (state.answer q).map fun v => (q.name, v)).reverse with
  | some v =>
    have hmem := List.mem_reverse.mp (OrdMap.mem_of_lookup hlook)
    obtain ⟨hin, hans⟩ := hentry _ hmem rfl
    rw [if_pos hin, hans]
  | none =>
    split
    · next hin =>
      cases hans : state.answer p with
      | none => rfl
      | some v =>
        have hmem : (p.name, v) ∈ ps.filterMap fun q => (state.answer q).map fun v => (q.name, v) :=
          List.mem_filterMap.mpr ⟨p, hin, by rw [hans]; rfl⟩
        exact absurd rfl (OrdMap.lookup_eq_none_iff.mp hlook _ (List.mem_reverse.mpr hmem))
    · rfl

theorem get?_readout_of_not_mem (state : DeviceState) {ps : List Parameter}
    (hps : ∀ p ∈ ps, p ∈ parameters) {k : String} (hk : k ∉ names) :
    (state.readout ps).get? k = none := by
  rw [DeviceState.readout, OrdMap.get?_insertAll, OrdMap.get?_empty, Option.or_none,
    OrdMap.lookup_eq_none_iff]
  intro e he
  obtain ⟨q, hq, hans⟩ := List.mem_filterMap.mp (List.mem_reverse.mp he)
  obtain ⟨v, _, rfl⟩ := Option.map_eq_some_iff.mp hans
  rintro rfl
  exact hk (mem_names_iff.mpr ⟨q, hps q hq, rfl⟩)

/-- A readout depends on which parameters are asked for, not on how often or in which order. -/
theorem readout_eq_iff {state : DeviceState} {ps qs : List Parameter}
    (hps : ∀ p ∈ ps, p ∈ parameters) (hqs : ∀ p ∈ qs, p ∈ parameters) :
    state.readout ps = state.readout qs ↔
      ∀ p ∈ parameters, state.answer p ≠ none → (p ∈ ps ↔ p ∈ qs) := by
  constructor
  · intro h p hp hans
    have hget := congrArg (fun m => m.get? p.name) h
    simp only [get?_readout state hps hp, get?_readout state hqs hp] at hget
    by_cases hin : p ∈ ps <;> by_cases hin' : p ∈ qs <;> simp_all
  · intro h
    ext k
    by_cases hk : k ∈ names
    · obtain ⟨p, hp, rfl⟩ := mem_names_iff.mp hk
      rw [get?_readout state hps hp, get?_readout state hqs hp]
      by_cases hans : state.answer p = none
      · simp [hans]
      · simp only [h p hp hans]
    · rw [get?_readout_of_not_mem state hps hk, get?_readout_of_not_mem state hqs hk]

/-! ## The request -/

/-- The parameters of a request, in wire order. -/
def requested (params : List String) : List Parameter :=
  (params.filterMap byName).insertionSort (fun p q => p.offset ≤ q.offset)

/-- The parameters the device gets to see: the count of a request is a `u16`. -/
def answered (params : List String) : List Parameter := (requested params).take 65535

theorem mem_requested {params : List String} {p : Parameter} :
    p ∈ requested params ↔ ∃ k ∈ params, byName k = some p := by
  rw [requested, List.mem_insertionSort, List.mem_filterMap]

theorem length_requested_le (params : List String) : (requested params).length ≤ params.length := by
  rw [requested, List.length_insertionSort]
  exact List.length_filterMap_le _ _

theorem mem_parameters_of_answered {params : List String} : ∀ p ∈ answered params, p ∈ parameters :=
  fun _ hp => let ⟨_, _, hname⟩ := mem_requested.mp (List.mem_of_mem_take hp); byName_mem hname

/-- Within the count everything asked for is answered. -/
theorem mem_answered {params : List String} (h : params.length ≤ 65535) {p : Parameter} :
    p ∈ answered params ↔ ∃ k ∈ params, byName k = some p := by
  have hlen := length_requested_le params
  rw [answered, List.take_of_length_le (by omega), mem_requested]

theorem mem_answered_names {p : Parameter} (hp : p ∈ parameters) : p ∈ answered names := by
  rw [mem_answered (by decide)]
  exact ⟨p.name, mem_names_iff.mpr ⟨p, hp, rfl⟩, byName_name p hp⟩

/-- The part of a request an item takes. -/
def requestItem (item : Parameter) : Bytes := u16ToBe item.offset ++ u16ToBe item.length

/-- The walk of the device over a list of offsets. -/
theorem getDataLoop_requestItems (state : DeviceState) (payload : Bytes) :
    ∀ (n pos : Nat) (ps : List Parameter), (∀ p ∈ ps, p ∈ parameters) → n ≤ ps.length →
    payload.drop pos = ps.flatMap requestItem →
    getDataLoop state payload n pos = (ps.take n).filterMap state.answerItem
  | 0, _, _, _, _, _ => rfl
  | n + 1, pos, p :: ps, hps, hn, hdrop => by
    have hhead : payload.drop pos = UInt8.ofNat (p.offset.toNat / 256) ::
        UInt8.ofNat (p.offset.toNat % 256) :: (u16ToBe p.length ++ ps.flatMap requestItem) := hdrop
    have hrest : payload.drop (pos + 4) = ps.flatMap requestItem := by
      rw [← List.drop_drop, hhead]
      rfl
    have hlen : ¬ payload.length < pos + 4 := by
      have := congrArg List.length hhead
      rw [List.length_drop] at this
      simp only [List.length_cons, List.length_append, length_u16ToBe] at this
      omega
    have hoffset : u16At payload pos = p.offset := (u16At_eq hhead).trans (u16FromBe_toBe _)
    have ih := getDataLoop_requestItems state payload n (pos + 4) ps
      (fun q hq => hps q (List.mem_cons_of_mem _ hq)) (by simpa using hn) hrest
    rw [getDataLoop, if_neg hlen, hoffset, List.take_succ_cons, List.filterMap_cons,
      DeviceState.answerItem]
    simp only [byOffset_offset p (hps p List.mem_cons_self)]
    cases p.encode ((state.get p.name).getD []) with
    | error e => exact ih
    | ok encoded => exact congrArg _ ih

theorem getDataPayload_eq (params : List String) : getDataPayload params
    = zeros credentialFields ++ (u16ToBe (u16OrMax (requested params).length) ++
      (requested params).flatMap requestItem) := rfl

/-- **The device answers what the client asked for**, up to the count that fits. -/
theorem getDataItems_getDataPayload (state : DeviceState) (params : List String) :
    getDataItems state (getDataPayload params) = (answered params).filterMap state.answerItem := by
  have hd : (getDataPayload params).drop credentialFields
      = u16ToBe (u16OrMax (requested params).length) ++ (requested params).flatMap requestItem := by
    rw [getDataPayload_eq]
    exact List.drop_left' (length_zeros _)
  have hd2 : (getDataPayload params).drop (credentialFields + 2)
      = (requested params).flatMap requestItem := by
    rw [← List.drop_drop, hd]
    rfl
  have hcnt : u16At (getDataPayload params) credentialFields = u16OrMax (requested params).length :=
    (u16At_eq hd).trans (u16FromBe_toBe _)
  have hlen : credentialFields + 2 ≤ (getDataPayload params).length := by
    rw [getDataPayload_eq]
    simp only [List.length_append, length_zeros, length_u16ToBe]
    show 32 + 2 ≤ 32 + (2 + _)
    omega
  have hmem : ∀ p ∈ requested params, p ∈ parameters :=
    fun p hp => let ⟨_, _, hname⟩ := mem_requested.mp hp; byName_mem hname
  rw [getDataItems, if_pos hlen]
  rw [hcnt, toNat_u16OrMax_eq_min, getDataLoop_requestItems state _ _ _ _ hmem (by omega) hd2,
    answered]
  congr 1
  rw [List.take_eq_take_iff]
  omega

theorem length_answered_le (params : List String) : (answered params).length ≤ 65535 := by
  rw [answered, List.length_take]
  omega

/-- **A reply decodes to the readout of what was asked.** -/
theorem parseResponse_getDataItems (state : DeviceState) (params : List String) :
    let items := getDataItems state (getDataPayload params)
    GetData.parseResponse (u16ToBe (u16OrMax items.length) ++ encodeItems items)
      = .ok (state.readout (answered params)) := by
  rw [getDataItems_getDataPayload]
  have hcount : ((answered params).filterMap state.answerItem).length < 65536 := by
    have h₁ := List.length_filterMap_le state.answerItem (answered params)
    have h₂ := length_answered_le params
    omega
  have hfit : ∀ it ∈ (answered params).filterMap state.answerItem, it.2.length < 65536 := by
    intro it hit
    obtain ⟨p, _, hans⟩ := List.mem_filterMap.mp hit
    unfold DeviceState.answerItem at hans
    split at hans
    · next encoded henc =>
      cases hans
      rw [Parameter.length_encode henc]
      exact p.length.toNat_lt
    · simp at hans
  have hparse := GetData.parseResponse_encodeItems hcount hfit []
  rw [List.append_nil] at hparse
  simp only [hparse, DeviceState.readout, List.map_filterMap]
  congr 2
  exact List.filterMap_congr fun p hp =>
    map_itemEntry_answerItem state (mem_parameters_of_answered p hp)

end Mocksbr
