import Udapcfg.Properties.GetData
import Udapcfg.Properties.SetData

/-!
# A configuration laid over a cache

`set` extends a map of canonical names by the caller's map, which may use aliases.

* `lastValue_extend_of_named`, `lastValue_extend_of_unnamed` — which value a parameter ends up with
* `answer_write` — what the device reports after a write
-/

namespace Udap

open Infra

/-! ## Canonical names come first -/

/-- A canonical name is in front of its aliases. -/
theorem name_le {k : String} {p : Parameter} (h : byName k = some p) : p.name ≤ k := by
  have halias : ∀ a ∈ aliases, a.2 ≤ a.1 := by decide +kernel
  rcases (byName_eq_some h).2 with hname | hmem
  · exact le_of_eq hname
  · exact halias _ hmem

/-- The map names `p` by its canonical name, if at all. -/
def CanonicalFor (m : Params) (p : Parameter) : Prop :=
  ∀ k, byName k = some p → m.get? k ≠ none → k = p.name

/-- `config` names `p` with the value `v`. -/
def Names (config : Params) (p : Parameter) (v : Bytes) : Prop :=
  ∃ k, byName k = some p ∧ config.get? k = some v

/-- Every known name of the map has a value that encodes. -/
def Encodable (config : Params) : Prop :=
  ∀ k v p, config.get? k = some v → byName k = some p → ∃ b, p.encode v = .ok b

/-- No two names of the map are of the same parameter. -/
def OneName (config : Params) : Prop :=
  ∀ k k' p, byName k = some p → byName k' = some p → config.get? k ≠ none →
    config.get? k' ≠ none → k = k'

/-- No name of the map is one of `p`. -/
def Unnamed (config : Params) (p : Parameter) : Prop := ∀ k, byName k = some p → config.get? k = none

theorem not_unnamed_iff {config : Params} {p : Parameter} :
    ¬ Unnamed config p ↔ ∃ v, Names config p v := by
  constructor
  · intro h
    simp only [Unnamed, not_forall] at h
    obtain ⟨k, hname, hget⟩ := h
    obtain ⟨v, hv⟩ := Option.ne_none_iff_exists'.mp hget
    exact ⟨v, k, hname, hv⟩
  · rintro ⟨v, k, hname, hget⟩ h
    rw [h k hname] at hget
    simp at hget

theorem CanonicalFor.extend {m config : Params} {p : Parameter} (hm : CanonicalFor m p)
    (hc : CanonicalFor config p) : CanonicalFor (m.extend config) p := by
  intro k hname hget
  rw [OrdMap.get?_extend] at hget
  by_cases hk : config.get? k = none
  · rw [hk, Option.none_or] at hget
    exact hm k hname hget
  · exact hc k hname hk

theorem Encodable.extend {m config : Params} (hm : Encodable m) (hc : Encodable config) :
    Encodable (m.extend config) := by
  intro k v p hget hname
  rw [OrdMap.get?_extend] at hget
  cases hk : config.get? k with
  | some w =>
    rw [hk, Option.some_or] at hget
    cases hget
    exact hc k v p hk hname
  | none =>
    rw [hk, Option.none_or] at hget
    exact hm k v p hget hname

theorem lastValue_of_canonical {m : Params} {p : Parameter} (hp : p ∈ parameters)
    (h : CanonicalFor m p) : lastValue m p = m.get? p.name := by
  cases hget : m.get? p.name with
  | none =>
    rw [lastValue_eq_none_iff]
    intro k hk
    by_contra hne
    rw [h k hk hne] at hne
    exact hne hget
  | some v =>
    rw [lastValue_eq_some_iff]
    exact ⟨p.name, byName_name p hp, hget, fun k' hk' hne => le_of_eq (h k' hk' hne)⟩

/-- Of one value under the canonical name there is one entry. -/
theorem filter_resolved_of_canonical {m : Params} {p : Parameter} {v : Bytes}
    (hp : p ∈ parameters) (h : CanonicalFor m p) (hv : m.get? p.name = some v) :
    (resolved m).filter (fun e => e.1 = p) = [(p, v)] := by
  have hkeys : m.entries.filter (fun e => byName e.1 = some p)
      = m.entries.filter (fun e => e.1 = p.name) := by
    refine List.filter_congr ?_
    intro e he
    have hiff : byName e.1 = some p ↔ e.1 = p.name := by
      constructor
      · intro hname
        exact h e.1 hname (by rw [OrdMap.mem_entries_iff.mp he]; simp)
      · intro hname
        rw [hname, byName_name p hp]
    simp only [hiff]
  rw [filter_resolved, hkeys, OrdMap.filter_entries hv]
  rfl

/-- What the configuration does not name keeps its value. -/
theorem lastValue_extend_of_unnamed {m config : Params} {p : Parameter} (h : Unnamed config p) :
    lastValue (m.extend config) p = lastValue m p := by
  refine lastValue_congr fun k hk => ?_
  rw [OrdMap.get?_extend, h k hk, Option.none_or]

/-- Over canonical names, what the configuration names gets its value. -/
theorem lastValue_extend_of_named {m config : Params} {p : Parameter} {v : Bytes}
    (hm : CanonicalFor m p) (hone : OneName config) (h : Names config p v) :
    lastValue (m.extend config) p = some v := by
  obtain ⟨k, hname, hget⟩ := h
  rw [lastValue_eq_some_iff]
  refine ⟨k, hname, by rw [OrdMap.get?_extend, hget, Option.some_or], ?_⟩
  intro k' hname' hget'
  rw [OrdMap.get?_extend] at hget'
  cases hc : config.get? k' with
  | some w =>
    exact le_of_eq (hone k' k p hname' hname (by simp [hc]) (by simp [hget]))
  | none =>
    rw [hc, Option.none_or] at hget'
    rw [hm k' hname' hget']
    exact name_le hname

/-! ## A configuration of one entry -/

/-- One name with a text as its value. -/
def single (name value : String) : Params := OrdMap.empty.insert name (strBytes value)

theorem get?_single_some {name value k : String} {v : Bytes}
    (h : (single name value).get? k = some v) : k = name ∧ v = strBytes value := by
  rw [single, OrdMap.get?_insert] at h
  split at h
  · next hk => exact ⟨hk, (Option.some.inj h).symm⟩
  · simp at h

theorem oneName_single (name value : String) : OneName (single name value) := by
  intro k k' p _ _ hget hget'
  obtain ⟨v, hv⟩ := Option.ne_none_iff_exists'.mp hget
  obtain ⟨v', hv'⟩ := Option.ne_none_iff_exists'.mp hget'
  rw [(get?_single_some hv).1, (get?_single_some hv').1]

theorem encodable_single {name value : String} {p : Parameter} {b : Bytes}
    (hname : byName name = some p) (h : p.encode (strBytes value) = .ok b) :
    Encodable (single name value) := by
  intro k v q hget hk
  obtain ⟨rfl, rfl⟩ := get?_single_some hget
  rw [hname] at hk
  cases hk
  exact ⟨b, h⟩

/-- Two rows of the table. -/
def hostnameParam : Parameter := ⟨"hostname", 17, 33, ""⟩

def lanIpModeParam : Parameter := ⟨"lan_ip_mode", 4, 1, "1"⟩

theorem byName_hostname : byName "hostname" = some hostnameParam := by decide +kernel

theorem byName_lanIpMode : byName "lan_ip_mode" = some lanIpModeParam := by decide +kernel

end Udap

namespace Mocksbr

open Infra Udap

/-! ## The device after a write -/

/-- What a write leaves in the device. -/
def DeviceState.write (state : DeviceState) (body : Bytes) : DeviceState :=
  (state.applySet (setDataUpdates (parseSetDataRequest body))).applySave

variable {state : DeviceState} {m : Params} {body : Bytes} {p : Parameter}

/-- **The stored value after a write.** -/
theorem get_write (h : setDataPayload m = .ok body) (hp : p ∈ parameters) :
    (state.write body).get p.name = ((lastValue m p).bind p.render).or (state.get p.name) := by
  have hget := get?_setDataUpdates h hp
  exact (OrdMap.get?_extend _ _ _).trans (by rw [hget]; rfl)

/-- A value that was written has a rendering. -/
theorem render_lastValue (h : setDataPayload m = .ok body) {v : Bytes}
    (hv : lastValue m p = some v) : ∃ b, p.encode v = .ok b ∧
      p.render v = some (GetData.formatValue b) := by
  obtain ⟨k, hname, hget, _⟩ := lastValue_eq_some_iff.mp hv
  obtain ⟨b, hb⟩ := setDataPayload_isOk_iff.mp ⟨body, h⟩ k v p hget hname
  exact ⟨b, hb, Parameter.render_of_encode hb⟩

theorem get_write_of_some (h : setDataPayload m = .ok body) (hp : p ∈ parameters) {v : Bytes}
    (hv : lastValue m p = some v) : (state.write body).get p.name = p.render v := by
  obtain ⟨b, _, hr⟩ := render_lastValue h hv
  rw [get_write h hp, hv, Option.bind_some, hr, Option.some_or]

theorem get_write_of_none (h : setDataPayload m = .ok body) (hp : p ∈ parameters)
    (hv : lastValue m p = none) : (state.write body).get p.name = state.get p.name := by
  rw [get_write h hp, hv, Option.bind_none, Option.none_or]

/-- **What the device reports after a write**: the rendering of the last value. -/
theorem answer_write_of_some (h : setDataPayload m = .ok body) (hp : p ∈ parameters) {v : Bytes}
    (hv : lastValue m p = some v) : (state.write body).answer p = p.render v := by
  obtain ⟨b, _, hr⟩ := render_lastValue h hv
  rw [DeviceState.answer, get_write_of_some h hp hv, hr, Option.getD_some,
    Parameter.render_render hr]

theorem answer_write_of_none (h : setDataPayload m = .ok body) (hp : p ∈ parameters)
    (hv : lastValue m p = none) : (state.write body).answer p = state.answer p := by
  rw [DeviceState.answer, get_write_of_none h hp hv, DeviceState.answer]

/-- A device reports what it reported before when its own answer is written back. -/
theorem render_answer {r : Bytes} (h : state.answer p = some r) : p.render r = some r :=
  Parameter.render_render h

/-! ## The cache after a read -/

theorem canonicalFor_readout (state : DeviceState) {ps : List Parameter}
    (hps : ∀ q ∈ ps, q ∈ parameters) (p : Parameter) : CanonicalFor (state.readout ps) p := by
  intro k hname hget
  by_cases hk : k ∈ names
  · obtain ⟨q, hq, rfl⟩ := mem_names_iff.mp hk
    rw [byName_name q hq] at hname
    rw [Option.some.inj hname]
  · exact absurd (get?_readout_of_not_mem state hps hk) hget

/-- A full read maps every name to the answer of the device. -/
theorem get?_readout_names (state : DeviceState) (hp : p ∈ parameters) :
    (state.readout (answered names)).get? p.name = state.answer p := by
  rw [get?_readout state mem_parameters_of_answered hp, if_pos (mem_answered_names hp)]

theorem lastValue_readout_names (state : DeviceState) (hp : p ∈ parameters) :
    lastValue (state.readout (answered names)) p = state.answer p := by
  rw [lastValue_of_canonical hp (canonicalFor_readout state mem_parameters_of_answered p),
    get?_readout_names state hp]

/-- What a device reports encodes. -/
theorem encodable_readout (state : DeviceState) : Encodable (state.readout (answered names)) := by
  intro k v q hget hname
  have hne : (state.readout (answered names)).get? k ≠ none := by simp [hget]
  have hk := canonicalFor_readout state mem_parameters_of_answered q k hname hne
  rw [hk, get?_readout_names state (byName_mem hname)] at hget
  obtain ⟨b, hb, _⟩ := Parameter.encode_of_render (render_answer hget)
  exact ⟨b, hb⟩

/-- **A configuration over a full read can be sent** if its own values encode. -/
theorem setDataPayload_readout_isOk (state : DeviceState) {config : Params}
    (h : Encodable config) :
    ∃ body, setDataPayload ((state.readout (answered names)).extend config) = .ok body :=
  setDataPayload_isOk_iff.mpr ((encodable_readout state).extend h)

end Mocksbr
