import Udapcfg.Properties.Exchange

/-!
# A set and a later get

On a network without faults a `set` on a fresh handle is visible to every later `get`, and only
there.

* `set_then_get` — for lists of at most 65535 names, with or without a reset in between
* `set_then_get_overlong` — beyond that the count of the request is cut, and names are lost
-/

namespace Mocksbr

open Infra Udap

/-! ## Reads before and after -/

variable {n : Network} {i : Nat} {cfg : DeviceConfig} {state : DeviceState} {device : Device}

/-- What a `get` returns after a write that laid `config` over a full read. -/
structure VisibleIn (config : Params) (params : List String) (before after : Params) : Prop where
  /-- A name that was set is rendered from the bytes its value encodes to. -/
  set : ∀ p ∈ parameters, (∃ k ∈ params, byName k = some p) → ∀ v, Names config p v →
    ∃ b, p.encode v = .ok b ∧ after.get? p.name = some (GetData.formatValue b)
  /-- Every other key is as before, there or absent. -/
  rest : ∀ k, (∀ p ∈ parameters, p.name = k → (∃ k' ∈ params, byName k' = some p) →
    Unnamed config p) → after.get? k = before.get? k

/-- The two readouts around a write. -/
theorem visibleIn_readout {config : Params} {body : Bytes} (hone : OneName config)
    (hbody : setDataPayload ((state.readout (answered names)).extend config) = .ok body)
    {params : List String} (hparams : params.length ≤ 65535) :
    VisibleIn config params (state.readout (answered params))
      ((state.write body).readout (answered params)) := by
  constructor
  · intro p hp hasked v hv
    have hlast : lastValue ((state.readout (answered names)).extend config) p = some v :=
      lastValue_extend_of_named (canonicalFor_readout state mem_parameters_of_answered p) hone hv
    obtain ⟨b, hb, hr⟩ := render_lastValue hbody hlast
    refine ⟨b, hb, ?_⟩
    rw [get?_readout _ mem_parameters_of_answered hp, if_pos ((mem_answered hparams).mpr hasked),
      answer_write_of_some hbody hp hlast, hr]
  · intro k hk
    by_cases hname : k ∈ names
    · obtain ⟨p, hp, rfl⟩ := mem_names_iff.mp hname
      rw [get?_readout _ mem_parameters_of_answered hp, get?_readout _ mem_parameters_of_answered hp]
      split
      · next hasked =>
        have hunnamed := hk p hp rfl ((mem_answered hparams).mp hasked)
        have hlast := lastValue_extend_of_unnamed (m := state.readout (answered names)) hunnamed
        rw [lastValue_readout_names state hp] at hlast
        cases hans : state.answer p with
        | none => rw [answer_write_of_none hbody hp (hlast.trans hans), hans]
        | some r =>
          rw [answer_write_of_some hbody hp (hlast.trans hans), render_answer hans]
      · rfl
    · rw [get?_readout_of_not_mem _ mem_parameters_of_answered hname,
        get?_readout_of_not_mem _ mem_parameters_of_answered hname]

/-- A reset after a write finds what was written. -/
theorem applyReset_write (state : DeviceState) (body : Bytes) :
    (state.write body).applyReset = state.write body := rfl

/-- Runs a reset, or does not. -/
def maybeReset (rebooted : Bool) (device : Device) (s : Session MockTransport) :
    Session MockTransport :=
  if rebooted then (reset MockTransport.transport device s).2 else s

/--
A `set` of `config` succeeds; after it, and after a reset or none, a `get` of any list of at most
65535 names is the one before the `set` with `config` in it, and the other devices answer as before.
-/
def SetThenGet (n : Network) (i : Nat) (device : Device) (config : Params) (sequence : UInt16)
    (rebooted : Bool) : Prop :=
  ∃ device' s', Udap.set MockTransport.transport device config (idle n sequence)
      = (.ok (), device', s') ∧
    (∀ params : List String, params.length ≤ 65535 → ∃ before after,
      (get MockTransport.transport device params (idle n sequence)).1 = .ok before ∧
      (get MockTransport.transport device' params (maybeReset rebooted device' s')).1 = .ok after ∧
      VisibleIn config params before after) ∧
    ∀ j cfg₂ device₂, j ≠ i → n.devices[j]? = some cfg₂ → Addresses device₂ cfg₂ →
      ∀ params : List String,
        (get MockTransport.transport device₂ params (maybeReset rebooted device' s')).1
          = (get MockTransport.transport device₂ params (idle n sequence)).1

/--
**What was set is what a later `get` returns**, and nothing else changes: not for the other names,
not for the other devices.
-/
theorem set_then_get (hosts : n.Hosts i cfg state) (hfault : ∀ c ∈ n.devices, c.FaultFree)
    (haddr : Addresses device cfg) (hfresh : device.parameters = OrdMap.empty) {config : Params}
    (hone : OneName config) (hencode : Encodable config) (sequence : UInt16) (rebooted : Bool) :
    SetThenGet n i device config sequence rebooted := by
  have hcfg : cfg.FaultFree := hfault cfg (List.mem_of_getElem? hosts.device)
  have hload : loaded device state = state.readout (answered names) := by
    rw [loaded, hfresh]
    rfl
  obtain ⟨body, hbody⟩ := setDataPayload_readout_isOk state hencode
  obtain ⟨sequence', hset⟩ := set_idle hosts haddr hcfg (by rw [hload]; exact hbody) sequence
  have hosts' := hosts.setState (state.write body)
  have haddr' := haddr.withParameters ((loaded device state).extend config)
  -- after the write the session is idle again, on the same network whether rebooted or not
  have hidle : ∃ sequence'', maybeReset rebooted
      { device with parameters := (loaded device state).extend config }
      (idle (n.setState i (state.write body)) sequence')
        = idle (n.setState i (state.write body)) sequence'' := by
    unfold maybeReset
    split
    · rw [reset_idle hosts' haddr' hcfg, applyReset_write, Network.setState_setState]
      exact ⟨_, rfl⟩
    · exact ⟨_, rfl⟩
  obtain ⟨sequence'', hidle⟩ := hidle
  refine ⟨_, _, hset, ?_, ?_⟩
  · intro params hparams
    refine ⟨_, _, congrArg Prod.fst (get_idle hosts haddr hcfg params sequence), ?_,
      visibleIn_readout hone hbody hparams⟩
    rw [hidle, get_idle hosts' haddr' hcfg]
  · intro j cfg₂ device₂ hji hdevice haddr₂ params
    have hfault₂ := hfault cfg₂ (List.mem_of_getElem? hdevice)
    have hlt : j < n.state.length := by
      rw [n.aligned]
      exact (List.getElem?_eq_some_iff.mp hdevice).1
    have hosts₂ : n.Hosts j cfg₂ n.state[j] :=
      ⟨hdevice, List.getElem?_eq_getElem hlt, hosts.distinct⟩
    rw [hidle, get_idle (hosts₂.setState_of_ne hji.symm _) haddr₂ hfault₂,
      get_idle hosts₂ haddr₂ hfault₂]

/-! ## Runs -/

/-- A new host name. -/
def renamed : Params := single "hostname" "den"

theorem renamed_encodable : Encodable renamed := encodable_single byName_hostname rfl

/-- A new host name on a device as it comes from the factory, with a reboot. -/
theorem set_then_get_renamed : SetThenGet factoryNetwork 0 freshDevice renamed 0 true :=
  set_then_get factoryNetwork_hosts factoryNetwork_faultFree freshDevice_addresses rfl
    (oneName_single _ _) renamed_encodable 0 true

/-- One name too many for the count of a request. -/
def overlong : List String := List.replicate 65535 "lan_ip_mode" ++ ["hostname"]

theorem requested_overlong :
    requested overlong = List.replicate 65535 lanIpModeParam ++ [hostnameParam] := by
  rw [requested, overlong, List.filterMap_append, List.filterMap_replicate_of_some byName_lanIpMode,
    List.filterMap_cons_some byName_hostname, List.filterMap_nil]
  refine List.Pairwise.insertionSort_eq ?_
  rw [List.pairwise_append]
  refine ⟨List.pairwise_replicate.mpr (Or.inr (by decide)), List.pairwise_singleton _ _, ?_⟩
  intro p hp q hq
  rw [List.eq_of_mem_replicate hp, List.mem_singleton.mp hq]
  decide

/-- **Beyond 65535 names a name that was set is lost** from a later `get`. -/
theorem set_then_get_overlong :
    ∃ device' s' after, Udap.set MockTransport.transport freshDevice renamed (idle factoryNetwork 0)
        = (.ok (), device', s') ∧
      (get MockTransport.transport device' overlong s').1 = .ok after ∧
      "hostname" ∈ overlong ∧ renamed.get? "hostname" = some (strBytes "den") ∧
      after.get? "hostname" = none := by
  obtain ⟨body, hbody⟩ := setDataPayload_readout_isOk
    (DeviceState.factoryWith OrdMap.empty) renamed_encodable
  have hfault := DeviceConfig.faultFree_defaultWithMac (Mac.auto 1)
  obtain ⟨sequence', hset⟩ :=
    set_idle factoryNetwork_hosts freshDevice_addresses hfault hbody 0
  refine ⟨_, _, _, hset, congrArg Prod.fst (get_idle (factoryNetwork_hosts.setState _)
    (freshDevice_addresses.withParameters _) hfault overlong sequence'),
    List.mem_append_right _ List.mem_cons_self, rfl, ?_⟩
  have hmem : hostnameParam ∉ answered overlong := by
    have hlen : (List.replicate 65535 lanIpModeParam).length = 65535 := List.length_replicate
    rw [answered, requested_overlong, List.take_left' hlen]
    intro hmem
    exact absurd (List.eq_of_mem_replicate hmem) (by decide)
  have hget := get?_readout ((DeviceState.factoryWith OrdMap.empty).write body)
    (@mem_parameters_of_answered overlong) (byName_mem byName_hostname)
  rw [if_neg hmem] at hget
  exact hget

end Mocksbr
