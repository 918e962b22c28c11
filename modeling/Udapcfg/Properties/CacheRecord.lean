import Udapcfg.Properties.Exchange
import Udapcfg.Udap.Ops.Call

/-!
# The cache as a record of the device

A handle caches what it was given, the device keeps what that encodes to. The two agree exactly as
long as the values given are the renderings of what they encode to.

* `Records` — the invariant: canonical keys, and for each parameter the answer of the device
* `records_write_iff` — one write
* `Recording` — where a run is between its calls
* `cacheRecorded_iff` — any run of reads, writes and resets on one handle
-/

namespace Mocksbr

open Infra Udap

/-! ## The invariant -/

/-- The map has canonical names only, each with the value the device reports. -/
structure Records (m : Params) (state : DeviceState) : Prop where
  canonical : ∀ p, CanonicalFor m p
  value : ∀ p ∈ parameters, m.get? p.name = state.answer p

/-- Every name is a table name. -/
def TableNames (config : Params) : Prop := ∀ k v, config.get? k = some v → k ∈ names

/-- Every value encodes. -/
def Encodes (config : Params) : Prop :=
  ∀ p ∈ parameters, ∀ v, config.get? p.name = some v → p.render v ≠ none

/-- Every value is the rendering of what it encodes to. -/
def Rendered (config : Params) : Prop :=
  ∀ p ∈ parameters, ∀ v, config.get? p.name = some v → p.render v = some v

variable {n : Network} {i : Nat} {cfg : DeviceConfig} {state : DeviceState} {device : Device}
  {m config : Params} {body : Bytes}

theorem canonicalFor_of_tableNames (h : TableNames config) (p : Parameter) :
    CanonicalFor config p := by
  intro k hname hget
  obtain ⟨v, hv⟩ := Option.ne_none_iff_exists'.mp hget
  obtain ⟨q, hq, rfl⟩ := mem_names_iff.mp (h k v hv)
  rw [byName_name q hq] at hname
  rw [Option.some.inj hname]

/-- A full read records the device. -/
theorem records_readout (state : DeviceState) : Records (state.readout (answered names)) state where
  canonical := canonicalFor_readout state mem_parameters_of_answered
  value := fun _ hp => get?_readout_names state hp

/-- A read merged into a record, or into nothing, is a record. -/
theorem records_mergeRead (h : m = OrdMap.empty ∨ Records m state) :
    Records (mergeRead m (state.readout (answered names))) state := by
  rcases h with rfl | h
  · rw [mergeRead_empty]
    exact records_readout state
  · have hread := records_readout state
    constructor
    · intro p
      refine CanonicalFor.extend ?_ (hread.canonical p)
      intro k hname hget
      rw [OrdMap.get?_retain] at hget
      split at hget
      · exact h.canonical p k hname hget
      · exact absurd rfl hget
    · intro p hp
      rw [get?_mergeRead hp, hread.value p hp, h.value p hp, Option.or_self]

theorem records_loaded (h : device.parameters = OrdMap.empty ∨ Records device.parameters state) :
    Records (loaded device state) state := by
  unfold loaded
  split
  · exact records_readout state
  · next hempty =>
    rcases h with h | h
    · exact absurd (OrdMap.isEmpty_iff.mpr h) hempty
    · exact h

/-! ## One write -/

/-- A record with a configuration over it can be sent if the configuration can. -/
theorem setDataPayload_records_isOk (h : Records m state) (hnames : TableNames config) :
    (∃ body, setDataPayload (m.extend config) = .ok body) ↔ Encodes config := by
  rw [setDataPayload_isOk_iff]
  constructor
  · intro hall p hp v hv hnone
    have hget : (m.extend config).get? p.name = some v := by
      rw [OrdMap.get?_extend, hv, Option.some_or]
    obtain ⟨b, hb⟩ := hall p.name v p hget (byName_name p hp)
    rw [Parameter.render_of_encode hb] at hnone
    simp at hnone
  · intro hall k v p hget hname
    have hk : k = p.name := (h.canonical p).extend (canonicalFor_of_tableNames hnames p) k hname
      (by rw [hget]; simp)
    subst hk
    have hp := byName_mem hname
    have hrender : p.render v ≠ none := by
      rw [OrdMap.get?_extend] at hget
      cases hc : config.get? p.name with
      | some w =>
        rw [hc, Option.some_or] at hget
        cases hget
        exact hall p hp v hc
      | none =>
        rw [hc, Option.none_or, h.value p hp] at hget
        rw [render_answer hget]
        simp
    obtain ⟨r, hr⟩ := Option.ne_none_iff_exists'.mp hrender
    obtain ⟨b, hb, _⟩ := Parameter.encode_of_render hr
    exact ⟨b, hb⟩

/-- **After a write the cache agrees with the device** exactly if what was given is rendered. -/
theorem records_write_iff (h : Records m state) (hnames : TableNames config)
    (hbody : setDataPayload (m.extend config) = .ok body) :
    (∀ p ∈ parameters, (m.extend config).get? p.name = (state.write body).answer p) ↔
      Rendered config := by
  have hlast : ∀ p ∈ parameters, lastValue (m.extend config) p = (m.extend config).get? p.name :=
    fun p hp => lastValue_of_canonical hp
      ((h.canonical p).extend (canonicalFor_of_tableNames hnames p))
  constructor
  · intro hall p hp v hv
    have hget : (m.extend config).get? p.name = some v := by
      rw [OrdMap.get?_extend, hv, Option.some_or]
    rw [← answer_write_of_some hbody hp ((hlast p hp).trans hget), ← hall p hp, hget]
  · intro hrendered p hp
    cases hget : (m.extend config).get? p.name with
    | none =>
      rw [answer_write_of_none hbody hp ((hlast p hp).trans hget)]
      rw [OrdMap.get?_extend, Option.or_eq_none_iff] at hget
      rw [← h.value p hp, hget.2]
    | some v =>
      rw [answer_write_of_some hbody hp ((hlast p hp).trans hget)]
      rw [OrdMap.get?_extend] at hget
      cases hc : config.get? p.name with
      | some w =>
        rw [hc, Option.some_or] at hget
        cases hget
        exact (hrendered p hp v hc).symm
      | none =>
        rw [hc, Option.none_or, h.value p hp] at hget
        exact (render_answer hget).symm

/-! ## Runs -/

/-- A call that reads, writes table names, or resets. -/
def RunCall : Call → Prop
  | .getAll => True
  | .set config => TableNames config
  | .reset => True
  | _ => False

/-- Right after a call: the cache has for every parameter what a `get` of its name returns. -/
def AgreesWithGet (device : Device) (s : Session MockTransport) : Prop :=
  ∀ p ∈ parameters, ∃ m, (get MockTransport.transport device [p.name] s).1 = .ok m ∧
    device.parameters.get? p.name = m.get? p.name

/-- Along a run, the cache agrees with the device after every `set` that succeeds. -/
def CacheRecorded : Device → Session MockTransport → List Call → Prop
  | _, _, [] => True
  | device, s, call :: rest =>
    let r := call.run MockTransport.transport device s
    ((∃ config, call = .set config) → r.1 = .done (.ok ()) → AgreesWithGet r.2.1 r.2.2) ∧
      CacheRecorded r.2.1 r.2.2 rest

/-- A `set` that does not encode, or whose values are rendered. -/
def RenderedIfEncodes (config : Params) : Prop := Encodes config → Rendered config

theorem agreesWithGet_idle (hosts : n.Hosts i cfg state) (haddr : Addresses device cfg)
    (hfault : cfg.FaultFree) (sequence : UInt16) :
    AgreesWithGet device (idle n sequence) ↔
      ∀ p ∈ parameters, device.parameters.get? p.name = state.answer p := by
  have hget : ∀ p ∈ parameters, (state.readout (answered [p.name])).get? p.name
      = state.answer p := by
    intro p hp
    rw [get?_readout _ mem_parameters_of_answered hp, if_pos]
    rw [mem_answered (Nat.le_of_ble_eq_true rfl)]
    exact ⟨p.name, List.mem_cons_self, byName_name p hp⟩
  constructor
  · intro h p hp
    obtain ⟨m, hm, hvalue⟩ := h p hp
    rw [get_idle hosts haddr hfault] at hm
    cases hm
    rw [hvalue, hget p hp]
  · intro h p hp
    refine ⟨_, congrArg Prod.fst (get_idle hosts haddr hfault [p.name] sequence), ?_⟩
    rw [h p hp, hget p hp]

/-- Where a handle and its device are between the calls of a run: nothing is waiting for a reset,
and the cache is empty or a record. -/
structure Recording (i : Nat) (cfg : DeviceConfig) (n : Network) (state : DeviceState)
    (device : Device) : Prop where
  hosts : n.Hosts i cfg state
  settled : state.Settled
  addresses : Addresses device cfg
  cache : device.parameters = OrdMap.empty ∨ Records device.parameters state

/-- A call that leaves the device alone and the cache a record. -/
theorem Recording.recorded (h : Recording i cfg n state device) (hm : Records m state) :
    Recording i cfg n state { device with parameters := m } :=
  ⟨h.hosts, h.settled, h.addresses.withParameters m, Or.inr hm⟩

/-- A write of rendered values. -/
theorem Recording.write (h : Recording i cfg n state device) (hnames : TableNames config)
    (hbody : setDataPayload ((loaded device state).extend config) = .ok body)
    (hrendered : Rendered config) : Recording i cfg (n.setState i (state.write body))
      (state.write body) { device with parameters := (loaded device state).extend config } := by
  have hrecords := records_loaded h.cache
  refine ⟨h.hosts.setState _, rfl, h.addresses.withParameters _, Or.inr ⟨?_, ?_⟩⟩
  · exact fun p => (hrecords.canonical p).extend (canonicalFor_of_tableNames hnames p)
  · exact (records_write_iff hrecords hnames hbody).mpr hrendered

/-- A run from an empty cache or a record. Every `set` that encodes leaves a record again, exactly
if it was given rendered values. -/
theorem cacheRecorded_of_recording (hfault : cfg.FaultFree) {calls : List Call}
    (h : Recording i cfg n state device) (sequence : UInt16) (hcalls : ∀ call ∈ calls, RunCall call) :
    CacheRecorded device (idle n sequence) calls ↔
      ∀ config, Call.set config ∈ calls → RenderedIfEncodes config := by
  induction calls generalizing n state device sequence with
  | nil => simp [CacheRecorded]
  | cons call rest ih =>
    have hrest : ∀ call ∈ rest, RunCall call := fun c hc => hcalls c (List.mem_cons_of_mem _ hc)
    have hcall := hcalls call List.mem_cons_self
    cases call with
    | get _ | getIp | getUuid => exact absurd hcall id
    | getAll =>
      have hnext := ih (h.recorded (records_mergeRead h.cache)) (sequence + 1) hrest
      rw [CacheRecorded, Call.run, getAll_idle h.hosts h.addresses hfault]
      simpa using hnext
    | reset =>
      have hnext := ih h (sequence + 1) hrest
      rw [CacheRecorded, Call.run, reset_idle h.hosts h.addresses hfault, h.settled.applyReset,
        h.hosts.setState_self]
      simpa using hnext
    | set config =>
      have hnames : TableNames config := hcall
      have hrecords := records_loaded h.cache
      by_cases hencodes : Encodes config
      · -- the write succeeds
        obtain ⟨body, hbody⟩ := (setDataPayload_records_isOk hrecords hnames).mpr hencodes
        obtain ⟨sequence', hset⟩ := set_idle h.hosts h.addresses hfault hbody sequence
        rw [CacheRecorded, Call.run, hset]
        simp only [List.mem_cons, Call.set.injEq, forall_eq_or_imp]
        rw [agreesWithGet_idle (h.hosts.setState (state.write body))
          (h.addresses.withParameters _) hfault, records_write_iff hrecords hnames hbody]
        by_cases hrendered : Rendered config
        · rw [ih (h.write hnames hbody hrendered) sequence' hrest]
          simp [hrendered, RenderedIfEncodes]
        · simp [hrendered, RenderedIfEncodes, hencodes]
      · -- the write does not encode and is not sent
        cases hbody : setDataPayload ((loaded device state).extend config) with
        | ok body =>
          exact absurd ((setDataPayload_records_isOk hrecords hnames).mp ⟨body, hbody⟩) hencodes
        | error e =>
          obtain ⟨sequence', hset⟩ := set_idle_error h.hosts h.addresses hfault hbody sequence
          rw [CacheRecorded, Call.run, hset]
          simp only [List.mem_cons, Call.set.injEq, forall_eq_or_imp]
          rw [ih (h.recorded hrecords) sequence' hrest]
          simp [RenderedIfEncodes, hencodes]

/--
**The cache records what is persisted** in a run on a fresh handle exactly if every `set` of the run
that encodes was given rendered values.
-/
theorem cacheRecorded_iff (hosts : n.Hosts i cfg state) (hreach : n.Reachable)
    (hfault : cfg.FaultFree) (haddr : Addresses device cfg)
    (hfresh : device.parameters = OrdMap.empty) (sequence : UInt16) {calls : List Call}
    (hcalls : ∀ call ∈ calls, RunCall call) :
    CacheRecorded device (idle n sequence) calls ↔
      ∀ config, Call.set config ∈ calls → RenderedIfEncodes config :=
  cacheRecorded_of_recording hfault ⟨hosts, hosts.settled hreach, haddr, Or.inl hfresh⟩ sequence
    hcalls

/-! ## Runs on a factory device -/

theorem factoryNetwork_reachable : factoryNetwork.Reachable := Network.Reachable.new _

theorem runCall_single {name value : String} (h : name ∈ names) :
    ∀ call ∈ [Call.set (single name value)], RunCall call := by
  intro call hcall
  rw [List.mem_singleton.mp hcall]
  intro k v hget
  rw [(get?_single_some hget).1]
  exact h

/-- The run of one `set`, of a value that is its own rendering or is not. -/
theorem cacheRecorded_iff_factory :
    CacheRecorded freshDevice (idle factoryNetwork 0) [.set (single "lan_ip_mode" "0")] ↔
      ∀ config, Call.set config ∈ [Call.set (single "lan_ip_mode" "0")] →
        RenderedIfEncodes config :=
  cacheRecorded_iff factoryNetwork_hosts factoryNetwork_reachable
    (DeviceConfig.faultFree_defaultWithMac _) freshDevice_addresses rfl 0
    (runCall_single (by decide +kernel))

/-- `007` is cached as it is, and reported as `7`. -/
theorem not_cacheRecorded_leadingZeros :
    ¬ CacheRecorded freshDevice (idle factoryNetwork 0) [.set (single "lan_ip_mode" "007")] := by
  rw [cacheRecorded_of_recording (DeviceConfig.faultFree_defaultWithMac _)
    ⟨factoryNetwork_hosts, rfl, freshDevice_addresses, Or.inl rfl⟩ 0
    (runCall_single (by decide +kernel))]
  intro h
  have hrender : lanIpModeParam.render (strBytes "007") = some (strBytes "7") := by decide +kernel
  have hone : ∀ p ∈ parameters, ∀ v, (single "lan_ip_mode" "007").get? p.name = some v →
      p = lanIpModeParam ∧ v = strBytes "007" := by
    intro p hp v hget
    obtain ⟨hname, hv⟩ := get?_single_some hget
    have hby := byName_name p hp
    rw [hname, byName_lanIpMode] at hby
    exact ⟨(Option.some.inj hby).symm, hv⟩
  have hencodes : Encodes (single "lan_ip_mode" "007") := by
    intro p hp v hget
    obtain ⟨rfl, rfl⟩ := hone p hp v hget
    rw [hrender]
    simp
  have hrendered := h _ List.mem_cons_self hencodes lanIpModeParam (byName_mem byName_lanIpMode)
    (strBytes "007") rfl
  rw [hrender] at hrendered
  exact absurd hrendered (by decide +kernel)

end Mocksbr
