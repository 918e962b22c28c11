import Udapcfg.Properties.Exchange

/-!
# The last write to each parameter

A run of `set` calls on one handle. The cache is keyed by the spelling the caller used, the wire by
offset, so an older value cached under an alias can come after the newer one of the caller.

* `write_step` — one `set`: what the device holds, and what the cache and the device agree on
* `run_lastWritten_of_read` — the runs up to the first write, which carries what was read
* `run_lastWritten` — in a run whose steps do not meet an older spelling, the last write wins
* `run_lastWritten_alias` — a run where an older spelling wins
-/

namespace Mocksbr

open Infra Udap

/-! ## What a run is supposed to leave -/

/-- The values after a successful `set` of `config`, when they were `held` before. -/
def afterSet (config : Params) (held : Parameter → Option Bytes) (p : Parameter) : Option Bytes :=
  match lastValue config p with
  | some v => p.render v
  | none => held p

/-- Runs `set` calls one after another on one handle. -/
def runSets (device : Device) (s : Session MockTransport) : List Params →
    Device × Session MockTransport
  | [] => (device, s)
  | config :: rest =>
    let r := Udap.set MockTransport.transport device config s
    runSets r.2.1 r.2.2 rest

/-- For each parameter the rendering of the value of the last `set` that succeeded and named it. -/
def lastWritten (device : Device) (s : Session MockTransport)
    (held : Parameter → Option Bytes) : List Params → Parameter → Option Bytes
  | [] => held
  | config :: rest =>
    let r := Udap.set MockTransport.transport device config s
    lastWritten r.2.1 r.2.2 (if r.1 = .ok () then afterSet config held else held) rest

/-! ## The condition -/

/--
No older spelling is in the way: the value that comes last among the names of a parameter, in the
cache with `config` over it, encodes to what the value in `config` does.
-/
def SpellingsAgree (cache config : Params) : Prop :=
  ∀ p ∈ parameters, ∀ v, Names config p v → ∀ w, lastValue (cache.extend config) p = some w →
    p.render w = p.render v

/-- Every `set` of the run that can be sent finds no older spelling in its way. -/
def RunAgrees (device : Device) (s : Session MockTransport) : List Params → Prop
  | [] => True
  | config :: rest =>
    let r := Udap.set MockTransport.transport device config s
    (Encodable config → SpellingsAgree device.parameters config) ∧ RunAgrees r.2.1 r.2.2 rest

/-- What the device holds at a parameter is what it reports, if it reports anything. -/
def DeviceState.CanonicalAt (state : DeviceState) (p : Parameter) : Prop :=
  ∀ r, state.answer p = some r → state.get p.name = some r

def DeviceState.Canonical (state : DeviceState) : Prop := ∀ p ∈ parameters, state.CanonicalAt p

/-- The first write of a run on a fresh handle carries what was read at a parameter. -/
def WritesBackRead (p : Parameter) : List Params → Prop
  | [] => False
  | config :: rest =>
    (Encodable config ∧ Unnamed config p) ∨ (¬ Encodable config ∧ WritesBackRead p rest)

/-! ## One step -/

/-- What is cached for a parameter encodes to what the device holds. -/
def CoherentAt (cache : Params) (state : DeviceState) (p : Parameter) : Prop :=
  ∀ w, lastValue cache p = some w → p.render w = state.get p.name

def Coherent (cache : Params) (state : DeviceState) : Prop :=
  ∀ p ∈ parameters, CoherentAt cache state p

variable {n : Network} {i : Nat} {cfg : DeviceConfig} {state : DeviceState} {device : Device}
  {config cache : Params} {body : Bytes}

theorem lastValue_of_names {p : Parameter} {v : Bytes} (hone : OneName config)
    (h : Names config p v) : lastValue config p = some v := by
  have hext := lastValue_extend_of_named (m := OrdMap.empty)
    (fun k _ hget => absurd rfl hget) hone h
  rwa [OrdMap.extend_empty_left] at hext

theorem coherentAt_readout {p : Parameter} (hp : p ∈ parameters) (h : state.CanonicalAt p) :
    CoherentAt (state.readout (answered names)) state p := by
  intro w hw
  rw [lastValue_readout_names state hp] at hw
  rw [render_answer hw, h w hw]

theorem coherent_loaded (hcanonical : state.Canonical) (h : Coherent device.parameters state) :
    Coherent (loaded device state) state := by
  unfold loaded
  split
  · exact fun p hp => coherentAt_readout hp (hcanonical p hp)
  · exact h

/-- A configuration that can be written over anything encodes. -/
theorem encodable_of_extend (h : setDataPayload (cache.extend config) = .ok body) :
    Encodable config := by
  intro k v p hget hname
  refine setDataPayload_isOk_iff.mp ⟨body, h⟩ k v p ?_ hname
  rw [OrdMap.get?_extend, hget, Option.some_or]

theorem not_encodable_of_readout {e : EncodeError}
    (h : setDataPayload ((state.readout (answered names)).extend config) = .error e) :
    ¬ Encodable config := by
  intro hencodes
  obtain ⟨body, hbody⟩ :=
    setDataPayload_isOk_iff.mpr ((encodable_readout state).extend hencodes)
  rw [h] at hbody
  cases hbody

/-- Whatever the handle has cached, the value that comes last is that of `config`. -/
theorem render_lastValue_loaded (hone : OneName config)
    (hagree : SpellingsAgree device.parameters config) {p : Parameter} (hp : p ∈ parameters)
    {v w : Bytes} (hv : Names config p v)
    (hw : lastValue ((loaded device state).extend config) p = some w) :
    p.render w = p.render v := by
  unfold loaded at hw
  split at hw
  · -- a fresh read has canonical names only, and they come first
    rw [lastValue_extend_of_named
      (canonicalFor_readout state mem_parameters_of_answered p) hone hv] at hw
    rw [Option.some.inj hw]
  · exact hagree p hp v hv w hw

/--
**One write.** The device holds what it is supposed to, and from then on the invariant. Before the
write it is asked only of what is written back.
-/
theorem write_step {held : Parameter → Option Bytes} (hone : OneName config)
    (hcanonical : ∀ p ∈ parameters, Unnamed config p → state.CanonicalAt p)
    (hcoherent : ∀ p ∈ parameters, Unnamed config p → CoherentAt (loaded device state) state p)
    (hheld : ∀ p ∈ parameters, state.get p.name = held p)
    (hagree : SpellingsAgree device.parameters config)
    (hbody : setDataPayload ((loaded device state).extend config) = .ok body) :
    (state.write body).Canonical ∧
      Coherent ((loaded device state).extend config) (state.write body) ∧
      ∀ p ∈ parameters, (state.write body).get p.name = afterSet config held p := by
  refine ⟨?_, fun p hp w hw => (get_write_of_some hbody hp hw).symm, ?_⟩
  · intro p hp r hr
    cases hw : lastValue ((loaded device state).extend config) p with
    | none =>
      have hunnamed : Unnamed config p := by
        intro k hname
        have hnone := lastValue_eq_none_iff.mp hw k hname
        rw [OrdMap.get?_extend, Option.or_eq_none_iff] at hnone
        exact hnone.1
      rw [answer_write_of_none hbody hp hw] at hr
      rw [get_write_of_none hbody hp hw, hcanonical p hp hunnamed r hr]
    | some w => rw [get_write_of_some hbody hp hw, ← answer_write_of_some hbody hp hw, hr]
  · intro p hp
    unfold afterSet
    by_cases hnamed : Unnamed config p
    · -- what `config` does not name is written back
      have hlast : lastValue ((loaded device state).extend config) p
          = lastValue (loaded device state) p := lastValue_extend_of_unnamed hnamed
      rw [lastValue_eq_none_iff.mpr hnamed, ← hheld p hp]
      cases hw : lastValue (loaded device state) p with
      | none => exact get_write_of_none hbody hp (hlast.trans hw)
      | some w =>
        rw [get_write_of_some hbody hp (hlast.trans hw)]
        exact hcoherent p hp hnamed w hw
    · obtain ⟨v, hv⟩ := not_unnamed_iff.mp hnamed
      rw [lastValue_of_names hone hv]
      cases hw : lastValue ((loaded device state).extend config) p with
      | none =>
        obtain ⟨k, hname, hget⟩ := hv
        have hnone := lastValue_eq_none_iff.mp hw k hname
        rw [OrdMap.get?_extend, hget, Option.some_or] at hnone
        simp at hnone
      | some w =>
        rw [get_write_of_some hbody hp hw]
        exact render_lastValue_loaded hone hagree hp hv hw

/-! ## Runs -/

theorem run_lastWritten_of_coherent (haddr : cfg.FaultFree) :
    ∀ (configs : List Params) (n : Network) (state : DeviceState) (device : Device)
    (sequence : UInt16) (held : Parameter → Option Bytes),
    n.Hosts i cfg state → Addresses device cfg → state.Canonical →
    Coherent device.parameters state → (∀ p ∈ parameters, state.get p.name = held p) →
    (∀ config ∈ configs, OneName config) → RunAgrees device (idle n sequence) configs →
    ∃ state', (runSets device (idle n sequence) configs).2.transport.network.Hosts i cfg state' ∧
      ∀ p ∈ parameters, state'.get p.name = lastWritten device (idle n sequence) held configs p
  | [], n, state, device, sequence, held, hosts, _, _, _, hheld, _, _ => ⟨state, hosts, hheld⟩
  | config :: rest, n, state, device, sequence, held, hosts, haddr', hcanonical, hcoherent, hheld,
    hone, hagree => by
    have hone' : ∀ config ∈ rest, OneName config := fun c hc => hone c (List.mem_cons_of_mem _ hc)
    unfold RunAgrees at hagree
    unfold runSets lastWritten
    cases hbody : setDataPayload ((loaded device state).extend config) with
    | ok body =>
      -- the write is applied
      obtain ⟨sequence', hset⟩ := set_idle hosts haddr' haddr hbody sequence
      rw [hset] at hagree ⊢
      obtain ⟨hcanonical', hcoherent', hheld'⟩ := write_step (hone config List.mem_cons_self)
        (fun p hp _ => hcanonical p hp)
        (fun p hp _ => coherent_loaded hcanonical hcoherent p hp) hheld
        (hagree.1 (encodable_of_extend hbody)) hbody
      exact run_lastWritten_of_coherent haddr rest _ _ _ sequence' _
        (hosts.setState (state.write body)) (haddr'.withParameters _) hcanonical' hcoherent' hheld'
        hone' hagree.2
    | error e =>
      -- nothing is written, but the cache may have been loaded
      obtain ⟨sequence', hset⟩ := set_idle_error hosts haddr' haddr hbody sequence
      rw [hset] at hagree ⊢
      exact run_lastWritten_of_coherent haddr rest n state _ sequence' held hosts
        (haddr'.withParameters _) hcanonical (coherent_loaded hcanonical hcoherent) hheld hone'
        hagree.2

/-- Until the first write the handle has cached what the device reports, or nothing. -/
theorem run_lastWritten_of_read (haddr : cfg.FaultFree) (hosts : n.Hosts i cfg state)
    {held : Parameter → Option Bytes} (hheld : ∀ p ∈ parameters, state.get p.name = held p) :
    ∀ (configs : List Params) (device : Device) (sequence : UInt16),
    Addresses device cfg → loaded device state = state.readout (answered names) →
    (∀ p ∈ parameters, WritesBackRead p configs → state.CanonicalAt p) →
    (∀ config ∈ configs, OneName config) → RunAgrees device (idle n sequence) configs →
    ∃ state', (runSets device (idle n sequence) configs).2.transport.network.Hosts i cfg state' ∧
      ∀ p ∈ parameters, state'.get p.name = lastWritten device (idle n sequence) held configs p
  | [], _, _, _, _, _, _, _ => ⟨state, hosts, hheld⟩
  | config :: rest, device, sequence, haddr', hloaded, hcanonical, hone, hagree => by
    have hone' : ∀ config ∈ rest, OneName config := fun c hc => hone c (List.mem_cons_of_mem _ hc)
    unfold RunAgrees at hagree
    unfold runSets lastWritten
    cases hbody : setDataPayload ((loaded device state).extend config) with
    | ok body =>
      obtain ⟨sequence', hset⟩ := set_idle hosts haddr' haddr hbody sequence
      rw [hset] at hagree ⊢
      have hencodable := encodable_of_extend hbody
      have hback : ∀ p ∈ parameters, Unnamed config p → state.CanonicalAt p :=
        fun p hp hunnamed => hcanonical p hp (Or.inl ⟨hencodable, hunnamed⟩)
      obtain ⟨hcanonical', hcoherent', hheld'⟩ := write_step (hone config List.mem_cons_self)
        hback (fun p hp hunnamed => hloaded ▸ coherentAt_readout hp (hback p hp hunnamed)) hheld
        (hagree.1 hencodable) hbody
      exact run_lastWritten_of_coherent haddr rest _ _ _ sequence' _
        (hosts.setState (state.write body)) (haddr'.withParameters _) hcanonical' hcoherent' hheld'
        hone' hagree.2
    | error e =>
      obtain ⟨sequence', hset⟩ := set_idle_error hosts haddr' haddr hbody sequence
      rw [hset] at hagree ⊢
      have hencodable : ¬ Encodable config := not_encodable_of_readout (hloaded ▸ hbody)
      have hloaded' : loaded { device with parameters := loaded device state } state
          = state.readout (answered names) := by
        conv_lhs => rw [loaded]
        split
        · rfl
        · exact hloaded
      exact run_lastWritten_of_read haddr hosts hheld rest _ sequence' (haddr'.withParameters _)
        hloaded' (fun p hp hback => hcanonical p hp (Or.inr ⟨hencodable, hback⟩)) hone' hagree.2

/--
**The last write wins.** After a run of `set` calls on a fresh handle, each naming a parameter at
most once and none meeting an older spelling in its way, the device holds for each parameter what
the last successful `set` that named it gave, and else what it held at the start. What the first
write carries back must have been in canonical form.
-/
theorem run_lastWritten (hosts : n.Hosts i cfg state) (hfault : cfg.FaultFree)
    (haddr : Addresses device cfg) (hfresh : device.parameters = OrdMap.empty)
    (sequence : UInt16) {configs : List Params}
    (hcanonical : ∀ p ∈ parameters, WritesBackRead p configs → state.CanonicalAt p)
    (hone : ∀ config ∈ configs, OneName config)
    (hagree : RunAgrees device (idle n sequence) configs) :
    ∃ state', (runSets device (idle n sequence) configs).2.transport.network.Hosts i cfg state' ∧
      ∀ p ∈ parameters, state'.get p.name
        = lastWritten device (idle n sequence) (fun p => state.get p.name) configs p := by
  have hloaded : loaded device state = state.readout (answered names) := by
    rw [loaded, hfresh]
    rfl
  exact run_lastWritten_of_read hfault hosts (fun _ _ => rfl) configs device sequence haddr hloaded
    hcanonical hone hagree

/-! ## Runs on a factory device -/

theorem canonical_factory : (DeviceState.factoryWith OrdMap.empty).Canonical := by
  have h : ∀ p ∈ parameters, (DeviceState.factoryWith OrdMap.empty).answer p
      = (DeviceState.factoryWith OrdMap.empty).get p.name := by decide +kernel
  intro p hp r hr
  rw [← h p hp, hr]

/-- A cache of canonical names has no older spelling that comes after the one of `config`. -/
theorem spellingsAgree_of_canonical (h : ∀ p, CanonicalFor cache p) (hone : OneName config) :
    SpellingsAgree cache config := by
  intro p _ v hv w hw
  rw [lastValue_extend_of_named (h p) hone hv] at hw
  rw [Option.some.inj hw]

theorem canonicalFor_empty (p : Parameter) : CanonicalFor OrdMap.empty p :=
  fun _ _ hget => absurd rfl hget

theorem canonicalFor_extend_single {p : Parameter} (hname : byName p.name = some p)
    (value : String) (h : ∀ q, CanonicalFor cache q) (q : Parameter) :
    CanonicalFor (cache.extend (single p.name value)) q := by
  intro k hk hget
  rw [OrdMap.get?_extend, ne_eq, Option.or_eq_none_iff, not_and_or] at hget
  rcases hget with hlast | hfirst
  · obtain ⟨v, hv⟩ := Option.ne_none_iff_exists'.mp hlast
    obtain ⟨rfl, _⟩ := get?_single_some hv
    rw [hname] at hk
    rw [Option.some.inj hk]
  · exact h q k hk hfirst

def serverAddressParam : Parameter := ⟨"server_address", 71, 4, "0.0.0.0"⟩

theorem byName_serverAddress : byName "server_address" = some serverAddressParam := by
  decide +kernel

theorem byName_slimserverAddress : byName "slimserver_address" = some serverAddressParam := by
  decide +kernel

/-- An address set under its own name and then under an alias, which comes later. -/
def aliasedLater : List Params :=
  [single "server_address" "10.0.0.1", single "slimserver_address" "10.0.0.2"]

theorem runAgrees_aliasedLater :
    RunAgrees freshDevice (idle factoryNetwork 0) aliasedLater := by
  have hencodes : Encodable (single "server_address" "10.0.0.1") :=
    encodable_single byName_serverAddress rfl
  obtain ⟨body, hbody⟩ := setDataPayload_isOk_iff.mpr ((encodable_readout _).extend hencodes)
  obtain ⟨sequence, hset⟩ := set_idle factoryNetwork_hosts freshDevice_addresses
    (DeviceConfig.faultFree_defaultWithMac (Mac.auto 1)) hbody 0
  have hread := canonicalFor_readout (DeviceState.factoryWith OrdMap.empty)
    (@mem_parameters_of_answered names)
  refine ⟨fun _ => spellingsAgree_of_canonical canonicalFor_empty (oneName_single _ _), ?_⟩
  rw [hset]
  exact ⟨fun _ => spellingsAgree_of_canonical
    (canonicalFor_extend_single (p := serverAddressParam) byName_serverAddress "10.0.0.1" hread)
    (oneName_single _ _), trivial⟩

theorem run_lastWritten_aliasedLater :
    ∃ state', (runSets freshDevice (idle factoryNetwork 0) aliasedLater).2.transport.network.Hosts 0
        (DeviceConfig.defaultWithMac (Mac.auto 1)) state' ∧
      ∀ p ∈ parameters, state'.get p.name
        = lastWritten freshDevice (idle factoryNetwork 0)
          (fun p => (DeviceState.factoryWith OrdMap.empty).get p.name) aliasedLater p := by
  refine run_lastWritten factoryNetwork_hosts (DeviceConfig.faultFree_defaultWithMac _)
    freshDevice_addresses rfl 0 (fun p hp _ => canonical_factory p hp) ?_ runAgrees_aliasedLater
  intro config hc
  rcases List.mem_pair.mp hc with rfl | rfl <;> exact oneName_single _ _

/-- An address set under an alias and then under its own name. -/
def respelled : List Params :=
  [single "slimserver_address" "10.0.0.1", single "server_address" "10.0.0.2"]

/-- What both calls lay over the first read. -/
def respelledCache : Params :=
  ((DeviceState.factoryWith OrdMap.empty).readout (answered names)).extend
    (single "slimserver_address" "10.0.0.1")

theorem respelledCache_encodable : Encodable respelledCache :=
  (encodable_readout _).extend (encodable_single byName_slimserverAddress rfl)

theorem respelledCache_ne_empty : respelledCache ≠ OrdMap.empty := by
  intro h
  have hget := congrArg (fun m => m.get? "slimserver_address") h
  rw [respelledCache, OrdMap.get?_extend] at hget
  exact absurd hget (by decide)

/-- The alias comes after the name of the table. -/
theorem lastValue_respelled :
    lastValue (respelledCache.extend (single "server_address" "10.0.0.2")) serverAddressParam
      = some (strBytes "10.0.0.1") := by
  rw [lastValue_eq_some_iff, respelledCache]
  refine ⟨"slimserver_address", byName_slimserverAddress, ?_, ?_⟩
  · rw [OrdMap.get?_extend, OrdMap.get?_extend]
    rfl
  · intro k hname hget
    simp only [OrdMap.get?_extend, ne_eq, Option.or_eq_none_iff, not_and_or] at hget
    rcases hget with hlast | hfirst | hread
    · obtain ⟨v, hv⟩ := Option.ne_none_iff_exists'.mp hlast
      rw [(get?_single_some hv).1]
      exact name_le byName_slimserverAddress
    · obtain ⟨v, hv⟩ := Option.ne_none_iff_exists'.mp hfirst
      rw [(get?_single_some hv).1]
    · rw [canonicalFor_readout _ mem_parameters_of_answered serverAddressParam k hname hread]
      exact name_le byName_slimserverAddress

/-- Both calls succeed, and the second one writes the older value after the newer one. -/
theorem set_respelled : ∃ (device₁ device₂ : Device) (s₁ s₂ : Session MockTransport)
    (state : DeviceState) (body : Bytes),
    Udap.set MockTransport.transport freshDevice (single "slimserver_address" "10.0.0.1")
        (idle factoryNetwork 0) = (.ok (), device₁, s₁) ∧
      Udap.set MockTransport.transport device₁ (single "server_address" "10.0.0.2") s₁
        = (.ok (), device₂, s₂) ∧
      s₂.transport.network.state = [state.write body] ∧
      setDataPayload (respelledCache.extend (single "server_address" "10.0.0.2")) = .ok body := by
  have hfault := DeviceConfig.faultFree_defaultWithMac (Mac.auto 1)
  obtain ⟨body₁, hbody₁⟩ := setDataPayload_isOk_iff.mpr respelledCache_encodable
  obtain ⟨sequence₁, hset₁⟩ :=
    set_idle factoryNetwork_hosts freshDevice_addresses hfault hbody₁ 0
  -- the second call starts from the cache the first one left
  have hloaded : ∀ state,
      loaded { freshDevice with parameters := respelledCache } state = respelledCache := by
    intro state
    rw [loaded, if_neg (mt OrdMap.isEmpty_iff.mp respelledCache_ne_empty)]
  have hsecond : Encodable (single "server_address" "10.0.0.2") :=
    encodable_single byName_serverAddress rfl
  obtain ⟨body₂, hbody₂⟩ := setDataPayload_isOk_iff.mpr (respelledCache_encodable.extend hsecond)
  obtain ⟨sequence₂, hset₂⟩ := set_idle
    (factoryNetwork_hosts.setState ((DeviceState.factoryWith OrdMap.empty).write body₁))
    (freshDevice_addresses.withParameters respelledCache) hfault
    (by rw [hloaded]; exact hbody₂) sequence₁
  exact ⟨_, _, _, _, _, _, hset₁, hset₂, rfl, hbody₂⟩

/-- **The older spelling wins**: both calls succeed, and the first value is the one that stays. -/
theorem run_lastWritten_alias :
    (runSets freshDevice (idle factoryNetwork 0) respelled).2.transport.network.state.map
        (fun state => state.get "server_address") = [some (strBytes "10.0.0.1")] ∧
      lastWritten freshDevice (idle factoryNetwork 0)
        (fun p => (DeviceState.factoryWith OrdMap.empty).get p.name) respelled serverAddressParam
        = some (strBytes "10.0.0.2") := by
  have hp := byName_mem byName_serverAddress
  obtain ⟨device₁, device₂, s₁, s₂, state, body, hset₁, hset₂, hstate, hbody⟩ := set_respelled
  constructor
  · have hvalue : (state.write body).get "server_address"
        = serverAddressParam.render (strBytes "10.0.0.1") :=
      get_write_of_some hbody hp lastValue_respelled
    have hrender : serverAddressParam.render (strBytes "10.0.0.1")
        = some (strBytes "10.0.0.1") := by decide +kernel
    simp only [respelled, runSets, hset₁, hset₂, hstate, List.map_cons, List.map_nil, hvalue,
      hrender]
  · have hlast : lastValue (single "server_address" "10.0.0.2") serverAddressParam
        = some (strBytes "10.0.0.2") :=
      lastValue_of_names (oneName_single _ _) ⟨_, byName_serverAddress, rfl⟩
    simp only [respelled, lastWritten, hset₁, hset₂, if_true, afterSet, hlast]
    decide +kernel

end Mocksbr
