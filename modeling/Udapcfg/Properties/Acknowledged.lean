import Mathlib.Data.List.Perm.Basic
import Udapcfg.Properties.Exchange
import Udapcfg.Properties.ReadModifyWrite
import Udapcfg.Udap.Ops.Call

/-!
# What an acknowledgement is worth

A session over a `MockTransport` in any state: replies to earlier operations may be in flight, in
any order of arrival, and the device may be configured to fail. `wait_for_reply` takes any reply of
the device and `set` takes three methods for an acknowledgement, so a reply that was left over can
stand in for the one to the write.

* `request_ok` — a reply that is received was in flight, and the others still are
* `set_acknowledged` — one `set` for which no acknowledgement is left over
* `run_acknowledged` — the same for every `set` of a run
* `run_not_acknowledged` — a run in which a rejected write is acknowledged
-/

namespace Mocksbr

open Infra Udap

/-! ## Receiving in any order -/

/-- The replies among the datagrams in flight that a handle accepts. -/
def accepted (device : Device) (inFlight : List Datagram) : List (Packet × Bytes) :=
  inFlight.filterMap (Session.accept device)

/-- How many of them `set` would take for an acknowledgement. -/
def acks (device : Device) (inFlight : List Datagram) : Nat :=
  (accepted device inFlight).countP fun r => isAck r.1.ucpMethod

theorem acks_append (device : Device) (inFlight inFlight' : List Datagram) :
    acks device (inFlight ++ inFlight') = acks device inFlight + acks device inFlight' := by
  rw [acks, accepted, List.filterMap_append, List.countP_append]
  rfl

variable {n : Network} {i : Nat} {cfg : DeviceConfig} {state : DeviceState} {device : Device}

theorem waitLoop_ok {reply : Packet × Bytes} : ∀ (fuel : Nat) (t t' : MockTransport),
    Session.waitLoop MockTransport.transport device fuel t = (.ok reply, t') →
    t'.network = t.network ∧
      (accepted device t.inFlight).Perm (reply :: accepted device t'.inFlight)
  | 0, t, t', h => by simp [Session.waitLoop] at h
  | fuel + 1, t, t', h => by
    unfold Session.waitLoop at h
    cases hrecv : MockTransport.transport.recv t with
    | mk result t₁ =>
      rw [hrecv] at h
      cases result with
      | error e => simp at h
      | ok d =>
        obtain ⟨index, hget, hrest, hnetwork⟩ := MockTransport.recv_ok hrecv
        have hperm : t.inFlight.Perm (d :: t₁.inFlight) := by
          obtain ⟨hlt, rfl⟩ := List.getElem?_eq_some_iff.mp hget
          rw [hrest]
          exact (List.getElem_cons_eraseIdx_perm hlt).symm
        have haccepted := hperm.filterMap (Session.accept device)
        cases haccept : Session.accept device d with
        | none =>
          -- what is discarded was not among the accepted
          simp only [haccept] at h
          obtain ⟨hnetwork', hrest'⟩ := waitLoop_ok fuel t₁ t' h
          rw [List.filterMap_cons_none haccept] at haccepted
          exact ⟨hnetwork'.trans hnetwork, haccepted.trans hrest'⟩
        | some r =>
          simp only [haccept, Prod.mk.injEq, Except.ok.injEq] at h
          obtain ⟨rfl, rfl⟩ := h
          rw [List.filterMap_cons_some haccept] at haccepted
          exact ⟨hnetwork, haccepted⟩

/-- **A request that is answered**: the network took it, and one reply in flight was received. -/
theorem request_ok {s s' : Session MockTransport} {ucpMethod : UInt16} {body : Bytes}
    {r : Packet × Bytes} (hosts : s.transport.network.Hosts i cfg state)
    (hmac : device.mac = cfg.mac) (hmethod : ucpMethod ≠ Method.advDisc)
    (h : s.request MockTransport.transport device ucpMethod (.ok body) = (.ok r, s')) :
    s'.transport.network = s.transport.network.setState i
        (reply (requestOf device ucpMethod s.sequence) body cfg state).2 ∧
      (accepted device (s.transport.inFlight ++
        flight s.retries (reply (requestOf device ucpMethod s.sequence) body cfg state).1)).Perm
        (r :: accepted device s'.transport.inFlight) := by
  obtain ⟨⟨n, inFlight, schedule⟩, retries, sequence⟩ := s
  rw [request_directed hosts hmac hmethod, Session.waitForReply] at h
  simp only [Prod.mk.injEq] at h
  obtain ⟨hresult, rfl⟩ := h
  exact waitLoop_ok _ _ _ (Prod.ext hresult rfl)

/-! ## Replies of a device that may fail -/

/-- A read leaves the device alone. -/
theorem reply_getData_state {request : Packet} (hmethod : request.ucpMethod = Method.getData)
    (payload : Bytes) (cfg : DeviceConfig) (state : DeviceState) :
    (reply request payload cfg state).2 = state := by
  unfold reply
  split
  · rfl
  · unfold respond
    split
    · rfl
    · rw [dispatch_getData payload state hmethod]

/-- A device that does not take a write is silent or answers with an error. -/
theorem reply_setData_rejected (h : cfg.takesSetData = false) {request : Packet}
    (hmethod : request.ucpMethod = Method.setData) (payload : Bytes) (state : DeviceState) :
    (reply request payload cfg state).2 = state ∧
      ∀ r, (reply request payload cfg state).1 = some r →
        ∃ x, r.bytes = (buildHeader request cfg Method.error).toBytes ++ x := by
  unfold reply
  split
  · exact ⟨rfl, by simp⟩
  · next hreach =>
    have hfails : cfg.failsOn .set = true := by
      rw [DeviceConfig.takesSetData, Bool.and_eq_false_iff] at h
      rcases h with h | h
      · simp [hreach] at h
      · simpa using h
    have hop : (Op.fromMethod request.ucpMethod).filter cfg.failsOn = some .set := by
      rw [hmethod]
      simp [Op.fromMethod, Method.setData, Method.advDisc, Method.getData, hfails]
    simp only [respond, hop, Option.some.injEq, true_and]
    rintro r rfl
    unfold errorResponse
    exact ⟨_, rfl⟩

/-- The method of a reply that is accepted is the one it was built with. -/
theorem accept_method {request : Packet} {method : UInt16} {x : Bytes} {src : String}
    {r : Packet × Bytes}
    (h : Session.accept device ((buildHeader request cfg method).toBytes ++ x, src) = some r) :
    r.1.ucpMethod = method := by
  have hparse : Packet.fromBytes ((buildHeader request cfg method).toBytes ++ x)
      = .ok (buildHeader request cfg method, x) := Packet.fromBytes_toBytes rfl x
  unfold Session.accept at h
  simp only [hparse] at h
  split at h
  · simp at h
  · split at h
    · simp at h
    · rw [← Option.some.inj h]
      rfl

theorem acks_flight_eq_zero {reply : Option ScheduledReply}
    (h : ∀ r, reply = some r → ∃ request x,
      r.bytes = (buildHeader request cfg Method.error).toBytes ++ x) (retries : Nat) :
    acks device (flight retries reply) = 0 := by
  rw [acks, List.countP_eq_zero]
  intro r hr
  obtain ⟨d, hd, haccept⟩ := List.mem_filterMap.mp hr
  obtain ⟨replies, hreplies, hd⟩ := List.mem_flatten.mp hd
  rw [List.eq_of_mem_replicate hreplies] at hd
  obtain ⟨scheduled, hscheduled, rfl⟩ := List.mem_map.mp hd
  obtain ⟨request, x, hbytes⟩ := h scheduled (Option.mem_toList.mp hscheduled)
  rw [hbytes] at haccept
  rw [accept_method haccept]
  decide

/-! ## The prelude -/

/-- What is in flight once the read before a write has been sent. -/
def readFlight (cfg : DeviceConfig) (state : DeviceState) (device : Device)
    (s : Session MockTransport) : List Datagram :=
  s.transport.inFlight ++ flight s.retries
    (reply (requestOf device Method.getData s.sequence) (getDataPayload names) cfg state).1

/-- The caches a prelude can succeed with: the one there is, or one that a reply decodes to. -/
inductive MayCache (cfg : DeviceConfig) (state : DeviceState) (device : Device)
    (s : Session MockTransport) : Params → Prop
  | cached : device.parameters ≠ OrdMap.empty → MayCache cfg state device s device.parameters
  | read {r : Packet × Bytes} {m : Params} : device.parameters = OrdMap.empty →
      r ∈ accepted device (readFlight cfg state device s) → r.1.ucpMethod = Method.getData →
      GetData.parseResponse r.2 = .ok m → MayCache cfg state device s m

/-- The acknowledgements in flight when a prelude has succeeded. -/
def staleAcks (cfg : DeviceConfig) (state : DeviceState) (device : Device)
    (s : Session MockTransport) : Nat :=
  if device.parameters.isEmpty then acks device (readFlight cfg state device s) - 1
  else acks device s.transport.inFlight

theorem preludeRead_inFlight {s s₁ : Session (MockTransport × List Bytes)} {device₁ : Device}
    (hosts : s.erase.transport.network.Hosts i cfg state) (hmac : device.mac = cfg.mac)
    (h : preludeRead MockTransport.transport.recorded device s = (.ok (), device₁, s₁)) :
    s₁.erase.transport.network = s.erase.transport.network ∧
      MayCache cfg state device s.erase device₁.parameters ∧
      acks device s₁.erase.transport.inFlight = staleAcks cfg state device s.erase := by
  rcases preludeRead_ok h with ⟨hfull, rfl, rfl⟩ | ⟨hempty, m, hget, rfl⟩
  · rw [staleAcks, if_neg (mt OrdMap.isEmpty_iff.mp hfull)]
    exact ⟨rfl, .cached hfull, rfl⟩
  · obtain ⟨_, r, payload, hreq, hmethod, hparse⟩ := get_ok hget
    have herased := Session.request_recorded (T := MockTransport.transport) device Method.getData
      (.ok (getDataPayload names)) s
    simp only [hreq] at herased
    obtain ⟨hnetwork, hperm⟩ := request_ok hosts hmac (by decide) herased
    rw [reply_getData_state rfl, hosts.setState_self] at hnetwork
    refine ⟨hnetwork, .read hempty (hperm.mem_iff.mpr List.mem_cons_self) hmethod hparse, ?_⟩
    -- the reply that was read would have been an acknowledgement
    have hcount := hperm.countP_eq fun r => isAck r.1.ucpMethod
    have hack : isAck (r, payload).1.ucpMethod = true := by
      rw [hmethod]
      rfl
    rw [List.countP_cons_of_pos (p := fun r : Packet × Bytes => isAck r.1.ucpMethod) hack] at hcount
    rw [staleAcks, if_pos (OrdMap.isEmpty_iff.mpr hempty), acks, acks, readFlight, hcount]
    rfl

/-! ## One write -/

/-- The device takes the packet as a write, which leaves it in `state'`. -/
def Takes (cfg : DeviceConfig) (state : DeviceState) (packet : Bytes) (state' : DeviceState) :
    Prop :=
  ∃ header body count, Packet.fromBytes packet = .ok (header, body) ∧
    header.ucpMethod = Method.setData ∧ header.dstAddress = cfg.mac ∧
    reply header body cfg state = (some (scheduled header cfg count), state')

/-- Working memory holds what the values under the names of the table encode to. -/
def HoldsValues (config : Params) (state : DeviceState) : Prop :=
  ∀ p ∈ parameters, ∀ v, config.get? p.name = some v →
    ∃ b, p.encode v = .ok b ∧ state.get p.name = some (decodeParamValue b)

/--
A `set` that succeeds sent a packet that device `i` took, and the device holds the values of
`config`; a `set` that fails merges nothing.
-/
def Acknowledged (i : Nat) (cfg : DeviceConfig) (state : DeviceState) (device : Device)
    (config : Params) (s : Session (MockTransport × List Bytes)) : Prop :=
  let r := Udap.set MockTransport.transport.recorded device config s
  (r.1 = .ok () → ∃ sent state', r.2.2.log = s.log ++ sent ∧
    (∃ packet ∈ sent, Takes cfg state packet state') ∧
    r.2.2.transport.1.network.Hosts i cfg state' ∧ HoldsValues config state') ∧
  (r.1 ≠ .ok () → r.2.1 = device ∨
    r.2.1 = (preludeRead MockTransport.transport.recorded device s).2.1)

/-- The value under the name of the table is the one that is written, or encodes to the same. -/
def TableNamesLast (cache config : Params) : Prop :=
  ∀ p ∈ parameters, ∀ v w, config.get? p.name = some v →
    lastValue (cache.extend config) p = some w → p.render w = p.render v

/--
The condition of one `set`. Whatever cache its prelude may leave, if it gets to send a write: a
device that takes writes gets the values under the names of the table, and for a device that does
not no acknowledgement is left over.
-/
def AcknowledgedWhen (cfg : DeviceConfig) (state : DeviceState) (device : Device)
    (config : Params) (s : Session MockTransport) : Prop :=
  ∀ cache, MayCache cfg state device s cache → Sendable (cache.extend config) →
    if cfg.takesSetData then TableNamesLast cache config
    else staleAcks cfg state device s = 0

/-- A named value is in the map that is sent. -/
theorem exists_lastValue_extend (cache : Params) {config : Params} {p : Parameter} {v : Bytes}
    (hp : p ∈ parameters) (h : config.get? p.name = some v) :
    ∃ w, lastValue (cache.extend config) p = some w := by
  refine Option.ne_none_iff_exists'.mp fun hnone => ?_
  have hget := lastValue_eq_none_iff.mp hnone p.name (byName_name p hp)
  rw [OrdMap.get?_extend, h, Option.some_or] at hget
  simp at hget

theorem holdsValues_write {cache config : Params} {body : Bytes}
    (hbody : setDataPayload (cache.extend config) = .ok body)
    (hlast : TableNamesLast cache config) (state : DeviceState) :
    HoldsValues config (state.write body) := by
  intro p hp v hv
  obtain ⟨w, hw⟩ := exists_lastValue_extend cache hp hv
  obtain ⟨bw, _, hrender⟩ := render_lastValue hbody hw
  rw [hlast p hp v w hv hw] at hrender
  obtain ⟨b, hb, hformat⟩ := Parameter.encode_of_render hrender
  refine ⟨b, hb, ?_⟩
  rw [get_write_of_some hbody hp hw, hlast p hp v w hv hw, hrender, decodeParamValue_eq_formatValue,
    ← hformat]

/-- Of a handle only the MAC and the address matter for what it accepts. -/
theorem acks_prelude {device₁ : Device} (h : device₁ = { device with parameters := device₁.parameters })
    (inFlight : List Datagram) : acks device₁ inFlight = acks device inFlight := by
  rw [h]
  rfl

/-- A device that does not take a write acknowledges nothing, and nothing else in flight does. -/
theorem request_rejected {s s' : Session MockTransport} {body : Bytes} {r : Packet × Bytes}
    (hosts : s.transport.network.Hosts i cfg state) (hmac : device.mac = cfg.mac)
    (htakes : cfg.takesSetData = false) (hstale : acks device s.transport.inFlight = 0)
    (h : s.request MockTransport.transport device Method.setData (.ok body) = (.ok r, s')) :
    isAck r.1.ucpMethod = false := by
  obtain ⟨_, hperm⟩ := request_ok hosts hmac (by decide) h
  obtain ⟨_, hreject⟩ := reply_setData_rejected htakes
    (show (requestOf device Method.setData s.sequence).ucpMethod = Method.setData from rfl) body
    state
  have hown : acks device (flight s.retries
      (reply (requestOf device Method.setData s.sequence) body cfg state).1) = 0 :=
    acks_flight_eq_zero (fun r hr => ⟨_, hreject r hr⟩) _
  have hnone : acks device (s.transport.inFlight ++ flight s.retries
      (reply (requestOf device Method.setData s.sequence) body cfg state).1) = 0 := by
    rw [acks_append, hown, hstale]
  rw [acks, List.countP_eq_zero] at hnone
  simpa using hnone r (hperm.mem_iff.mpr List.mem_cons_self)

/-- A device that takes a write takes the packet, whichever reply is received. -/
theorem request_taken {s s' : Session (MockTransport × List Bytes)} {body : Bytes}
    {r : Packet × Bytes} (hosts : s.erase.transport.network.Hosts i cfg state)
    (hmac : device.mac = cfg.mac) (htakes : cfg.takesSetData = true)
    (h : s.erase.request MockTransport.transport device Method.setData (.ok body)
      = (.ok r, s'.erase)) :
    Takes cfg state (s.packet device Method.setData body) (state.write body) ∧
      s'.transport.1.network.Hosts i cfg (state.write body) := by
  obtain ⟨hnetwork, _⟩ := request_ok hosts hmac (by decide) h
  rw [reply_setData htakes rfl body state] at hnetwork
  have hosts' := hosts.setState (state.write body)
  rw [← hnetwork] at hosts'
  exact ⟨⟨_, body, _, Session.fromBytes_packet device Method.setData body s, rfl, hmac,
    reply_setData htakes rfl body state⟩, hosts'⟩

/-- **One `set` that finds no acknowledgement left over.** -/
theorem set_acknowledged {config : Params} {s : Session (MockTransport × List Bytes)}
    (hosts : s.erase.transport.network.Hosts i cfg state) (hmac : device.mac = cfg.mac)
    (hcond : AcknowledgedWhen cfg state device config s.erase) :
    Acknowledged i cfg state device config s := by
  unfold Acknowledged
  rcases hset : Udap.set MockTransport.transport.recorded device config s with ⟨e | _, device', s'⟩
  · refine ⟨by simp, fun _ => ?_⟩
    rcases set_error hset with ⟨_, _, rfl, _⟩ | ⟨_, hprelude⟩ | ⟨_, s₁, hprelude, _⟩
    · exact Or.inl rfl
    · exact Or.inr (by rw [hprelude])
    · exact Or.inr (by rw [hprelude])
  · refine ⟨fun _ => ?_, by simp⟩
    obtain ⟨hzero, device₁, s₁, r, payload, hprelude, hreq, hack, rfl⟩ := set_ok hset
    obtain ⟨hnetwork, hmay, hstale⟩ := preludeRead_inFlight hosts hmac hprelude
    have hdevice := preludeRead_device hprelude
    cases hbody : setDataPayload (device₁.parameters.extend config) with
    | error e =>
      rw [hbody] at hreq
      simp [Session.request] at hreq
    | ok body =>
      rw [hbody] at hreq
      have hmac₁ : device₁.mac = cfg.mac := by rw [hdevice, hmac]
      have herased := Session.request_recorded (T := MockTransport.transport) device₁
        Method.setData (.ok body) s₁
      simp only [hreq] at herased
      have hosts₁ : s₁.erase.transport.network.Hosts i cfg state := by rw [hnetwork]; exact hosts
      have hwhen := hcond _ hmay ⟨body, hbody⟩
      cases htakes : cfg.takesSetData with
      | true =>
        rw [htakes, if_pos rfl] at hwhen
        obtain ⟨htaken, hosts'⟩ := request_taken hosts₁ hmac₁ htakes herased
        obtain ⟨sent, hsent, _⟩ := log_preludeRead (T := MockTransport.transport) hzero s
        have hlog := log_set hzero hprelude hbody
        rw [hprelude] at hsent
        rw [hset, hsent, List.append_assoc] at hlog
        exact ⟨_, state.write body, hlog,
          ⟨s₁.packet device₁ Method.setData body, by simp, htaken⟩, hosts',
          holdsValues_write hbody hwhen state⟩
      | false =>
        -- what was received is taken for an acknowledgement, but there is none
        rw [htakes, if_neg (by simp)] at hwhen
        have hstale₁ : acks device₁ s₁.erase.transport.inFlight = 0 := by
          rw [acks_prelude hdevice, hstale, hwhen]
        rw [request_rejected hosts₁ hmac₁ htakes hstale₁ herased] at hack
        simp at hack

/-! ## Runs -/

/-- Every `set` of a run of calls on one session, each with the handle it is made on. -/
def AllSets {σ : Type} (T : Transport σ) (P : Device → Params → Session σ → Prop) :
    Session σ → List (Device × Call) → Prop
  | _, [] => True
  | s, (device, call) :: rest =>
    (∀ config, call = .set config → P device config s) ∧ AllSets T P (call.run T device s).2.2 rest

theorem AllSets.imp {σ : Type} {T : Transport σ} {P Q : Device → Params → Session σ → Prop}
    (h : ∀ device config s, P device config s → Q device config s) :
    ∀ (calls : List (Device × Call)) (s : Session σ), AllSets T P s calls → AllSets T Q s calls
  | [], _, _ => trivial
  | (_, _) :: rest, _, hall =>
    ⟨fun config hc => h _ _ _ (hall.1 config hc), AllSets.imp h rest _ hall.2⟩

/--
**Acknowledged means applied.** In every run of operations on one session, whatever is in flight and
in whatever order it arrives: if every `set` meets its condition for the device it addresses, then
every `set` that succeeds was applied by that device.
-/
theorem run_acknowledged (calls : List (Device × Call)) (s : Session (MockTransport × List Bytes))
    (hwhen : AllSets MockTransport.transport.recorded (fun device config s =>
      ∀ i cfg state, s.erase.transport.network.Hosts i cfg state → device.mac = cfg.mac →
        AcknowledgedWhen cfg state device config s.erase) s calls) :
    AllSets MockTransport.transport.recorded (fun device config s =>
      ∀ i cfg state, s.erase.transport.network.Hosts i cfg state → device.mac = cfg.mac →
        Acknowledged i cfg state device config s) s calls :=
  AllSets.imp (fun _ _ _ h i cfg state hosts hmac => set_acknowledged hosts hmac
    (h i cfg state hosts hmac)) calls s hwhen

/-! ## Two runs of one `set` -/

theorem tableNamesLast_of_canonical {cache config : Params} (hm : ∀ p, CanonicalFor cache p)
    (hone : OneName config) : TableNamesLast cache config := by
  intro p hp v w hv hw
  rw [lastValue_extend_of_named (hm p) hone ⟨p.name, byName_name p hp, hv⟩] at hw
  rw [Option.some.inj hw]

/-- A session on a network where nothing has happened yet. -/
def recordedSession (n : Network) (retries : Nat) : Session (MockTransport × List Bytes) :=
  ⟨(MockTransport.new n, []), retries, 0⟩

/-- A write to a device that takes it. -/
theorem run_acknowledged_factory :
    AllSets MockTransport.transport.recorded (fun device config s =>
      ∀ i cfg state, s.erase.transport.network.Hosts i cfg state → device.mac = cfg.mac →
        Acknowledged i cfg state device config s) (recordedSession factoryNetwork 1)
      [(freshDevice, .set (single "hostname" "kitchen"))] := by
  refine run_acknowledged _ _ ⟨?_, trivial⟩
  intro config hc i cfg state hosts _ cache hmay _
  cases hc
  have hcfg : cfg = DeviceConfig.defaultWithMac (Mac.auto 1) :=
    List.mem_singleton.mp (List.mem_of_getElem? hosts.device)
  have htakes : cfg.takesSetData = true := by
    rw [hcfg]
    exact (DeviceConfig.faultFree_defaultWithMac _).takesSetData
  rw [if_pos htakes]
  cases hmay with
  | cached hfull => exact absurd rfl hfull
  | read _ _ _ hparse =>
    exact tableNamesLast_of_canonical (canonicalFor_parseResponse hparse) (oneName_single _ _)

theorem flight_succ (retries : Nat) (r : ScheduledReply) :
    flight (retries + 1) (some r) = (r.bytes, r.src) :: flight retries (some r) := rfl

/-- Without a schedule a request is answered by what has been in flight longest. -/
theorem request_head {s : Session (MockTransport × List Bytes)} {inFlight rest : List Datagram}
    {retries : Nat} {sequence ucpMethod : UInt16} {d : Datagram} {r : Packet × Bytes}
    (hs : s.erase = ⟨⟨n, inFlight, []⟩, retries, sequence⟩) (hosts : n.Hosts i cfg state)
    (hmac : device.mac = cfg.mac) (hmethod : ucpMethod ≠ Method.advDisc) (body : Bytes)
    (hflight : inFlight ++ flight retries (reply (requestOf device ucpMethod sequence) body cfg
      state).1 = d :: rest) (haccept : Session.accept device d = some r) :
    ∃ s', s.request MockTransport.transport.recorded device ucpMethod (.ok body) = (.ok r, s') ∧
      s'.erase = ⟨⟨n.setState i (reply (requestOf device ucpMethod sequence) body cfg state).2,
        rest, []⟩, retries, sequence + 1⟩ := by
  have herased := Session.request_recorded (T := MockTransport.transport) device ucpMethod
    (.ok body) s
  rw [hs, request_directed hosts hmac hmethod, hflight, waitForReply_head haccept] at herased
  obtain ⟨hresult, hsession⟩ := Prod.mk.inj herased
  exact ⟨_, Prod.ext hresult.symm rfl, hsession.symm⟩

/--
With a retry, a device that answers the read before a write answers it twice, and the second reply
acknowledges the write whatever the device makes of it.
-/
theorem set_ok_of_retry {config : Params} (hosts : n.Hosts i cfg state)
    (haddr : Addresses device cfg) (hfresh : device.parameters = OrdMap.empty)
    (hreach : cfg.unreachable = false) (hfails : cfg.failsOn .get = false)
    (hmalformed : cfg.malformed = .none) (hencodes : Encodable config) (retries : Nat) :
    (Udap.set MockTransport.transport.recorded device config (recordedSession n (retries + 1))).1
      = .ok () := by
  have hreply : reply (requestOf device Method.getData 0) (getDataPayload names) cfg state
      = (some (scheduled (requestOf device Method.getData 0) cfg
          (getDataBody state (getDataPayload names))), state) :=
    reply_getData_of_passes hreach hfails hmalformed rfl _ _
  have haccept (m : Params) := accept_reply (haddr.withParameters m)
    (requestOf device Method.getData 0) Method.getData (getDataBody state (getDataPayload names))
  -- the read takes the first reply and leaves the others in flight
  have hflight := (congrArg (fun r => flight (retries + 1) r.1) hreply).trans (flight_succ retries _)
  have hstart : (recordedSession n (retries + 1)).erase = ⟨⟨n, [], []⟩, retries + 1, 0⟩ := rfl
  obtain ⟨s₁, hread, hs₁⟩ := request_head hstart hosts haddr.mac (by decide) _ hflight
    (haccept device.parameters)
  rw [hreply, hosts.setState_self] at hs₁
  have hprelude := preludeRead_of_reply haddr.isZero hfresh hread rfl
    (parseResponse_getDataItems state names)
  -- the write takes the next of them
  obtain ⟨body, hbody⟩ := setDataPayload_readout_isOk state hencodes
  have hmethod : Method.setData ≠ Method.advDisc := by decide
  obtain ⟨s₂, hwrite, _⟩ := request_head hs₁ hosts
    (haddr.withParameters (state.readout (answered names))).mac hmethod body rfl (haccept _)
  rw [Udap.set, if_neg (by simp [haddr.isZero]), hprelude]
  simp only [hbody, hwrite]
  rfl

/-- A device that answers reads and rejects writes. -/
def rejecting : DeviceConfig := { DeviceConfig.defaultWithMac (Mac.auto 1) with failOn := [.set] }

/-- **With one retry the second reply to the read acknowledges a write that was rejected.** -/
theorem run_not_acknowledged :
    ¬ AllSets MockTransport.transport.recorded (fun device config s =>
      ∀ i cfg state, s.erase.transport.network.Hosts i cfg state → device.mac = cfg.mac →
        Acknowledged i cfg state device config s) (recordedSession (Network.new [rejecting]) 1)
      [(freshDevice, .set (single "hostname" "kitchen"))] := by
  intro h
  have hosts : (Network.new [rejecting]).Hosts 0 rejecting (DeviceState.factoryWith OrdMap.empty) :=
    ⟨rfl, rfl, List.nodup_singleton _⟩
  have haddr : Addresses freshDevice rejecting := ⟨rfl, Or.inl rfl, by decide⟩
  have hencodes : Encodable (single "hostname" "kitchen") := encodable_single byName_hostname rfl
  have hok := set_ok_of_retry hosts haddr rfl rfl rfl rfl hencodes 0
  obtain ⟨_, _, _, ⟨_, _, header, _, _, _, hmethod, _, hreply⟩, _⟩ :=
    (h.1 _ rfl 0 rejecting _ hosts rfl).1 hok
  have hrejects : rejecting.takesSetData = false := by decide
  obtain ⟨x, hbytes⟩ := (reply_setData_rejected hrejects hmethod _ _).2 _ (by rw [hreply])
  -- the reply is an error, and not one with the method of the request
  have hpacket := congrArg Packet.fromBytes hbytes
  rw [scheduled, Packet.fromBytes_toBytes rfl, Packet.fromBytes_toBytes rfl, hmethod] at hpacket
  simp only [Except.ok.injEq, Prod.mk.injEq] at hpacket
  have hmethods : Method.setData = Method.error := congrArg Packet.ucpMethod hpacket.1
  exact absurd hmethods (by decide)

end Mocksbr
