import Udapcfg.Mocksbr.Transport

/-!
# One device of a network

A directed request reaches the device it names and no other, as long as MACs are distinct.

* `receive_directed` — the network's replies and the network after are those of that device
* `reply_idem` — delivering a request again changes nothing more and brings the same reply
* `Network.Reachable.settled` — between datagrams the two memories of a device agree
-/

namespace Mocksbr

open Infra Udap

/-! ## A device in a network -/

namespace Network

/-- `cfg` is device number `i`, in the given state, and no two devices share a MAC. -/
structure Hosts (n : Network) (i : Nat) (cfg : DeviceConfig) (state : DeviceState) : Prop where
  device : n.devices[i]? = some cfg
  state : n.state[i]? = some state
  distinct : (n.devices.map DeviceConfig.mac).Nodup

/-- The network with another state for device `i`. -/
def setState (n : Network) (i : Nat) (state : DeviceState) : Network where
  devices := n.devices
  state := n.state.set i state
  aligned := by rw [List.length_set]; exact n.aligned

@[ext] theorem ext' {n n' : Network} (hd : n.devices = n'.devices) (hs : n.state = n'.state) :
    n = n' := by
  cases n
  cases n'
  cases hd
  cases hs
  rfl

variable {n : Network} {i j : Nat} {cfg cfg' : DeviceConfig} {state state' : DeviceState}

theorem Hosts.setState (h : n.Hosts i cfg state) (state' : DeviceState) :
    (n.setState i state').Hosts i cfg state' := by
  refine ⟨h.device, ?_, h.distinct⟩
  have hlt := (List.getElem?_eq_some_iff.mp h.state).1
  exact List.getElem?_set_self hlt

/-- The other devices do not notice. -/
theorem Hosts.setState_of_ne (h : n.Hosts j cfg state) (hij : i ≠ j) (state' : DeviceState) :
    (n.setState i state').Hosts j cfg state :=
  ⟨h.device, (List.getElem?_set_ne hij).trans h.state, h.distinct⟩

theorem Hosts.setState_self (h : n.Hosts i cfg state) : n.setState i state = n := by
  obtain ⟨hlt, hget⟩ := List.getElem?_eq_some_iff.mp h.state
  refine Network.ext' rfl ?_
  rw [Network.setState, ← hget]
  exact List.set_getElem_self hlt

theorem setState_setState (n : Network) (i : Nat) (state state' : DeviceState) :
    (n.setState i state).setState i state' = n.setState i state' :=
  Network.ext' rfl (List.set_set state)

end Network

/-! ## Directed requests -/

/-- What a device does with a request that names it. -/
def reply (request : Packet) (payload : Bytes) (cfg : DeviceConfig) (state : DeviceState) :
    Option ScheduledReply × DeviceState :=
  if cfg.unreachable then (none, state) else respond request payload cfg state

theorem isAddressed_of_mac {request : Packet} {cfg : DeviceConfig}
    (hmethod : request.ucpMethod ≠ Method.advDisc) (hmac : request.dstAddress = cfg.mac) :
    isAddressed request cfg = !cfg.unreachable := by
  simp [isAddressed, hmethod, hmac]

theorem isAddressed_of_ne {request : Packet} {cfg : DeviceConfig}
    (hmethod : request.ucpMethod ≠ Method.advDisc) (hmac : request.dstAddress ≠ cfg.mac) :
    isAddressed request cfg = false := by
  simp [isAddressed, hmethod, hmac]

/-- Devices with other MACs are passed over. -/
theorem receiveFrom_of_ne {request : Packet} (payload : Bytes)
    (hmethod : request.ucpMethod ≠ Method.advDisc) :
    ∀ (index : Nat) (devices : List DeviceConfig) (states : List DeviceState),
    (∀ cfg ∈ devices, request.dstAddress ≠ cfg.mac) →
    receiveFrom request payload index devices states = ([], states)
  | _, [], _, _ => rfl
  | index, cfg :: rest, states, h => by
    rw [receiveFrom, isAddressed_of_ne hmethod (h cfg List.mem_cons_self), if_neg (by simp)]
    exact receiveFrom_of_ne payload hmethod (index + 1) rest states
      fun c hc => h c (List.mem_cons_of_mem _ hc)

theorem receiveFrom_directed {request : Packet} (payload : Bytes) {cfg : DeviceConfig}
    {state : DeviceState} (hmethod : request.ucpMethod ≠ Method.advDisc)
    (hmac : request.dstAddress = cfg.mac) :
    ∀ (i index : Nat) (devices : List DeviceConfig) (states : List DeviceState),
    devices[i]? = some cfg → states[index + i]? = some state →
    (devices.map DeviceConfig.mac).Nodup →
    receiveFrom request payload index devices states
      = ((reply request payload cfg state).1.toList,
        states.set (index + i) (reply request payload cfg state).2)
  | 0, index, c :: rest, states, hdevice, hstate, hdistinct => by
    -- this is the device, and those behind it have other MACs
    cases hdevice
    have hrest : ∀ c ∈ rest, request.dstAddress ≠ c.mac := by
      intro c hc he
      rw [List.map_cons, List.nodup_cons] at hdistinct
      exact hdistinct.1 (List.mem_map.mpr ⟨c, hc, by rw [← he, hmac]⟩)
    rw [Nat.add_zero] at hstate ⊢
    rw [receiveFrom, isAddressed_of_mac hmethod hmac, reply]
    cases hun : cfg.unreachable with
    | true =>
      obtain ⟨hlt, hget⟩ := List.getElem?_eq_some_iff.mp hstate
      simp only [Bool.not_true, Bool.false_eq_true, if_false, if_true, Option.toList_none]
      rw [receiveFrom_of_ne payload hmethod _ _ _ hrest, ← hget, List.set_getElem_self hlt]
    | false =>
      simp only [Bool.not_false, if_true, Bool.false_eq_true, if_false, hstate]
      rw [receiveFrom_of_ne payload hmethod _ _ _ hrest, List.append_nil]
  | i + 1, index, c :: rest, states, hdevice, hstate, hdistinct => by
    -- this is another device, which is passed over
    rw [List.map_cons, List.nodup_cons] at hdistinct
    have hne : request.dstAddress ≠ c.mac := by
      intro he
      refine hdistinct.1 (List.mem_map.mpr ⟨cfg, List.mem_of_getElem? hdevice, ?_⟩)
      rw [← hmac, he]
    rw [receiveFrom, isAddressed_of_ne hmethod hne, if_neg (by simp)]
    rw [show index + (i + 1) = index + 1 + i by omega] at hstate ⊢
    exact receiveFrom_directed payload hmethod hmac i (index + 1) rest states hdevice hstate
      hdistinct.2

/-- **A directed request reaches one device.** -/
theorem receive_directed {n : Network} {i : Nat} {cfg : DeviceConfig} {state : DeviceState}
    (h : n.Hosts i cfg state) (request : Packet) (hucp : request.udapType = udapTypeUcp)
    (hmethod : request.ucpMethod ≠ Method.advDisc) (hmac : request.dstAddress = cfg.mac)
    (payload : Bytes) :
    n.receive (request.toBytes ++ payload)
      = ((reply request payload cfg state).1.toList,
        n.setState i (reply request payload cfg state).2) := by
  have hpass := receiveFrom_directed payload hmethod hmac i 0 n.devices n.state h.device
    (by rw [Nat.zero_add]; exact h.state) h.distinct
  rw [Nat.zero_add] at hpass
  rw [Network.receive, Packet.fromBytes_toBytes hucp]
  simp only [hpass]
  rfl

/-! ## The dispatch, method by method -/

section Dispatch

variable {request : Packet} {cfg : DeviceConfig} (payload : Bytes) (state : DeviceState)

theorem dispatch_getData (h : request.ucpMethod = Method.getData) :
    dispatch request payload cfg state
      = (some (getDataResponse request cfg state payload), state) := by
  rw [dispatch, h]
  rfl

theorem dispatch_setData (h : request.ucpMethod = Method.setData) :
    dispatch request payload cfg state
      = (some (setDataResponse request cfg (u16OrMax (parseSetDataRequest payload).length)),
        (state.applySet (setDataUpdates (parseSetDataRequest payload))).applySave) := by
  rw [dispatch, h]
  rfl

theorem dispatch_reset (h : request.ucpMethod = Method.reset) :
    dispatch request payload cfg state
      = (some (resetResponse request cfg), state.applyReset) := by
  rw [dispatch, h]
  rfl

theorem dispatch_getIp (h : request.ucpMethod = Method.getIp) (hdrop : cfg.dropGetIp = false) :
    dispatch request payload cfg state = (some (getIpResponse request cfg), state) := by
  rw [dispatch, h, hdrop]
  rfl

theorem dispatch_getUuid (h : request.ucpMethod = Method.getUuid)
    (hdrop : cfg.dropGetUuid = false) :
    dispatch request payload cfg state = (some (getUuidResponse request cfg), state) := by
  rw [dispatch, h, hdrop]
  rfl

/-- Only a write and a reset change anything. -/
theorem dispatch_state (hset : request.ucpMethod ≠ Method.setData)
    (hreset : request.ucpMethod ≠ Method.reset) :
    (dispatch request payload cfg state).2 = state := by
  simp only [dispatch, hset, hreset, if_false, apply_ite Prod.snd, ite_self]

end Dispatch

/-! ## Repetition -/

theorem DeviceState.applySet_applySave_idem (state : DeviceState) (updates : Params) :
    (((state.applySet updates).applySave).applySet updates).applySave
      = (state.applySet updates).applySave := by
  have h : (state.working.extend updates).extend updates = state.working.extend updates := by
    ext k v
    rw [OrdMap.get?_extend, OrdMap.get?_extend]
    cases updates.get? k <;> simp
  simp only [applySet, applySave, h]

theorem dispatch_idem (request : Packet) (payload : Bytes) (cfg : DeviceConfig)
    (state : DeviceState) :
    dispatch request payload cfg (dispatch request payload cfg state).2
      = dispatch request payload cfg state := by
  by_cases hset : request.ucpMethod = Method.setData
  · simp only [dispatch_setData _ _ hset, DeviceState.applySet_applySave_idem]
  · by_cases hreset : request.ucpMethod = Method.reset
    · simp only [dispatch_reset _ _ hreset]
      rfl
    · rw [dispatch_state payload state hset hreset]

theorem respond_idem (request : Packet) (payload : Bytes) (cfg : DeviceConfig)
    (state : DeviceState) :
    respond request payload cfg (respond request payload cfg state).2
      = respond request payload cfg state := by
  unfold respond
  split
  · rfl
  · simp only [dispatch_idem]

theorem reply_idem (request : Packet) (payload : Bytes) (cfg : DeviceConfig)
    (state : DeviceState) :
    reply request payload cfg (reply request payload cfg state).2
      = reply request payload cfg state := by
  unfold reply
  split
  · rfl
  · exact respond_idem request payload cfg state

/-! ## Reachable networks -/

/-- Networks that some history of datagrams leads to. -/
inductive Network.Reachable : Network → Prop
  | new (devices : List DeviceConfig) : Reachable (Network.new devices)
  | receive {n : Network} (packet : Bytes) : Reachable n → Reachable (n.receive packet).2

section Invariant

variable {P : DeviceState → Prop}
  (hset : ∀ state updates, P state → P ((state.applySet updates).applySave))
  (hreset : ∀ state, P state → P state.applyReset)

include hset hreset

/-- What writes and resets preserve, every request preserves. -/
theorem respond_invariant (request : Packet) (payload : Bytes) (cfg : DeviceConfig)
    {state : DeviceState} (h : P state) : P (respond request payload cfg state).2 := by
  unfold respond
  split
  · exact h
  · show P (dispatch request payload cfg state).2
    by_cases hmethod : request.ucpMethod = Method.setData
    · rw [dispatch_setData payload state hmethod]
      exact hset state _ h
    · by_cases hmethod' : request.ucpMethod = Method.reset
      · rw [dispatch_reset payload state hmethod']
        exact hreset state h
      · rw [dispatch_state payload state hmethod hmethod']
        exact h

theorem receiveFrom_invariant (request : Packet) (payload : Bytes) :
    ∀ (index : Nat) (devices : List DeviceConfig) (states : List DeviceState),
    (∀ state ∈ states, P state) →
    ∀ state ∈ (receiveFrom request payload index devices states).2, P state
  | _, [], _, h => h
  | index, cfg :: rest, states, h => by
    unfold receiveFrom
    split
    · split
      · exact receiveFrom_invariant request payload (index + 1) rest states h
      · next state hstate =>
        refine receiveFrom_invariant request payload (index + 1) rest _ ?_
        intro x hx
        rcases List.mem_or_eq_of_mem_set hx with hx | rfl
        · exact h x hx
        · exact respond_invariant hset hreset request payload cfg
            (h state (List.mem_of_getElem? hstate))
    · exact receiveFrom_invariant request payload (index + 1) rest states h

/-- **Invariants of a device**: what a device starts with and writes and resets preserve holds in
every state it can get to. -/
theorem Network.Reachable.invariant (hnew : ∀ seed, P (DeviceState.factoryWith seed)) {n : Network}
    (h : n.Reachable) : ∀ state ∈ n.state, P state := by
  induction h with
  | new devices =>
    intro state hstate
    obtain ⟨cfg, _, rfl⟩ := List.mem_map.mp hstate
    exact hnew cfg.nvram
  | @receive n packet _ ih =>
    unfold Network.receive
    split
    · exact ih
    · exact receiveFrom_invariant hset hreset _ _ 0 n.devices n.state ih

end Invariant

/-- The memories of a device agree. -/
def DeviceState.Settled (state : DeviceState) : Prop := state.working = state.nvram

/-- Then a reset changes nothing. -/
theorem DeviceState.Settled.applyReset {state : DeviceState} (h : state.Settled) :
    state.applyReset = state := by
  cases state
  cases h
  rfl

/-- **Between datagrams memories agree**: every write is saved at once. -/
theorem Network.Reachable.settled {n : Network} (h : n.Reachable) :
    ∀ state ∈ n.state, state.Settled :=
  h.invariant (fun _ _ _ => rfl) (fun _ _ => rfl) (fun _ => rfl)

theorem Network.Hosts.settled {n : Network} {i : Nat} {cfg : DeviceConfig} {state : DeviceState}
    (h : n.Hosts i cfg state) (hreach : n.Reachable) : state.Settled :=
  hreach.settled state (List.mem_of_getElem? h.state)

/-! ## Complete memories -/

/-- Both memories have a value for every parameter. -/
def DeviceState.Full (state : DeviceState) : Prop :=
  ∀ p ∈ parameters, state.working.get? p.name ≠ none ∧ state.nvram.get? p.name ≠ none

theorem get?_factory_ne_none {p : Parameter} (hp : p ∈ parameters) :
    DeviceState.factory.working.get? p.name ≠ none := by
  rw [DeviceState.factory, OrdMap.get?_insertAll, OrdMap.get?_empty, Option.or_none]
  intro hnone
  exact OrdMap.lookup_eq_none_iff.mp hnone _ (List.mem_reverse.mpr (List.mem_map_of_mem hp)) rfl

theorem get?_extend_ne_none {m : Params} {k : String} (h : m.get? k ≠ none) (updates : Params) :
    (m.extend updates).get? k ≠ none := by
  rw [OrdMap.get?_extend]
  cases updates.get? k with
  | none => simpa using h
  | some v => simp

/-- **No value is ever missing**: defaults are there from the start, and nothing is deleted. -/
theorem Network.Reachable.full {n : Network} (h : n.Reachable) : ∀ state ∈ n.state, state.Full := by
  refine h.invariant ?_ ?_ ?_
  · intro state updates hfull p hp
    have hworking := get?_extend_ne_none (hfull p hp).1 updates
    exact ⟨hworking, hworking⟩
  · intro state hfull p hp
    exact ⟨(hfull p hp).2, (hfull p hp).2⟩
  · intro seed p hp
    have hseed := get?_extend_ne_none (get?_factory_ne_none hp) seed
    exact ⟨hseed, hseed⟩

end Mocksbr
