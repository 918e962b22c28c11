import Udapcfg.Properties.Clock
import Udapcfg.Properties.Service
import Udapcfg.Properties.Simulation
import Udapcfg.Properties.WireTrace

/-!
# Operations and deadlines

An operation on a slow device, for a caller that waits for so long and no longer.

* `call_in_time` — a device that answers in time serves the operation as if there were no clock
* `call_too_late` — one that does not looks silent, but has done what the first request asked
* `set_cut_off` — a write that is read back in time and acknowledged too late is on the device
-/

namespace Mocksbr

open Infra Udap TimedTransport

variable {n : Network} {i : Nat} {cfg : DeviceConfig} {state : DeviceState} {device : Device}
  {lag : Nat}

/-! ## Replies -/

/-- A reply of a device is one, whatever the request: it has a header from the device, and it is as
late as the device is slow. -/
structure IsReplyOf (cfg : DeviceConfig) (request : Packet) (r : ScheduledReply) : Prop where
  src : r.src = cfg.mac.format
  delay : r.delay = cfg.slow
  bytes : ∃ method x, r.bytes = (buildHeader request cfg method).toBytes ++ x

theorem isReplyOf_reply {request : Packet} {body : Bytes} {r : ScheduledReply}
    (h : (reply request body cfg state).1 = some r) : IsReplyOf cfg request r := by
  unfold reply at h
  split at h
  · cases h
  · unfold respond at h
    split at h
    · cases h
      exact ⟨rfl, rfl, _, _, rfl⟩
    · obtain ⟨bytes, hbytes, rfl⟩ := Option.map_eq_some_iff.mp h
      refine ⟨rfl, rfl, ?_⟩
      unfold dispatch at hbytes
      simp only at hbytes
      split_ifs at hbytes
      · exact ⟨_, _, (Option.some.inj hbytes).symm⟩
      · exact ⟨_, _, (Option.some.inj hbytes).symm⟩
      · exact ⟨_, _, (Option.some.inj hbytes).symm⟩
      · exact ⟨_, _, (Option.some.inj hbytes).symm⟩
      · exact ⟨_, _, (Option.some.inj hbytes).symm⟩
      · exact ⟨_, [], (Option.some.inj hbytes).symm.trans (List.append_nil _).symm⟩

theorem IsReplyOf.accept {request : Packet} {r : ScheduledReply} (h : IsReplyOf cfg request r)
    (haddr : Addresses device cfg) :
    ∃ result, Session.accept device (r.bytes, r.src) = some result := by
  obtain ⟨hsrc, _, method, x, hbytes⟩ := h
  rw [hsrc, hbytes]
  exact ⟨_, accept_reply haddr request method x⟩

/-! ## Requests -/

section Requests

variable {t : TimedTransport} {ucpMethod : UInt16}

/-- **A request to one device**: one change of state, and its reply `retries + 1` times. -/
theorem request_timed (hosts : t.network.Hosts i cfg state) (hmac : device.mac = cfg.mac)
    (hmethod : ucpMethod ≠ Method.advDisc) (body : Bytes) (retries : Nat) (sequence : UInt16) :
    let r := reply (requestOf device ucpMethod sequence) body cfg state
    Session.request transport device ucpMethod (.ok body) ⟨t, retries, sequence⟩
      = Session.waitForReply transport device
        ⟨t.afterSends (t.network.setState i r.2) r.1.toList (retries + 1), retries, sequence + 1⟩ := by
  intro r
  have hfirst := receive_directed hosts (requestOf device ucpMethod sequence) rfl hmethod hmac body
  have hagain := receive_directed (hosts.setState r.2) (requestOf device ucpMethod sequence) rfl
    hmethod hmac body
  rw [show reply (requestOf device ucpMethod sequence) body cfg r.2 = _ from reply_idem ..,
    Network.setState_setState] at hagain
  have hsend := sendRetried_timed hfirst hagain retries (sequence + 1)
  have hheader : Session.header device.mac ucpMethod false ⟨t, retries, sequence⟩
      = (requestOf device ucpMethod sequence, ⟨t, retries, sequence + 1⟩) := rfl
  unfold Session.request
  simp only [hheader, hsend]
  rfl

/-- Where all that waits is one reply, and due early enough before the token fires, it
is received. -/
theorem wait_in_time (ht : Prompt lag t) {due : Nat} {d : Datagram} {r : Packet × Bytes}
    (haccept : Session.accept device d = some r) (hsome : t.queue.waiting ≠ [])
    (hall : ∀ x ∈ t.queue.waiting, x = (due, d)) (hdue : due + lag < t.token) (retries : Nat)
    (sequence : UInt16) :
    ∃ t', Session.waitForReply transport device ⟨t, retries, sequence⟩
        = (.ok r, ⟨t', retries, sequence⟩) ∧
      Received lag t t' ∧ due ≤ t'.queue.now ∧ t'.queue.now ≤ due + lag ∧
      t'.queue.waiting.length + 1 = t.queue.waiting.length := by
  obtain ⟨hreceived, hresult⟩ := recv_prompt ht
  rcases hrecv : transport.recv t with ⟨result, t'⟩
  rw [hrecv] at hreceived hresult
  rw [Session.waitForReply_eq]
  simp only [hrecv]
  rcases hresult with ⟨x, rfl, hdue, hlag, hperm⟩ | ⟨rfl, hfired, hperm⟩
  · obtain rfl := hall x (hperm.mem_iff.mpr List.mem_cons_self)
    refine ⟨t', ?_, hreceived, hdue, hlag, ?_⟩
    · simp only [haccept]
    · rw [hperm.length_eq]
      rfl
  · -- not cancelled, since what waits would be overdue
    obtain ⟨x, hx⟩ := List.exists_mem_of_ne_nil _ hsome
    have hpunctual := hreceived.prompt.onTime.punctual x (hperm.mem_iff.mp hx)
    rw [hall x hx] at hpunctual
    exact absurd hdue (Nat.not_lt.mpr (hfired.trans hpunctual))

/-- Where all that waits is due late enough after the token fires, nothing is received. -/
theorem wait_too_late (device : Device) (ht : Prompt lag t)
    (hall : ∀ x ∈ t.queue.waiting, t.token + lag < x.1) (retries : Nat) (sequence : UInt16) :
    ∃ t', Session.waitForReply transport device ⟨t, retries, sequence⟩
        = (.error (.recv .cancelled), ⟨t', retries, sequence⟩) ∧
      Received lag t t' ∧ t.queue.waiting.Perm t'.queue.waiting := by
  obtain ⟨hreceived, hresult⟩ := recv_prompt ht
  rcases hrecv : transport.recv t with ⟨result, t'⟩
  rw [hrecv] at hreceived hresult
  rw [Session.waitForReply_eq]
  simp only [hrecv]
  rcases hresult with ⟨x, rfl, hdue, _, hperm⟩ | ⟨rfl, hfired, hperm⟩
  · have hlate := hall x (hperm.mem_iff.mpr List.mem_cons_self)
    rw [← hreceived.token] at hlate
    exact absurd hreceived.prompt.onTime.now_le (Nat.not_le.mpr (hlate.trans_le hdue))
  · exact ⟨t', rfl, hreceived, hperm⟩

variable (hosts : t.network.Hosts i cfg state) (haddr : Addresses device cfg)
  (hmethod : ucpMethod ≠ Method.advDisc) (retries : Nat) (sequence : UInt16) {body : Bytes}
  (ht : Prompt lag t)

include hosts haddr hmethod ht

/-- A request that is answered in time. The replies to its repetitions stay where they are. -/
theorem request_heard (hwaiting : t.queue.waiting = [])
    (htime : t.queue.now + cfg.slow + lag < t.token)
    {r : ScheduledReply} {state' : DeviceState}
    (hreply : reply (requestOf device ucpMethod sequence) body cfg state = (some r, state')) :
    ∃ t' result, Session.accept device (r.bytes, r.src) = some result ∧
      Session.request transport device ucpMethod (.ok body) ⟨t, retries, sequence⟩
        = (.ok result, ⟨t', retries, sequence + 1⟩) ∧
      Prompt lag t' ∧ t'.network = t.network.setState i state' ∧ t'.token = t.token ∧
      t.queue.now + cfg.slow ≤ t'.queue.now ∧ t'.queue.now ≤ t.queue.now + cfg.slow + lag ∧
      (retries = 0 → t'.queue.waiting = []) := by
  have hform := isReplyOf_reply (congrArg Prod.fst hreply)
  obtain ⟨result, haccept⟩ := hform.accept haddr
  have hmem {x : Nat × Datagram} : x ∈ (t.afterSends (t.network.setState i state') [r]
      (retries + 1)).queue.waiting ↔ x = (t.queue.now + cfg.slow, r.bytes, r.src) := by
    rw [mem_afterSends, hwaiting, ← hform.delay]
    simp
  obtain ⟨t', hwait, hreceived, hdue, hlag, hlength⟩ := wait_in_time
    (ht.afterSends (t.network.setState i state') [r] (retries + 1)) haccept
    (List.ne_nil_of_mem (hmem.mpr rfl)) (fun x => hmem.mp) htime retries (sequence + 1)
  refine ⟨t', result, haccept, ?_, hreceived.prompt, hreceived.network, hreceived.token, hdue, hlag, ?_⟩
  · rw [request_timed hosts haddr.mac hmethod, hreply]
    exact hwait
  · rintro rfl
    have hone := (DelayQueue.waiting_put t.queue r.delay (r.bytes, r.src)).length_eq
    rw [hwaiting] at hone
    exact List.length_eq_zero_iff.mp (Nat.succ.inj (hlength.trans hone))

/-- A request that is not answered before the token fires. The device has received it
all the same. -/
theorem request_unheard (hlate : ∀ x ∈ t.queue.waiting, t.token + lag < x.1)
    {state' : DeviceState} {answer : Option ScheduledReply}
    (hslow : ∀ r, answer = some r → t.token + lag < t.queue.now + cfg.slow)
    (hreply : reply (requestOf device ucpMethod sequence) body cfg state = (answer, state')) :
    ∃ t', Session.request transport device ucpMethod (.ok body) ⟨t, retries, sequence⟩
        = (.error (.recv .cancelled), ⟨t', retries, sequence + 1⟩) ∧
      Prompt lag t' ∧ t'.network = t.network.setState i state' ∧ t'.token = t.token ∧
      ∀ x ∈ t'.queue.waiting, t'.token + lag < x.1 := by
  have hall : ∀ x ∈ (t.afterSends (t.network.setState i state') answer.toList
      (retries + 1)).queue.waiting, t.token + lag < x.1 := by
    intro x hx
    rcases mem_afterSends.mp hx with hx | ⟨r, hr, rfl⟩
    · exact hlate x hx
    · obtain rfl := Option.mem_toList.mp hr
      rw [(isReplyOf_reply (congrArg Prod.fst hreply)).delay]
      exact hslow r rfl
  obtain ⟨t', hwait, hreceived, hperm⟩ := wait_too_late device
    (ht.afterSends (t.network.setState i state') answer.toList (retries + 1)) hall retries
    (sequence + 1)
  refine ⟨t', ?_, hreceived.prompt, hreceived.network, hreceived.token, ?_⟩
  · rw [request_timed hosts haddr.mac hmethod, hreply]
    exact hwait
  · intro x hx
    rw [hreceived.token]
    exact hall x (hperm.mem_iff.mpr hx)

end Requests

/-! ## In time -/

/-- A session without a clock and one with it, which has time for `k` more answers. -/
structure InTime (lag i : Nat) (cfg : DeviceConfig) (k : Nat) (s : Session MockTransport)
    (t : Session TimedTransport) : Prop where
  mock : s = idle t.transport.network t.sequence
  hosts : ∃ state, t.transport.network.Hosts i cfg state
  prompt : Prompt lag t.transport
  ready : 0 < k → t.transport.queue.waiting = [] ∧
    t.transport.queue.now + k * (cfg.slow + lag) < t.transport.token
  retries : t.retries = 0 ∨ k ≤ 1

theorem requestsAlike_inTime (lag i : Nat) (cfg : DeviceConfig) :
    Session.RequestsAlike MockTransport.transport transport (Addresses · cfg) (InTime lag i cfg) where
  request := by
    rintro device k s ⟨t, retries, sequence⟩ haddr ⟨rfl, ⟨state, hosts⟩, hprompt, hready, hretries⟩
      ucpMethod hmethod body
    obtain ⟨hwaiting, htime⟩ := hready (Nat.succ_pos k)
    simp only at hosts hprompt hwaiting htime hretries
    cases body with
    | error e =>
      refine ⟨rfl, ⟨rfl, ⟨state, hosts⟩, hprompt, ?_, .inr (Nat.zero_le 1)⟩, ?_⟩
      · intro h
        exact absurd h (Nat.lt_irrefl 0)
      · intro reply h
        cases h
    | ok body =>
      rw [idle, request_directed hosts haddr.mac hmethod]
      have hslow : t.queue.now + cfg.slow + lag < t.token := by
        rw [Nat.add_assoc]
        refine Nat.lt_of_le_of_lt (Nat.add_le_add_left ?_ _) htime
        exact Nat.le_mul_of_pos_left _ (Nat.succ_pos k)
      have hosts' := hosts.setState (reply (requestOf device ucpMethod sequence) body cfg state).2
      rcases hreply : reply (requestOf device ucpMethod sequence) body cfg state with ⟨answer, state'⟩
      rw [hreply] at hosts'
      cases answer with
      | none =>
        -- neither hears anything
        obtain ⟨t', hrequest, hprompt', hnetwork, htoken, _⟩ := request_unheard hosts haddr hmethod
          retries sequence hprompt (by simp [hwaiting]) (fun r hr => by cases hr) hreply
        rw [hrequest, Session.waitForReply_eq]
        refine ⟨rfl, ⟨?_, ⟨state', ?_⟩, hprompt', ?_, .inr (Nat.zero_le 1)⟩, ?_⟩
        · simp only [hnetwork]
          rfl
        · rw [hnetwork]
          exact hosts'
        · intro h
          exact absurd h (Nat.lt_irrefl 0)
        · intro reply h
          cases h
      | some r =>
        obtain ⟨t', result, haccept, hrequest, hprompt', hnetwork, htoken, _, hnow, hempty⟩ :=
          request_heard hosts haddr hmethod retries sequence hprompt hwaiting hslow hreply
        have hmock : Session.waitForReply MockTransport.transport device
            ⟨⟨t.network.setState i state', flight 0 (some r), []⟩, 0, sequence + 1⟩
              = (.ok result, idle (t.network.setState i state') (sequence + 1)) :=
          waitForReply_head haccept
        rw [hrequest, List.nil_append, hmock]
        have hrelated : ∀ k', (0 < k' → t'.queue.waiting = [] ∧
            t'.queue.now + k' * (cfg.slow + lag) < t'.token) → (retries = 0 ∨ k' ≤ 1) →
            InTime lag i cfg k' (idle (t.network.setState i state') (sequence + 1))
              ⟨t', retries, sequence + 1⟩ := by
          intro k' hready' hretries'
          refine ⟨by simp only [hnetwork], ⟨state', ?_⟩, hprompt', hready', hretries'⟩
          rw [hnetwork]
          exact hosts'
        refine ⟨rfl, hrelated 0 (fun h => absurd h (Nat.lt_irrefl 0)) (.inr (Nat.zero_le 1)), ?_⟩
        intro _ _
        refine hrelated k ?_ (hretries.imp_right Nat.le_of_succ_le)
        intro hk
        refine ⟨hempty (hretries.resolve_right (by omega)), ?_⟩
        rw [htoken]
        rw [Nat.succ_mul] at htime
        omega
  weaken := by
    rintro k s t ⟨hmock, hosts, hprompt, hready, hretries⟩
    refine ⟨hmock, hosts, hprompt, ?_, hretries.imp_right Nat.le_of_succ_le⟩
    intro hk
    obtain ⟨hwaiting, htime⟩ := hready (Nat.succ_pos k)
    refine ⟨hwaiting, Nat.lt_of_le_of_lt ?_ htime⟩
    exact Nat.add_le_add_left (Nat.mul_le_mul_right _ (Nat.le_succ k)) _
  withParameters haddr := haddr.withParameters

theorem inTime_new (hosts : n.Hosts i cfg state) {timeout : Nat} {runtime : Runtime}
    (hprompt : PromptRuntime lag timeout runtime) {k retries : Nat} (hretries : retries = 0 ∨ k ≤ 1)
    (sequence : UInt16) (htime : 0 < k → k * (cfg.slow + lag) < timeout) :
    InTime lag i cfg k (idle n sequence) ⟨.new n timeout runtime, retries, sequence⟩ where
  mock := rfl
  hosts := ⟨state, hosts⟩
  prompt := prompt_new hprompt n
  ready hk := ⟨rfl, (Nat.zero_add _).trans_lt (htime hk)⟩
  retries := hretries

theorem idle_inj {n n' : Network} {sequence sequence' : UInt16}
    (h : idle n sequence = idle n' sequence') : n = n' :=
  congrArg MockTransport.network (congrArg Session.transport h)

/-- A network of one device that answers late. -/
def slowNetwork : Network := Network.new [slowDevice 1 (20 * ms)]

theorem slowNetwork_hosts : slowNetwork.Hosts 0 (slowDevice 1 (20 * ms))
    (DeviceState.factoryWith OrdMap.empty) := ⟨rfl, rfl, List.nodup_singleton _⟩

theorem slowDevice_addresses : Addresses (Device.withMac (Mac.auto 1)) (slowDevice 1 (20 * ms)) :=
  ⟨rfl, .inl rfl, by decide⟩

section Calls

variable (hosts : n.Hosts i cfg state) (haddr : Addresses device cfg) {timeout : Nat}
  {runtime : Runtime} (hprompt : PromptRuntime lag timeout runtime)

include hosts haddr hprompt

/-- **An operation whose answers come in time** is a step of the service: the clock makes no
difference. -/
theorem call_in_time (retries : Nat) (sequence : UInt16) (call : Call)
    (htime : call.requests device * (cfg.slow + lag) < timeout)
    (hretries : retries = 0 ∨ call.requests device = 1) :
    let r := call.run transport device ⟨.new n timeout runtime, retries, sequence⟩
    let served := Service.step cfg call ⟨device.parameters, state⟩
    r.1 = served.1 ∧ r.2.1 = { device with parameters := served.2.cache } ∧
      r.2.2.transport.network = n.setState i served.2.memory := by
  intro r served
  obtain ⟨houtcome, hdevice, _, hlast⟩ := run_alike (requestsAlike_inTime lag i cfg) haddr call
    (inTime_new hosts hprompt (hretries.imp_right Nat.le_of_eq) sequence fun _ => htime)
  obtain ⟨sequence', hstep⟩ := call_step hosts haddr call sequence
  have hmock := hlast.mock
  rw [hstep] at houtcome hdevice hmock
  exact ⟨houtcome, hdevice, (idle_inj hmock).symm⟩

end Calls

/-- A write on a new handle takes a device twice as long as a reset. -/
theorem call_in_time_slow :
    let r := (Call.set (single "hostname" "sbr")).run transport (Device.withMac (Mac.auto 1))
      ⟨.new slowNetwork (50 * ms) (startPaused (50 * ms)), 0, 0⟩
    let served := Service.step (slowDevice 1 (20 * ms)) (.set (single "hostname" "sbr"))
      ⟨(Device.withMac (Mac.auto 1)).parameters, DeviceState.factoryWith OrdMap.empty⟩
    r.1 = served.1 ∧ r.2.1 = { Device.withMac (Mac.auto 1) with parameters := served.2.cache } ∧
      r.2.2.transport.network = slowNetwork.setState 0 served.2.memory :=
  call_in_time slowNetwork_hosts slowDevice_addresses (promptRuntime_startPaused (50 * ms)) 0 0
    (.set (single "hostname" "sbr")) (by decide) (.inl rfl)

/-! ## Too late -/

/-- The device with its answers left out. -/
def DeviceConfig.silent (cfg : DeviceConfig) : DeviceConfig := { cfg with unreachable := true }

/-- A session with a silent device, and one with a device that is too slow for it. -/
structure TooLate (lag i : Nat) (cfg : DeviceConfig) (s : Session MockTransport)
    (t : Session TimedTransport) : Prop where
  mock : ∃ n j state, s = idle n t.sequence ∧ n.Hosts j cfg.silent state
  hosts : ∃ state, t.transport.network.Hosts i cfg state
  prompt : Prompt lag t.transport
  late : ∀ x ∈ t.transport.queue.waiting, t.transport.token + lag < x.1
  slow : t.transport.token + lag < cfg.slow

theorem requestsAlike_tooLate (lag i : Nat) (cfg : DeviceConfig) :
    Session.RequestsAlike MockTransport.transport transport (Addresses · cfg)
      fun _ => TooLate lag i cfg where
  request := by
    rintro device k s ⟨t, retries, sequence⟩ haddr
      ⟨⟨m, j, memory, rfl, hsilent⟩, ⟨state, hosts⟩, hprompt, hlate, hslow⟩ ucpMethod hmethod body
    simp only at hosts hprompt hlate hslow
    cases body with
    | error e =>
      have hrelated : TooLate lag i cfg (idle m (sequence + 1)) ⟨t, retries, sequence + 1⟩ :=
        ⟨⟨m, j, memory, rfl, hsilent⟩, ⟨state, hosts⟩, hprompt, hlate, hslow⟩
      exact ⟨rfl, hrelated, fun _ _ => hrelated⟩
    | ok body =>
      rcases hreply : reply (requestOf device ucpMethod sequence) body cfg state with ⟨answer, state'⟩
      obtain ⟨t', hrequest, hprompt', hnetwork, htoken, hlate'⟩ := request_unheard hosts haddr hmethod
        retries sequence hprompt hlate (fun _ _ => Nat.lt_add_left _ hslow) hreply
      have hmock : Session.request MockTransport.transport device ucpMethod (.ok body)
          (idle m sequence) = (.error (.recv .cancelled), idle m (sequence + 1)) :=
        request_unanswered hsilent ⟨haddr.mac, haddr.ip, haddr.nonzero⟩ hmethod sequence rfl
      rw [hrequest, hmock]
      have hrelated : TooLate lag i cfg (idle m (sequence + 1)) ⟨t', retries, sequence + 1⟩ := by
        refine ⟨⟨m, j, memory, rfl, hsilent⟩, ⟨state', ?_⟩, hprompt', hlate', ?_⟩
        · rw [hnetwork]
          exact hosts.setState state'
        · rw [htoken]
          exact hslow
      exact ⟨rfl, hrelated, fun _ _ => hrelated⟩
  weaken hst := hst
  withParameters haddr := haddr.withParameters

theorem tooLate_new (hosts : n.Hosts i cfg state) {timeout : Nat} {runtime : Runtime}
    (hprompt : PromptRuntime lag timeout runtime) (hslow : timeout + lag < cfg.slow) (retries : Nat)
    (sequence : UInt16) : TooLate lag i cfg (idle ⟨[cfg.silent], [state], rfl⟩ sequence)
      ⟨.new n timeout runtime, retries, sequence⟩ where
  mock := ⟨_, 0, state, rfl, rfl, rfl, List.nodup_singleton _⟩
  hosts := ⟨state, hosts⟩
  prompt := prompt_new hprompt n
  late := by simp [TimedTransport.new, DelayQueue.waiting]
  slow := hslow

/-- What an operation with one request leaves is what its request leaves. -/
theorem run_session (hmac : device.mac.isZero = false) {call : Call}
    (hone : call.requests device = 1) :
    ∃ ucpMethod body, ucpMethod ≠ Method.advDisc ∧ ∀ {σ : Type} (T : Transport σ) (s : Session σ),
      (call.run T device s).2.2 = (s.request T device ucpMethod body).2 := by
  cases call with
  | get params =>
    exact ⟨_, _, by decide, fun T s => congrArg Prod.snd (get_eq (T := T) hmac params s)⟩
  | getAll =>
    refine ⟨Method.getData, .ok (getDataPayload names), by decide, ?_⟩
    intro σ T s
    have hget := congrArg Prod.snd (get_eq (T := T) hmac names s)
    rw [Call.run, getAll]
    rcases hr : get T device names s with ⟨_ | _, s₁⟩ <;> rw [hr] at hget <;> exact hget
  | set config =>
    have hcache : device.parameters.isEmpty = false := by
      by_contra hempty
      rw [Call.requests, if_pos (Bool.eq_true_of_not_eq_false hempty)] at hone
      cases hone
    refine ⟨Method.setData, setDataPayload (device.parameters.extend config), by decide, ?_⟩
    intro σ T s
    have hprelude : preludeRead T device s = (.ok (), device, s) := by
      rw [preludeRead, hcache, if_neg Bool.false_ne_true]
    exact set_session hmac hprelude config
  | reset => exact ⟨_, _, by decide, fun T s => congrArg Prod.snd (reset_eq (T := T) hmac s)⟩
  | getIp => exact ⟨_, _, by decide, fun T s => congrArg Prod.snd (getIp_eq (T := T) hmac s)⟩
  | getUuid => exact ⟨_, _, by decide, fun T s => congrArg Prod.snd (getUuid_eq (T := T) hmac s)⟩

/-- What a request does to the network without a clock. -/
theorem network_request_idle (hosts : n.Hosts i cfg state) (haddr : Addresses device cfg)
    {ucpMethod : UInt16} (hmethod : ucpMethod ≠ Method.advDisc) (sequence : UInt16) (body : Bytes) :
    (Session.request MockTransport.transport device ucpMethod (.ok body)
        (idle n sequence)).2.transport.network
      = n.setState i (reply (requestOf device ucpMethod sequence) body cfg state).2 := by
  rw [idle, request_directed hosts haddr.mac hmethod]
  rcases hreply : reply (requestOf device ucpMethod sequence) body cfg state with ⟨_ | r, state'⟩
  · rw [Session.waitForReply_eq]
    rfl
  · obtain ⟨result, haccept⟩ := (isReplyOf_reply (congrArg Prod.fst hreply)).accept haddr
    have hwait : Session.waitForReply MockTransport.transport device
        ⟨⟨n.setState i state', flight 0 (some r), []⟩, 0, sequence + 1⟩
          = (.ok result, idle (n.setState i state') (sequence + 1)) := waitForReply_head haccept
    rw [List.nil_append, hwait]
    rfl

/-- Only a write that reads first is more than one request. -/
theorem set_of_requests_ne_one {call : Call} (h : call.requests device ≠ 1) :
    ∃ config, call = .set config ∧ device.parameters = OrdMap.empty := by
  cases call with
  | set config =>
    refine ⟨config, rfl, OrdMap.isEmpty_iff.mp ?_⟩
    by_contra hempty
    exact h (if_neg hempty)
  | get | getAll | reset | getIp | getUuid => exact absurd rfl h

theorem read_ok {params : List String} {m : Params}
    (h : Service.read cfg params state = .ok m) : m = state.readout (answered params) := by
  unfold Service.read at h
  split at h
  · cases h
  · cases h
  · split at h
    · cases h
    · exact (Except.ok.inj h).symm

section Calls

variable (hosts : n.Hosts i cfg state) (haddr : Addresses device cfg) {timeout : Nat}
  {runtime : Runtime} (hprompt : PromptRuntime lag timeout runtime)

include hosts haddr hprompt

/-- A request that comes too late is received all the same. -/
theorem network_request_too_late (hslow : timeout + lag < cfg.slow) (retries : Nat) (sequence : UInt16)
    {ucpMethod : UInt16} (hmethod : ucpMethod ≠ Method.advDisc)
    (body : Except EncodeError Bytes) :
    (Session.request transport device ucpMethod body
        ⟨.new n timeout runtime, retries, sequence⟩).2.transport.network
      = (Session.request MockTransport.transport device ucpMethod body
        (idle n sequence)).2.transport.network := by
  cases body with
  | error e => rfl
  | ok body =>
    rcases hreply : reply (requestOf device ucpMethod sequence) body cfg state with ⟨answer, state'⟩
    obtain ⟨t', hrequest, _, hnetwork, _⟩ := request_unheard (t := .new n timeout runtime) hosts haddr
      hmethod retries sequence (prompt_new hprompt n)
      (by simp [TimedTransport.new, DelayQueue.waiting]) (fun _ _ => Nat.lt_add_left _ hslow) hreply
    rw [hrequest, network_request_idle hosts haddr hmethod, hreply]
    exact hnetwork

/-- A read whose answer comes too late. -/
theorem get_too_late (hslow : timeout + lag < cfg.slow) (retries : Nat) (sequence : UInt16)
    (params : List String) :
    ∃ s', get transport device params ⟨.new n timeout runtime, retries, sequence⟩
        = (.error (.recv .cancelled), s') ∧ s'.transport.network = n := by
  have hmethod : Method.getData ≠ Method.advDisc := by decide
  rcases hreply : reply (requestOf device Method.getData sequence) (getDataPayload params) cfg state
    with ⟨answer, state'⟩
  obtain ⟨t', hrequest, _, hnetwork, _⟩ := request_unheard (t := .new n timeout runtime) hosts haddr
    hmethod retries sequence (prompt_new hprompt n)
    (by simp [TimedTransport.new, DelayQueue.waiting]) (fun _ _ => Nat.lt_add_left _ hslow) hreply
  refine ⟨⟨t', retries, sequence + 1⟩, ?_, ?_⟩
  · rw [get_eq haddr.isZero, hrequest]
    rfl
  · -- without a clock a read changes nothing
    have hget := get_eq (T := MockTransport.transport) haddr.isZero params (idle n sequence)
    have hidle := network_request_idle hosts haddr hmethod sequence (getDataPayload params)
    rw [get_served hosts haddr] at hget
    rw [← (Prod.mk.inj hget).2, hreply] at hidle
    exact hnetwork.trans hidle.symm

/-- **An operation whose first answer comes too late** looks like one on a silent device. The device
has done what was asked, unless a write got no further than the read in front of it. -/
theorem call_too_late (hslow : timeout + lag < cfg.slow) (retries : Nat) (sequence : UInt16)
    (call : Call) :
    let r := call.run transport device ⟨.new n timeout runtime, retries, sequence⟩
    let silent := Service.step cfg.silent call ⟨device.parameters, state⟩
    r.1 = silent.1 ∧ r.2.1 = { device with parameters := silent.2.cache } ∧
      r.2.2.transport.network = if call.requests device = 1 then
        n.setState i (Service.step cfg call ⟨device.parameters, state⟩).2.memory else n := by
  intro r silent
  obtain ⟨houtcome, hdevice, _, _⟩ := run_alike (requestsAlike_tooLate lag i cfg) haddr call
    (tooLate_new hosts hprompt hslow retries sequence)
  have hsilent : Network.Hosts ⟨[cfg.silent], [state], rfl⟩ 0 cfg.silent state :=
    ⟨rfl, rfl, List.nodup_singleton _⟩
  obtain ⟨_, hstep⟩ := call_step hsilent ⟨haddr.mac, haddr.ip, haddr.nonzero⟩ call sequence
  rw [hstep] at houtcome hdevice
  refine ⟨houtcome, hdevice, ?_⟩
  split
  · next hone =>
    -- the one request does to the network what it does without a clock
    obtain ⟨ucpMethod, body, hmethod, hsession⟩ := run_session haddr.isZero hone
    obtain ⟨_, hserved⟩ := call_step hosts haddr call sequence
    have hmock := congrArg (fun s => s.transport.network) (hsession MockTransport.transport
      (idle n sequence))
    simp only [hserved] at hmock
    rw [show r.2.2 = _ from hsession transport _,
      network_request_too_late hosts haddr hprompt hslow retries sequence hmethod body, ← hmock]
    rfl
  · next hone =>
    -- a write that reads first, and hears nothing
    obtain ⟨config, rfl, hcache⟩ := set_of_requests_ne_one hone
    obtain ⟨s', hget, hnetwork⟩ := get_too_late hosts haddr hprompt hslow retries sequence names
    have hset := set_of_get_error haddr.isZero hcache config hget
    rw [show r.2.2 = _ from congrArg (fun x => x.2.2) hset]
    exact hnetwork

/-- A read that is answered in time, and where it leaves the clock. -/
theorem get_heard (htime : cfg.slow + lag < timeout) (sequence : UInt16) {params : List String}
    {m : Params} {s₁ : Session TimedTransport}
    (hget : get transport device params ⟨.new n timeout runtime, 0, sequence⟩ = (.ok m, s₁)) :
    ∃ t', s₁ = ⟨t', 0, sequence + 1⟩ ∧ Prompt lag t' ∧ t'.queue.waiting = [] ∧
      cfg.slow ≤ t'.queue.now ∧ t'.token = timeout := by
  have hmethod : Method.getData ≠ Method.advDisc := by decide
  rw [get_eq haddr.isZero] at hget
  obtain ⟨hread, rfl⟩ := Prod.mk.inj hget
  rcases hreply : reply (requestOf device Method.getData sequence) (getDataPayload params) cfg state
    with ⟨_ | r, state'⟩
  · obtain ⟨t', hrequest, _⟩ := request_unheard (t := .new n timeout runtime) hosts haddr
      hmethod 0 sequence (prompt_new hprompt n) (by simp [TimedTransport.new, DelayQueue.waiting])
      (fun r hr => by cases hr) hreply
    rw [hrequest] at hread
    cases hread
  · have hearly : (TimedTransport.new n timeout runtime).queue.now + cfg.slow + lag < timeout := by
      rwa [show (TimedTransport.new n timeout runtime).queue.now = 0 from rfl, Nat.zero_add]
    obtain ⟨t', result, _, hrequest, hprompt', _, htoken, hnow, _, hempty⟩ := request_heard
      (t := .new n timeout runtime) hosts haddr hmethod 0 sequence (prompt_new hprompt n) rfl
      hearly hreply
    rw [hrequest]
    exact ⟨t', rfl, hprompt', hempty rfl, (Nat.zero_add _).ge.trans hnow, htoken⟩

/-- **A write that is read back in time and acknowledged too late** fails, and is on the device. Of
a write that would have succeeded the caller hears that it was cancelled, and its handle has what
was read. -/
theorem set_cut_off (hcache : device.parameters = OrdMap.empty) (hread : cfg.slow + lag < timeout)
    (hslow : timeout + lag < 2 * cfg.slow) (sequence : UInt16) (config : Params) :
    let r := set transport device config ⟨.new n timeout runtime, 0, sequence⟩
    let served := Service.write cfg config ⟨OrdMap.empty, state⟩
    (∃ e, r.1 = .error e) ∧
      (served.1 = .ok () → r.1 = .error (.recv .cancelled) ∧
        r.2.1 = { device with parameters := state.readout (answered names) }) ∧
      r.2.2.transport.network = n.setState i served.2.memory := by
  intro r served
  have hmethod : Method.setData ≠ Method.advDisc := by decide
  have hbase : Service.base cfg ⟨OrdMap.empty, state⟩ = Service.read cfg names state := rfl
  -- the read is in time
  obtain ⟨⟨hresult, hrelated⟩, _⟩ := get_alike (requestsAlike_inTime lag i cfg) haddr (k := 0)
    (inTime_new hosts hprompt (.inl rfl) sequence fun _ => (Nat.one_mul _).trans_lt hread) names
  have hserved := get_served hosts haddr names sequence
  have hnetwork := hrelated.mock
  rw [hserved] at hresult hnetwork
  have hnetwork := idle_inj hnetwork
  rcases hget : get transport device names ⟨.new n timeout runtime, 0, sequence⟩ with ⟨result, s₁⟩
  rw [hget] at hresult hnetwork
  simp only at hresult hnetwork
  cases hr : Service.read cfg names state with
  | error e =>
    rw [hr] at hresult
    subst hresult
    have hset := set_of_get_error haddr.isZero hcache config hget
    have hwrite : served = (.error e, ⟨OrdMap.empty, state⟩) := by
      simp only [served, Service.write, hbase, hr]
    rw [show r = _ from hset, hwrite, hosts.setState_self]
    refine ⟨⟨e, rfl⟩, ?_, hnetwork.symm⟩
    intro h
    cases h
  | ok m =>
    rw [hr] at hresult
    subst hresult
    obtain ⟨t', rfl, hprompt', hwaiting, hnow, htoken⟩ :=
      get_heard hosts haddr hprompt hread sequence hget
    simp only at hnetwork
    have hosts' : t'.network.Hosts i cfg state := hnetwork ▸ hosts
    have haddr' := haddr.withParameters m
    cases hbody : setDataPayload (m.extend config) with
    | error e =>
      have hrequest : Session.request transport { device with parameters := m } Method.setData
          (setDataPayload (m.extend config)) ⟨t', 0, sequence + 1⟩
            = (.error (.encode e), ⟨t', 0, sequence + 1 + 1⟩) := by
        rw [hbody]
        rfl
      have hset := set_of_request_error haddr.isZero hcache hget hrequest
      have hwrite : served = (.error (.encode e), ⟨m, state⟩) := by
        simp only [served, Service.write, hbase, hr, hbody]
      rw [show r = _ from hset, hwrite, hosts.setState_self]
      refine ⟨⟨_, rfl⟩, ?_, hnetwork.symm⟩
      intro h
      cases h
    | ok body =>
      -- the write is received, and its answer is not waited for
      rcases hreply : reply (requestOf { device with parameters := m } Method.setData (sequence + 1))
        body cfg state with ⟨answer, state'⟩
      obtain ⟨t'', hrequest, _, hnetwork', _⟩ := request_unheard hosts' haddr'
        hmethod 0 (sequence + 1) hprompt' (by simp [hwaiting])
        (fun _ _ => by rw [htoken]; omega) hreply
      rw [← hbody] at hrequest
      have hset := set_of_request_error haddr.isZero hcache hget hrequest
      rw [show r = _ from hset]
      refine ⟨⟨_, rfl⟩, fun _ => ⟨rfl, ?_⟩, ?_⟩
      · rw [read_ok hr]
      · -- without a clock the write is the same request
        obtain ⟨sequence', hset⟩ := set_served hosts haddr config sequence
        have hsession := set_session haddr.isZero (preludeRead_of_get hcache
          (hserved.trans (congrArg (·, _) hr))) config
        have hidle := network_request_idle hosts haddr' hmethod (sequence + 1) body
        rw [hset, hbody] at hsession
        rw [← hsession, hreply, hcache] at hidle
        exact (hnetwork'.trans (by rw [hnetwork])).trans hidle.symm

end Calls

/-- A reset that is not waited for long enough counts as done, and is. -/
theorem call_too_late_slow :
    let r := Call.reset.run transport (Device.withMac (Mac.auto 1))
      ⟨.new slowNetwork (10 * ms) (startPaused (10 * ms)), 0, 0⟩
    let silent := Service.step (slowDevice 1 (20 * ms)).silent .reset
      ⟨(Device.withMac (Mac.auto 1)).parameters, DeviceState.factoryWith OrdMap.empty⟩
    r.1 = silent.1 ∧ r.2.1 = { Device.withMac (Mac.auto 1) with parameters := silent.2.cache } ∧
      r.2.2.transport.network = if Call.reset.requests (Device.withMac (Mac.auto 1)) = 1 then
        slowNetwork.setState 0 (Service.step (slowDevice 1 (20 * ms)) .reset
          ⟨(Device.withMac (Mac.auto 1)).parameters, DeviceState.factoryWith OrdMap.empty⟩).2.memory
      else slowNetwork :=
  call_too_late slowNetwork_hosts slowDevice_addresses (promptRuntime_startPaused (10 * ms))
    (by decide) 0 0 _

theorem set_cut_off_slow :
    let r := Udap.set transport (Device.withMac (Mac.auto 1)) (single "hostname" "sbr")
      ⟨.new slowNetwork (30 * ms) (startPaused (30 * ms)), 0, 0⟩
    let served := Service.write (slowDevice 1 (20 * ms)) (single "hostname" "sbr")
      ⟨OrdMap.empty, DeviceState.factoryWith OrdMap.empty⟩
    (∃ e, r.1 = .error e) ∧
      (served.1 = .ok () → r.1 = .error (.recv .cancelled) ∧
        r.2.1 = { Device.withMac (Mac.auto 1) with
          parameters := (DeviceState.factoryWith OrdMap.empty).readout (answered names) }) ∧
      r.2.2.transport.network = slowNetwork.setState 0 served.2.memory :=
  set_cut_off slowNetwork_hosts slowDevice_addresses (promptRuntime_startPaused (30 * ms)) rfl
    (by decide) (by decide) 0 _

end Mocksbr
