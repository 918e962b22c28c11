import Udapcfg.Mocksbr.Clock
import Udapcfg.Properties.DiscoverNetwork
import Udapcfg.Properties.Exchange

/-!
# Discovery against the clock

A device that is slow is one whose replies come late. How late is too late is for the token to say,
which the command line fires after its timeout.

* `PromptRuntime` — a runtime that is never late by more than so much
* `recv_prompt`, `drain_prompt` — what a receive comes to, and what a loop of receives takes
* `discover_timed` — discovery finds the devices that are quick enough
-/

namespace Mocksbr

open Infra Udap

namespace TimedTransport

/-! ## Prompt runtimes -/

/-- Time does not pass over what waits, nor over the token, by more than `lag`, and the token fires
before the events end. Of the branches of the `select!` that are ready any may complete. -/
def PromptLoop (lag token : Nat) : List ClockEvent → DelayQueue Datagram → Prop
  | [], q => token ≤ q.now
  | .tick d :: events, q =>
    q.MayTick lag d ∧ q.now + d ≤ token + lag ∧ PromptLoop lag token events (q.tick d)
  | .wake index :: events, q => PromptLoop lag token events (q.wake index)
  | .message :: events, q => q.ready ≠ [] ∨ PromptLoop lag token events q
  | .cancelled :: events, q => token ≤ q.now ∨ PromptLoop lag token events q

/-- Where receives have got to: nothing in the queue is early, and neither what waits nor the token
is overdue by more than `lag`. -/
structure OnTime (lag token : Nat) (q : DelayQueue Datagram) : Prop where
  early : q.Early
  punctual : q.Punctual lag
  now_le : q.now ≤ token + lag

/-- A runtime that is late by `lag` at most. That is the granularity of its timers, and as long as a
task that is awake, a datagram that is queued or a token that has fired may go unnoticed. -/
def PromptRuntime (lag token : Nat) (runtime : Runtime) : Prop :=
  ∀ k q, OnTime lag token q → PromptLoop lag token (runtime k q) q

/-- An open transport on a prompt runtime. -/
structure Prompt (lag : Nat) (t : TimedTransport) : Prop where
  opened : t.closed = false
  onTime : OnTime lag t.token t.queue
  runtime : PromptRuntime lag t.token t.runtime

variable {lag : Nat}

theorem prompt_new {runtime : Runtime} {token : Nat} (h : PromptRuntime lag token runtime)
    (n : Network) : Prompt lag (new n token runtime) where
  opened := rfl
  onTime := ⟨by simp [DelayQueue.Early, new], by simp [DelayQueue.Punctual, DelayQueue.waiting, new],
    Nat.zero_le _⟩
  runtime := h

/-! ## A paused clock -/

/-- A millisecond. -/
def ms : Nat := 1000000

/-- Timers fire on whole milliseconds, and not before they are due. -/
def fires (due : Nat) : Nat := (due + (ms - 1)) / ms * ms

theorem le_fires (due : Nat) : due ≤ fires due := by
  unfold fires ms
  omega

theorem fires_le (due : Nat) : fires due ≤ due + ms := by
  unfold fires ms
  omega

/-- The runtime of a test with a paused clock: time goes straight to the next timer. -/
def startPaused (token : Nat) : Runtime := fun _ q =>
  match q.ready, (q.sleeping.map Prod.fst).min? with
  | _ :: _, _ => [.message]
  | [], some due =>
    if fires due ≤ fires token then
      [.tick (fires due - q.now), .wake (q.sleeping.findIdx fun x => x.1 = due), .message]
    else [.tick (fires token - q.now), .cancelled]
  | [], none => [.tick (fires token - q.now), .cancelled]

/-- Time may go on to a timer that is not later than any other. -/
theorem mayTick_fires {token : Nat} {q : DelayQueue Datagram} (hq : OnTime ms token q) (due : Nat)
    (hfirst : ∀ x ∈ q.waiting, fires due ≤ x.1 + ms) (hdue : fires due ≤ token + ms) :
    q.MayTick ms (fires due - q.now) ∧ q.now + (fires due - q.now) ≤ token + ms ∧
      due ≤ q.now + (fires due - q.now) := by
  have hnow : q.now + (fires due - q.now) = max q.now (fires due) := by omega
  rw [DelayQueue.MayTick, hnow]
  refine ⟨?_, max_le hq.now_le hdue, (le_fires due).trans (le_max_right _ _)⟩
  exact fun x hx => max_le (hq.punctual x hx) (hfirst x hx)

/-- Where nothing fires before the token, the token is waited for. -/
theorem promptLoop_wait {token : Nat} {q : DelayQueue Datagram} (hq : OnTime ms token q)
    (hlate : ∀ x ∈ q.waiting, fires token ≤ x.1 + ms) :
    PromptLoop ms token [.tick (fires token - q.now), .cancelled] q := by
  obtain ⟨hmay, hnow, hfired⟩ := mayTick_fires hq token hlate (fires_le token)
  exact ⟨hmay, hnow, .inl hfired⟩

/-- **A paused clock** is late by a millisecond at most. -/
theorem promptRuntime_startPaused (token : Nat) : PromptRuntime ms token (startPaused token) := by
  intro k q hq
  unfold startPaused
  split
  · next x rest hready => exact .inl (by simp [hready])
  · next due hready hmin =>
    obtain ⟨hmem, hfirst⟩ := List.min?_eq_some_iff.mp hmin
    obtain ⟨x, hx, rfl⟩ := List.mem_map.mp hmem
    have hwaiting : ∀ y ∈ q.waiting, x.1 ≤ y.1 := by
      rw [DelayQueue.waiting, hready]
      exact fun y hy => hfirst _ (List.mem_map_of_mem hy)
    split
    · next hdue =>
      obtain ⟨hmay, hnow, hslept⟩ := mayTick_fires hq x.1
        (fun y hy => (fires_le _).trans (Nat.add_le_add_right (hwaiting y hy) ms))
        (hdue.trans (fires_le token))
      -- the first that is due is woken
      have hlt : q.sleeping.findIdx (fun y => y.1 = x.1) < q.sleeping.length :=
        List.findIdx_lt_length_of_exists ⟨x, hx, decide_eq_true rfl⟩
      have hfound := of_decide_eq_true (List.findIdx_getElem (w := hlt))
      have hwoken := DelayQueue.ready_wake_tick (List.getElem?_eq_getElem hlt) (hfound.le.trans hslept)
      refine ⟨hmay, hnow, .inl ?_⟩
      rw [hwoken]
      exact List.append_ne_nil_of_right_ne_nil _ (List.cons_ne_nil _ _)
    · next hlate =>
      refine promptLoop_wait hq ?_
      intro y hy
      exact (Nat.le_of_not_le hlate).trans
        ((fires_le _).trans (Nat.add_le_add_right (hwaiting y hy) ms))
  · next hready hmin =>
    have hnone : q.sleeping = [] := by simpa using hmin
    refine promptLoop_wait hq ?_
    rw [DelayQueue.waiting, hready, hnone]
    intro y hy
    cases hy

/-! ## Receives -/

/-- What a receive comes to: an item that is due, or a cancellation when the token has fired.
Nothing else has changed. -/
structure Outcome (lag : Nat) (t : TimedTransport)
    (r : Except TransportError Datagram × TimedTransport) : Prop where
  onTime : OnTime lag t.token r.2.queue
  later : t.queue.now ≤ r.2.queue.now
  frame : ∃ queue, r.2 = { t with queue := queue }
  result : (∃ x, r.1 = .ok x.2 ∧ x.1 ≤ r.2.queue.now ∧ r.2.queue.now ≤ x.1 + lag ∧
      t.queue.waiting.Perm (x :: r.2.queue.waiting)) ∨
    (r.1 = .error .cancelled ∧ t.token ≤ r.2.queue.now ∧ t.queue.waiting.Perm r.2.queue.waiting)

/-- What happens to the queue before a receive returns does not matter to what it comes to. -/
theorem Outcome.of_queue {t : TimedTransport} {queue : DelayQueue Datagram}
    {r : Except TransportError Datagram × TimedTransport}
    (h : Outcome lag { t with queue := queue } r) (hnow : t.queue.now ≤ queue.now)
    (hperm : t.queue.waiting.Perm queue.waiting) : Outcome lag t r := by
  obtain ⟨honTime, hlater, ⟨queue', hframe⟩, hresult⟩ := h
  refine ⟨honTime, hnow.trans hlater, ⟨queue', hframe⟩, ?_⟩
  rcases hresult with ⟨x, hok, hdue, hlag, hrest⟩ | ⟨herror, hfired, hrest⟩
  · exact .inl ⟨x, hok, hdue, hlag, hperm.trans hrest⟩
  · exact .inr ⟨herror, hfired, hperm.trans hrest⟩

theorem recvLoop_prompt : ∀ (events : List ClockEvent) (t : TimedTransport), t.closed = false →
    OnTime lag t.token t.queue → PromptLoop lag t.token events t.queue →
    Outcome lag t (recvLoop events t)
  | [], t, _, ht, hprompt => ⟨ht, Nat.le_refl _, ⟨_, rfl⟩, .inr ⟨rfl, hprompt, .refl _⟩⟩
  | .tick d :: events, t, hopen, ht, hprompt => by
    obtain ⟨hmay, hnow, hprompt⟩ := hprompt
    have ht' : OnTime lag t.token (t.queue.tick d) := ⟨ht.early.tick d, hmay.punctual, hnow⟩
    have hloop := recvLoop_prompt events { t with queue := t.queue.tick d } hopen ht' hprompt
    exact Outcome.of_queue hloop (Nat.le_add_right _ _) (.refl _)
  | .wake index :: events, t, hopen, ht, hprompt => by
    have hnow : (t.queue.wake index).now = t.queue.now := DelayQueue.now_wake _ _
    have ht' : OnTime lag t.token (t.queue.wake index) :=
      ⟨ht.early.wake index, ht.punctual.wake index, by rw [hnow]; exact ht.now_le⟩
    have hloop := recvLoop_prompt events { t with queue := t.queue.wake index } hopen ht' hprompt
    exact Outcome.of_queue hloop hnow.ge (DelayQueue.waiting_wake t.queue index).symm
  | .message :: events, t, hopen, ht, hprompt => by
    cases hready : t.queue.ready with
    | nil =>
      have hloop : recvLoop (.message :: events) t = recvLoop events t := by
        rw [recvLoop, hready]
      rw [hloop]
      exact recvLoop_prompt events t hopen ht (hprompt.resolve_left fun hne => hne hready)
    | cons x rest =>
      have hloop : recvLoop (.message :: events) t
          = (.ok x.2, { t with queue := { t.queue with ready := rest } }) := by
        rw [recvLoop, hready]
      rw [hloop]
      obtain ⟨hdue, hearly⟩ := ht.early.take hready
      have hwaiting := DelayQueue.waiting_take hready
      have hpunctual : t.queue.now ≤ x.1 + lag := by
        refine ht.punctual x ?_
        rw [hwaiting]
        exact List.mem_cons_self
      exact ⟨⟨hearly, ht.punctual.take hready, ht.now_le⟩, Nat.le_refl _, ⟨_, rfl⟩,
        .inl ⟨x, rfl, hdue, hpunctual, by rw [hwaiting]⟩⟩
  | .cancelled :: events, t, hopen, ht, hprompt => by
    have hfired : t.fired = decide (t.token ≤ t.queue.now) := by
      rw [fired, hopen, Bool.false_or]
    by_cases hdue : t.token ≤ t.queue.now
    · have hloop : recvLoop (.cancelled :: events) t = (.error .cancelled, t) := by
        rw [recvLoop, hfired, if_pos (decide_eq_true hdue)]
      rw [hloop]
      exact ⟨ht, Nat.le_refl _, ⟨_, rfl⟩, .inr ⟨rfl, hdue, .refl _⟩⟩
    · have hloop : recvLoop (.cancelled :: events) t = recvLoop events t := by
        rw [recvLoop, hfired, if_neg (by simpa using hdue)]
      rw [hloop]
      exact recvLoop_prompt events t hopen ht (hprompt.resolve_left hdue)

/-- What a receive leaves as it is, and what it keeps. -/
structure Received (lag : Nat) (t t' : TimedTransport) : Prop where
  prompt : Prompt lag t'
  later : t.queue.now ≤ t'.queue.now
  network : t'.network = t.network
  token : t'.token = t.token

/-- **A prompt receive** returns an item that is due, or is cancelled when the token has fired. -/
theorem recv_prompt {t : TimedTransport} (ht : Prompt lag t) :
    let r := transport.recv t
    Received lag t r.2 ∧
      ((∃ x, r.1 = .ok x.2 ∧ x.1 ≤ r.2.queue.now ∧ r.2.queue.now ≤ x.1 + lag ∧
          t.queue.waiting.Perm (x :: r.2.queue.waiting)) ∨
        (r.1 = .error .cancelled ∧ t.token ≤ r.2.queue.now ∧
          t.queue.waiting.Perm r.2.queue.waiting)) := by
  obtain ⟨honTime, hlater, ⟨queue, hframe⟩, hresult⟩ := recvLoop_prompt (t.runtime t.receives t.queue)
    { t with receives := t.receives + 1 } ht.opened ht.onTime (ht.runtime _ _ ht.onTime)
  have hafter : (transport.recv t).2 = { t with receives := t.receives + 1, queue := queue } := hframe
  refine ⟨⟨⟨?_, ?_, ?_⟩, hlater, ?_, ?_⟩, hresult⟩
  · rw [hafter]
    exact ht.opened
  · show OnTime lag (transport.recv t).2.token (transport.recv t).2.queue
    rw [show (transport.recv t).2.token = t.token by rw [hafter]]
    exact honTime
  · rw [hafter]
    exact ht.runtime
  · rw [hafter]
  · rw [hafter]

/-- **A prompt loop of receives** takes what is due, until the token has fired. -/
theorem drain_prompt {t : TimedTransport} (ht : Prompt lag t) :
    let r := transport.drain t
    r.2.1 = .cancelled ∧ t.token ≤ r.2.2.queue.now ∧ r.2.2.queue.now ≤ t.token + lag ∧
    ∃ taken, r.1 = taken.map Prod.snd ∧ (∀ x ∈ taken, x.1 ≤ t.token + lag) ∧
      (∀ x ∈ r.2.2.queue.waiting, t.token ≤ x.1 + lag) ∧
      t.queue.waiting.Perm (taken ++ r.2.2.queue.waiting) := by
  induction hlen : t.queue.waiting.length using Nat.strong_induction_on generalizing t with
  | _ k ih =>
    obtain ⟨⟨ht', _, hnetwork, htoken⟩, hresult⟩ := recv_prompt ht
    rcases hrecv : transport.recv t with ⟨result, t'⟩
    rw [hrecv] at ht' htoken hresult
    simp only at htoken
    have hnow := ht'.onTime.now_le
    rw [htoken] at hnow
    rw [Transport.drain_eq, hrecv]
    rcases hresult with ⟨x, rfl, hdue, _, hperm⟩ | ⟨rfl, hfired, hperm⟩
    · -- one item is taken, and the loop goes on
      have hlt : t'.queue.waiting.length < k := by
        rw [← hlen, hperm.length_eq]
        exact Nat.lt_succ_self _
      obtain ⟨hcancelled, hover, hsoon, taken, htaken, hdues, hleft, hperms⟩ := ih _ hlt ht' rfl
      rw [htoken] at hover hsoon hdues hleft
      refine ⟨hcancelled, hover, hsoon, x :: taken, congrArg (x.2 :: ·) htaken, ?_, hleft,
        hperm.trans (hperms.cons x)⟩
      intro y hy
      rcases List.mem_cons.mp hy with rfl | hy
      · exact hdue.trans hnow
      · exact hdues y hy
    · refine ⟨rfl, hfired, hnow, [], rfl, by simp, ?_, hperm⟩
      exact fun x hx => hfired.trans (ht'.onTime.punctual x hx)

/-! ## Sends -/

variable {queue : DelayQueue Datagram}

/-- What waits after some replies were scheduled. -/
theorem mem_foldl_schedule (replies : List ScheduledReply) {queue : DelayQueue Datagram}
    {x : Nat × Datagram} : x ∈ (replies.foldl schedule queue).waiting ↔ x ∈ queue.waiting ∨
      ∃ reply ∈ replies, x = (queue.now + reply.delay, reply.bytes, reply.src) := by
  induction replies generalizing queue with
  | nil => simp
  | cons reply replies ih =>
    have hput := DelayQueue.waiting_put queue reply.delay (reply.bytes, reply.src)
    have hnow : (schedule queue reply).now = queue.now := DelayQueue.now_put _ _ _
    rw [List.foldl_cons, ih, hnow, show x ∈ (schedule queue reply).waiting ↔ _ from hput.mem_iff]
    simp only [List.mem_append, List.mem_singleton, List.exists_mem_cons_iff, or_assoc]

theorem OnTime.foldl_schedule {token : Nat} (h : OnTime lag token queue)
    (replies : List ScheduledReply) : OnTime lag token (replies.foldl schedule queue) := by
  induction replies generalizing queue with
  | nil => exact h
  | cons reply replies ih =>
    refine ih ⟨h.early.put _ _, h.punctual.put _ _, ?_⟩
    rw [schedule, DelayQueue.now_put]
    exact h.now_le

/-- The transport after a packet that brings these replies was sent so often. -/
def afterSends (t : TimedTransport) (n : Network) (replies : List ScheduledReply) (k : Nat) :
    TimedTransport :=
  { t with network := n, queue := (List.replicate k replies).flatten.foldl schedule t.queue }

/-- A packet whose repetition changes nothing: one change, and all replies. -/
theorem sendRetried_timed {t : TimedTransport} {packet : Bytes} {replies : List ScheduledReply}
    {n : Network} (h : t.network.receive packet = (replies, n))
    (h' : n.receive packet = (replies, n)) (retries : Nat) (sequence : UInt16) :
    Session.sendRetried transport packet ⟨t, retries, sequence⟩
      = (.ok (), ⟨t.afterSends n replies (retries + 1), retries, sequence⟩) := by
  have hloop : ∀ (k successes : Nat) (t : TimedTransport), t.network = n →
      Session.sendLoop transport packet k none successes t
        = (none, successes + k, t.afterSends n replies k) := by
    intro k
    induction k with
    | zero =>
      intro successes t ht
      rw [Session.sendLoop, afterSends, ← ht]
      rfl
    | succ k ih =>
      intro successes t ht
      have hsend : transport.send packet t = (.ok (), t.afterSends n replies 1) := by
        simp [transport, send, afterSends, ht, h']
      rw [Session.sendLoop, hsend]
      simp only
      rw [ih _ _ rfl, Nat.add_assoc, Nat.add_comm 1 k]
      simp [afterSends, List.replicate_succ, List.foldl_append]
  have hsend : transport.send packet t = (.ok (), t.afterSends n replies 1) := by
    simp [transport, send, afterSends, h]
  rw [Session.sendRetried, Session.sendLoop, hsend]
  simp only
  rw [hloop retries 1 _ rfl]
  simp [afterSends, List.replicate_succ, List.foldl_append]

theorem Prompt.afterSends {t : TimedTransport} (h : Prompt lag t) (n : Network)
    (replies : List ScheduledReply) (k : Nat) : Prompt lag (t.afterSends n replies k) :=
  ⟨h.opened, h.onTime.foldl_schedule _, h.runtime⟩

/-- What waits after the sends. -/
theorem mem_afterSends {t : TimedTransport} {n : Network} {replies : List ScheduledReply} {k : Nat}
    {x : Nat × Datagram} : x ∈ (t.afterSends n replies (k + 1)).queue.waiting ↔
      x ∈ t.queue.waiting ∨
        ∃ reply ∈ replies, x = (t.queue.now + reply.delay, reply.bytes, reply.src) := by
  rw [afterSends, mem_foldl_schedule]
  simp [List.mem_flatten, List.mem_replicate]

end TimedTransport

open TimedTransport

/-! ## Discovery -/

section Discovery

variable {n : Network}

/-- The devices of the registry when some discovery replies have come, in any order and
any number. -/
theorem mem_devices_of_replies (hdistinct : (n.devices.map DeviceConfig.mac).Nodup)
    (request : Packet) {ds : List Datagram}
    (hds : ∀ d ∈ ds, ∃ cfg ∈ n.devices, d = (discoveryResponse request cfg, cfg.mac.format))
    (device : Device) :
    device ∈ (ds.foldl Registry.handleDiscoveryReply Registry.empty).devices ↔
      ∃ cfg ∈ n.devices, (discoveryResponse request cfg, cfg.mac.format) ∈ ds ∧
        device = discoveredDevice cfg := by
  -- datagrams that announce one MAC are of one device
  have hagree : ∀ d ∈ ds, ∀ d' ∈ ds, ∀ dev dev', Announces d device.mac dev →
      Announces d' device.mac dev' → dev = dev' := by
    intro d hd d' hd' dev dev' h h'
    obtain ⟨cfg, hcfg, rfl⟩ := hds d hd
    obtain ⟨cfg', hcfg', rfl⟩ := hds d' hd'
    obtain ⟨hmac, rfl⟩ := (announces_discoveryResponse_iff request cfg _ dev).mp h
    obtain ⟨hmac', rfl⟩ := (announces_discoveryResponse_iff request cfg' _ dev').mp h'
    rw [List.inj_on_of_nodup_map hdistinct hcfg hcfg' (hmac.trans hmac'.symm)]
  rw [mem_devices, get?_foldl_empty_iff hagree]
  constructor
  · rintro ⟨d, hd, hannounces⟩
    obtain ⟨cfg, hcfg, rfl⟩ := hds d hd
    exact ⟨cfg, hcfg, hd, ((announces_discoveryResponse_iff request cfg _ device).mp hannounces).2⟩
  · rintro ⟨cfg, hcfg, hd, rfl⟩
    exact ⟨_, hd, (announces_discoveryResponse_iff request cfg _ _).mpr ⟨rfl, rfl⟩⟩

/-- The replies to a discovery, each with the time it is due. -/
theorem mem_afterSends_discovery (request : Packet) (timeout : Nat) (runtime : Runtime)
    (k : Nat) {x : Nat × Datagram} :
    x ∈ ((TimedTransport.new n timeout runtime).afterSends n (discoveryReplies request n.devices)
        (k + 1)).queue.waiting ↔ ∃ cfg ∈ n.devices, cfg.answersDiscovery = true ∧
      x = (cfg.slow, discoveryResponse request cfg, cfg.mac.format) := by
  rw [mem_afterSends]
  constructor
  · rintro (hx | ⟨reply, hreply, rfl⟩)
    · cases hx
    · obtain ⟨cfg, hcfg, rfl⟩ := List.mem_map.mp hreply
      obtain ⟨hcfg, hanswers⟩ := List.mem_filter.mp hcfg
      exact ⟨cfg, hcfg, hanswers, Prod.ext (Nat.zero_add _) rfl⟩
  · rintro ⟨cfg, hcfg, hanswers, rfl⟩
    exact .inr ⟨_, List.mem_map_of_mem (List.mem_filter.mpr ⟨hcfg, hanswers⟩),
      Prod.ext (Nat.zero_add _).symm rfl⟩

/-- **Discovery ends when the token fires**, and has found the devices whose replies were due. -/
theorem discover_due (hdistinct : (n.devices.map DeviceConfig.mac).Nodup) (retries : Nat)
    {lag timeout : Nat} {runtime : Runtime} (hprompt : PromptRuntime lag timeout runtime) :
    let found := (Client.new (TimedTransport.new n timeout runtime) retries).discover
      TimedTransport.transport
    found.1 = .ok () ∧ (timeout ≤ found.2.session.transport.queue.now ∧
      found.2.session.transport.queue.now ≤ timeout + lag) ∧
    ∃ due : DeviceConfig → Prop,
      (∀ device, device ∈ found.2.devices.devices ↔ ∃ cfg, due cfg ∧ device = discoveredDevice cfg) ∧
      (∀ cfg ∈ n.devices, cfg.answersDiscovery = true → cfg.slow + lag < timeout → due cfg) ∧
      ∀ cfg, due cfg → cfg ∈ n.devices ∧ cfg.answersDiscovery = true ∧ cfg.slow ≤ timeout + lag := by
  intro found
  let c := Client.new (TimedTransport.new n timeout runtime) retries
  have hreceive : n.receive c.discoveryPacket.toBytes
      = (discoveryReplies c.discoveryPacket n.devices, n) := receive_discovery n rfl rfl
  have hsend : c.sendDiscovery TimedTransport.transport = (.ok (),
      ⟨(TimedTransport.new n timeout runtime).afterSends n
        (discoveryReplies c.discoveryPacket n.devices) (retries + 1), retries, 1⟩) :=
    sendRetried_timed (t := TimedTransport.new n timeout runtime) hreceive hreceive retries 1
  obtain ⟨hcancelled, hover, hsoon, taken, htaken, hdue, hleft, hperm⟩ :=
    drain_prompt ((prompt_new hprompt n).afterSends n
      (discoveryReplies c.discoveryPacket n.devices) (retries + 1))
  rw [show found = _ from Client.discover_eq TimedTransport.transport hsend]
  simp only
  rw [htaken]
  have hwaiting {x : Nat × Datagram} := hperm.mem_iff.symm.trans
    (mem_afterSends_discovery c.discoveryPacket timeout runtime retries (x := x))
  have hreplies : ∀ d ∈ taken.map Prod.snd, ∃ cfg ∈ n.devices,
      d = (discoveryResponse c.discoveryPacket cfg, cfg.mac.format) := by
    intro d hd
    obtain ⟨x, hx, rfl⟩ := List.mem_map.mp hd
    obtain ⟨cfg, hcfg, _, rfl⟩ := hwaiting.mp (List.mem_append_left _ hx)
    exact ⟨cfg, hcfg, rfl⟩
  have hdevices := mem_devices_of_replies hdistinct c.discoveryPacket hreplies
  refine ⟨congrArg Client.ended hcancelled, ⟨hover, hsoon⟩,
    fun cfg => cfg ∈ n.devices ∧ (discoveryResponse c.discoveryPacket cfg, cfg.mac.format)
      ∈ taken.map Prod.snd, ?_, ?_, ?_⟩
  · intro device
    refine (hdevices device).trans ?_
    simp only [and_assoc]
  · intro cfg hcfg hanswers hquick
    refine ⟨hcfg, ?_⟩
    rcases List.mem_append.mp (hwaiting.mpr ⟨cfg, hcfg, hanswers, rfl⟩) with hx | hx
    · exact List.mem_map_of_mem hx
    · exact absurd hquick (Nat.not_lt.mpr (hleft _ hx))
  · rintro cfg ⟨hcfg, hd⟩
    obtain ⟨x, hx, heq⟩ := List.mem_map.mp hd
    obtain ⟨cfg', hcfg', hanswers, rfl⟩ := hwaiting.mp (List.mem_append_left _ hx)
    have hannounces := (announces_discoveryResponse_iff c.discoveryPacket cfg cfg.mac
      (discoveredDevice cfg)).mpr ⟨rfl, rfl⟩
    rw [← heq] at hannounces
    have hmac := ((announces_discoveryResponse_iff c.discoveryPacket cfg' _ _).mp hannounces).1
    -- the reply says which device it comes from
    obtain rfl := List.inj_on_of_nodup_map hdistinct hcfg' hcfg hmac
    exact ⟨hcfg, hanswers, hdue _ hx⟩

/-- **Discovery finds the devices that are quick enough**: on a runtime that is late by `lag` at
most those that answer so much before the timeout, none that answers so much after it, and no
other. -/
theorem discover_timed (hdistinct : (n.devices.map DeviceConfig.mac).Nodup) (retries : Nat)
    {lag timeout : Nat} {runtime : Runtime} (hprompt : PromptRuntime lag timeout runtime) :
    let found := (Client.new (TimedTransport.new n timeout runtime) retries).discover
      TimedTransport.transport
    found.1 = .ok () ∧ (timeout ≤ found.2.session.transport.queue.now ∧
      found.2.session.transport.queue.now ≤ timeout + lag) ∧
    (∀ cfg ∈ n.devices, cfg.answersDiscovery = true → cfg.slow + lag < timeout →
      discoveredDevice cfg ∈ found.2.devices.devices) ∧
    ∀ device ∈ found.2.devices.devices, ∃ cfg ∈ n.devices, cfg.answersDiscovery = true ∧
      cfg.slow ≤ timeout + lag ∧ device = discoveredDevice cfg := by
  obtain ⟨hok, hnow, due, hdevices, hquick, hdue⟩ := discover_due hdistinct retries hprompt
  refine ⟨hok, hnow, ?_, ?_⟩
  · intro cfg hcfg hanswers hslow
    exact (hdevices _).mpr ⟨cfg, hquick cfg hcfg hanswers hslow, rfl⟩
  · intro device hdevice
    obtain ⟨cfg, hcfg, rfl⟩ := (hdevices device).mp hdevice
    obtain ⟨hmem, hanswers, hslow⟩ := hdue cfg hcfg
    exact ⟨cfg, hmem, hanswers, hslow, rfl⟩

/-- A device that answers late. -/
def slowDevice (last : UInt8) (slow : Nat) : DeviceConfig :=
  { DeviceConfig.defaultWithMac (Mac.auto last) with slow := slow }

/-- Of two devices one answers in time. -/
theorem discover_timed_two :
    let n := Network.new [slowDevice 1 (20 * ms), slowDevice 2 (90 * ms)]
    let found := (Client.new (TimedTransport.new n (50 * ms) (startPaused (50 * ms))) 0).discover
      TimedTransport.transport
    found.1 = .ok () ∧ (50 * ms ≤ found.2.session.transport.queue.now ∧
      found.2.session.transport.queue.now ≤ 50 * ms + ms) ∧
    (∀ cfg ∈ n.devices, cfg.answersDiscovery = true → cfg.slow + ms < 50 * ms →
      discoveredDevice cfg ∈ found.2.devices.devices) ∧
    ∀ device ∈ found.2.devices.devices, ∃ cfg ∈ n.devices,
      cfg.answersDiscovery = true ∧ cfg.slow ≤ 50 * ms + ms ∧ device = discoveredDevice cfg := by
  intro n
  have hdistinct : (n.devices.map DeviceConfig.mac).Nodup := by decide
  exact discover_timed hdistinct 0 (promptRuntime_startPaused (50 * ms))

end Discovery

end Mocksbr
