import Udapcfg.Properties.HeaderCodec
import Udapcfg.Properties.Simulation

/-!
# What a program puts on the wire

The log of a program, whatever its peers do: request after request, each `retries + 1` times, with
headers that are numbered in order. Which requests there are is for its actions to say.

* `Sends` — the sends of a run, and its headers
* `Follows`, `Speaks` — the requests of an operation, and of an action
* `program_wire` — the log of a program
-/

namespace Udap

open Infra

/-! ## Requests -/

/-- What is sent, but for its number. -/
structure Message where
  dst : Mac
  broadcast : Bool
  ucpMethod : UInt16
  body : Bytes
deriving DecidableEq

/-- The message of a discovery. -/
def Message.discovery : Message := ⟨Mac.zero, true, Method.advDisc, []⟩

/-- A message to one device. -/
def Message.to (dst : Mac) (content : UInt16 × Bytes) : Message := ⟨dst, false, content.1, content.2⟩

/-- A request: a message, and how many headers were built before its own. -/
structure Request where
  message : Message
  ticket : Nat
deriving DecidableEq

namespace Request

/-- Its header on a session whose sequence number was `start` when the count began. -/
def header (start : UInt16) (q : Request) : Packet :=
  ((⟨(), 0, start + UInt16.ofNat q.ticket⟩ : Session Unit).header q.message.dst q.message.ucpMethod
    q.message.broadcast).1

def packet (start : UInt16) (q : Request) : Bytes := (q.header start).toBytes ++ q.message.body

theorem fromBytes_packet (start : UInt16) (q : Request) :
    Packet.fromBytes (q.packet start) = .ok (q.header start, q.message.body) :=
  Packet.fromBytes_toBytes rfl q.message.body

end Request

theorem ofNat_succ (start : UInt16) (k : Nat) :
    start + UInt16.ofNat k + 1 = start + UInt16.ofNat (k + 1) := by
  rw [UInt16.ofNat_add, UInt16.add_assoc]
  rfl

/-- Fewer than 65536 headers are told apart by their sequence numbers. -/
theorem ofNat_inj_of_lt {start : UInt16} {k k' : Nat} (hk : k < 65536) (hk' : k' < 65536)
    (h : start + UInt16.ofNat k + 1 = start + UInt16.ofNat k' + 1) : k = k' := by
  have hsame := congrArg UInt16.toNat (UInt16.add_right_inj start |>.mp (UInt16.add_left_inj 1 |>.mp h))
  rwa [UInt16.toNat_ofNat_of_lt' hk, UInt16.toNat_ofNat_of_lt' hk'] at hsame

/-! ## Sessions -/

variable {σ : Type} {T : Transport σ}

namespace Session

theorem sendRetried_fields (packet : Bytes) (s : Session σ) :
    (sendRetried T packet s).2.retries = s.retries ∧
      (sendRetried T packet s).2.sequence = s.sequence := by
  unfold sendRetried
  split
  · exact ⟨rfl, rfl⟩
  · exact ⟨rfl, rfl⟩

/-- A request takes one number, and leaves the retry count alone. -/
theorem request_fields (device : Device) (ucpMethod : UInt16) (body : Except EncodeError Bytes)
    (s : Session σ) : (s.request T device ucpMethod body).2.retries = s.retries ∧
      (s.request T device ucpMethod body).2.sequence = s.sequence + 1 := by
  unfold request
  cases body with
  | error e => exact ⟨rfl, rfl⟩
  | ok body =>
    have hsent := sendRetried_fields (T := T)
      ((s.header device.mac ucpMethod false).1.toBytes ++ body)
      (s.header device.mac ucpMethod false).2
    simp only
    split
    · next hsend =>
      rw [hsend] at hsent
      exact hsent
    · next hsend =>
      rw [hsend] at hsent
      exact hsent

end Session

/--
From `s` to `s'` these requests were sent, each `retries + 1` times, and headers `k` to `k' - 1`
were built.
-/
structure Sends (start : UInt16) (k k' : Nat) (reqs : List Request)
    (s s' : Session (σ × List Bytes)) : Prop where
  log : s'.log = s.log ++ reqs.flatMap fun q => List.replicate (s.retries + 1) (q.packet start)
  retries : s'.retries = s.retries
  sequence : s'.sequence = start + UInt16.ofNat k'
  le : k ≤ k'
  tickets : ∀ q ∈ reqs, k ≤ q.ticket ∧ q.ticket < k'
  increasing : reqs.Pairwise fun q q' => q.ticket < q'.ticket

section Sends

variable {start : UInt16} {k k' k'' : Nat} {reqs reqs' : List Request}
  {s s' s'' : Session (σ × List Bytes)}

theorem Sends.none (h : s.sequence = start + UInt16.ofNat k) : Sends start k k [] s s where
  log := (List.append_nil _).symm
  retries := rfl
  sequence := h
  le := Nat.le_refl k
  tickets := fun q hq => by cases hq
  increasing := .nil

theorem Sends.trans (h : Sends start k k' reqs s s') (h' : Sends start k' k'' reqs' s' s'') :
    Sends start k k'' (reqs ++ reqs') s s'' where
  log := by rw [h'.log, h.log, h.retries, List.append_assoc, List.flatMap_append]
  retries := h'.retries.trans h.retries
  sequence := h'.sequence
  le := h.le.trans h'.le
  tickets q hq := by
    rcases List.mem_append.mp hq with hq | hq
    · exact ⟨(h.tickets q hq).1, (h.tickets q hq).2.trans_le h'.le⟩
    · exact ⟨h.le.trans (h'.tickets q hq).1, (h'.tickets q hq).2⟩
  increasing := List.pairwise_append.mpr ⟨h.increasing, h'.increasing, fun q hq q' hq' =>
    (h.tickets q hq).2.trans_le (h'.tickets q' hq').1⟩

/-- One request is one packet. -/
theorem sends_request (hs : s.sequence = start + UInt16.ofNat k) (device : Device)
    (ucpMethod : UInt16) (body : Bytes) :
    Sends start k (k + 1) [⟨.to device.mac (ucpMethod, body), k⟩] s
      (s.request T.recorded device ucpMethod (.ok body)).2 where
  log := by
    have hpacket : s.packet device ucpMethod body
        = Request.packet start ⟨.to device.mac (ucpMethod, body), k⟩ := by
      rw [Session.packet, Request.packet, Request.header, ← hs]
      rfl
    rw [Session.log_request, hpacket, List.flatMap_singleton]
  retries := (Session.request_fields device ucpMethod (.ok body) s).1
  sequence := by rw [(Session.request_fields device ucpMethod (.ok body) s).2, hs, ofNat_succ]
  le := Nat.le_succ k
  tickets q hq := by
    rw [List.mem_singleton.mp hq]
    exact ⟨Nat.le_refl k, Nat.lt_succ_self k⟩
  increasing := List.pairwise_singleton _ _

/-- A request that cannot be built takes a number, but sends nothing. -/
theorem sends_request_error (hs : s.sequence = start + UInt16.ofNat k) (device : Device)
    (ucpMethod : UInt16) (e : EncodeError) :
    Sends start k (k + 1) [] s (s.request T.recorded device ucpMethod (.error e)).2 where
  log := (List.append_nil _).symm
  retries := rfl
  sequence := by rw [(Session.request_fields device ucpMethod (.error e) s).2, hs, ofNat_succ]
  le := Nat.le_succ k
  tickets := fun q hq => by cases hq
  increasing := .nil

end Sends

/-! ## Operations -/

/--
The requests an operation makes on a handle that has an address. A `set` whose cache is empty reads
first, and `reading` is what a read comes to. Only if it succeeds is there a write, of what was
read. What does not encode is not sent.
-/
inductive Follows (device : Device) (reading : Except OpError Params) :
    Call → List (UInt16 × Bytes) → Prop
  | get (params : List String) :
    Follows device reading (.get params) [(Method.getData, getDataPayload params)]
  | getAll : Follows device reading .getAll [(Method.getData, getDataPayload names)]
  | reset : Follows device reading .reset [(Method.reset, [])]
  | getIp : Follows device reading .getIp [(Method.getIp, [])]
  | getUuid : Follows device reading .getUuid [(Method.getUuid, [])]
  | unencodable {config : Params} {e : EncodeError} : device.parameters ≠ OrdMap.empty →
    setDataPayload (device.parameters.extend config) = .error e →
    Follows device reading (.set config) []
  | write {config : Params} {body : Bytes} : device.parameters ≠ OrdMap.empty →
    setDataPayload (device.parameters.extend config) = .ok body →
    Follows device reading (.set config) [(Method.setData, body)]
  | unread {config : Params} {e : OpError} : device.parameters = OrdMap.empty →
    reading = .error e → Follows device reading (.set config) [(Method.getData, getDataPayload names)]
  | readUnencodable {config m : Params} {e : EncodeError} : device.parameters = OrdMap.empty →
    reading = .ok m → setDataPayload (m.extend config) = .error e →
    Follows device reading (.set config) [(Method.getData, getDataPayload names)]
  | readWrite {config m : Params} {body : Bytes} : device.parameters = OrdMap.empty →
    reading = .ok m → setDataPayload (m.extend config) = .ok body →
    Follows device reading (.set config)
      [(Method.getData, getDataPayload names), (Method.setData, body)]

section Operations

variable {start : UInt16} {k : Nat} {device : Device} {s : Session (σ × List Bytes)}

/-- An operation that is one request. -/
theorem sends_reading {α : Type} {ucpMethod : UInt16} {body : Bytes}
    {op : Session (σ × List Bytes) → Except OpError α × Session (σ × List Bytes)}
    {read : Except OpError (Packet × Bytes) → Except OpError α}
    (hop : ∀ s, op s = (read (s.request T.recorded device ucpMethod (.ok body)).1,
      (s.request T.recorded device ucpMethod (.ok body)).2))
    (hs : s.sequence = start + UInt16.ofNat k) :
    Sends start k (k + 1) [⟨.to device.mac (ucpMethod, body), k⟩] s (op s).2 := by
  rw [hop]
  exact sends_request hs device ucpMethod body

/-- The write of a `set`, after its prelude. -/
theorem sends_write (hs : s.sequence = start + UInt16.ofNat k) (device : Device) (config : Params) :
    let result := setDataPayload (device.parameters.extend config)
    ∃ reqs, Sends start k (k + 1) reqs s
        (s.request T.recorded device Method.setData result).2 ∧
      ((∃ e, result = .error e ∧ reqs = []) ∨
        ∃ body, result = .ok body ∧ reqs = [⟨.to device.mac (Method.setData, body), k⟩]) := by
  intro result
  cases hresult : result with
  | error e => exact ⟨_, sends_request_error hs device Method.setData e, .inl ⟨e, rfl, rfl⟩⟩
  | ok body => exact ⟨_, sends_request hs device Method.setData body, .inr ⟨body, rfl, rfl⟩⟩

/-- What an operation puts on the wire, where a read comes to `reading`. -/
def Puts (start : UInt16) (k : Nat) (device : Device) (reading : Except OpError Params) (call : Call)
    (s s' : Session (σ × List Bytes)) : Prop :=
  ∃ k' reqs made, Sends start k k' reqs s s' ∧ k' ≤ k + 2 ∧ Follows device reading call made ∧
    reqs.map Request.message = made.map (Message.to device.mac)

theorem set_puts (hs : s.sequence = start + UInt16.ofNat k) (hmac : device.mac.isZero = false)
    (config : Params) : Puts start k device (get T.recorded device names s).1 (.set config) s
      (set T.recorded device config s).2.2 := by
  by_cases hcache : device.parameters = OrdMap.empty
  · -- a read, and a write if it has brought anything
    have hread := sends_reading (T := T) (get_eq hmac names) hs
    rcases hget : get T.recorded device names s with ⟨e | m, s₁⟩
    · rw [hget] at hread
      rw [set_of_get_error hmac hcache config hget]
      exact ⟨_, _, _, hread, by omega, .unread hcache rfl, rfl⟩
    · rw [hget] at hread
      have hprelude := preludeRead_of_get hcache hget
      obtain ⟨reqs, hwrite, hreqs⟩ := sends_write (T := T) hread.sequence
        { device with parameters := m } config
      rw [set_session hmac hprelude config]
      rcases hreqs with ⟨e, he, rfl⟩ | ⟨body, hbody, rfl⟩
      · exact ⟨_, _, _, hread.trans hwrite, by omega, .readUnencodable hcache rfl he, rfl⟩
      · exact ⟨_, _, _, hread.trans hwrite, by omega, .readWrite hcache rfl hbody, rfl⟩
  · have hprelude : preludeRead T.recorded device s = (.ok (), device, s) := by
      rw [preludeRead, if_neg (mt OrdMap.isEmpty_iff.mp hcache)]
    obtain ⟨reqs, hwrite, hreqs⟩ := sends_write (T := T) hs device config
    rw [set_session hmac hprelude config]
    rcases hreqs with ⟨e, he, rfl⟩ | ⟨body, hbody, rfl⟩
    · exact ⟨_, _, _, hwrite, by omega, .unencodable hcache he, rfl⟩
    · exact ⟨_, _, _, hwrite, by omega, .write hcache hbody, rfl⟩

/-- **Every operation** makes requests of its own. -/
theorem run_puts (hs : s.sequence = start + UInt16.ofNat k) (hmac : device.mac.isZero = false)
    (call : Call) : Puts start k device (get T.recorded device names s).1 call s
      (call.run T.recorded device s).2.2 := by
  cases call with
  | get params =>
    exact ⟨_, _, _, sends_reading (get_eq hmac params) hs, by omega, .get params, rfl⟩
  | getAll =>
    have hget := sends_reading (T := T) (get_eq hmac names) hs
    rw [Call.run, getAll]
    rcases hr : get T.recorded device names s with ⟨_ | _, s₁⟩
    · rw [hr] at hget
      exact ⟨_, _, _, hget, by omega, .getAll, rfl⟩
    · rw [hr] at hget
      exact ⟨_, _, _, hget, by omega, .getAll, rfl⟩
  | set config => exact set_puts hs hmac config
  | reset => exact ⟨_, _, _, sends_reading (reset_eq hmac) hs, by omega, .reset, rfl⟩
  | getIp => exact ⟨_, _, _, sends_reading (getIp_eq hmac) hs, by omega, .getIp, rfl⟩
  | getUuid => exact ⟨_, _, _, sends_reading (getUuid_eq hmac) hs, by omega, .getUuid, rfl⟩

end Operations

/-! ## Discovery -/

/-- A discovery is one packet. -/
theorem discover_sends {start : UInt16} {k : Nat} {c : Client (σ × List Bytes)}
    (hs : c.session.sequence = start + UInt16.ofNat k) :
    Sends start k (k + 1) [⟨.discovery, k⟩] c.session (c.discover T.recorded).2.session := by
  have hpacket : c.discoveryPacket.toBytes = Request.packet start ⟨.discovery, k⟩ := by
    rw [Client.discoveryPacket, Request.packet, Request.header, ← hs]
    exact (List.append_nil _).symm
  have hlog := Session.log_sendRetried (T := T) c.discoveryPacket.toBytes
    (c.session.header Mac.zero Method.advDisc true).2
  obtain ⟨hretries, hsequence⟩ := Session.sendRetried_fields (T := T.recorded)
    c.discoveryPacket.toBytes (c.session.header Mac.zero Method.advDisc true).2
  have hsession : (c.discover T.recorded).2.session.log = (c.sendDiscovery T.recorded).2.log ∧
      (c.discover T.recorded).2.session.retries = (c.sendDiscovery T.recorded).2.retries ∧
      (c.discover T.recorded).2.session.sequence = (c.sendDiscovery T.recorded).2.sequence := by
    rcases hsend : c.sendDiscovery T.recorded with ⟨e | u, s⟩
    · rw [Client.discover_of_error T.recorded hsend]
      exact ⟨rfl, rfl, rfl⟩
    · rw [Client.discover_eq T.recorded hsend]
      exact ⟨log_drain, rfl, rfl⟩
  exact {
    log := by
      rw [hsession.1, Client.sendDiscovery, hlog, hpacket, List.flatMap_singleton]
      rfl
    retries := hsession.2.1.trans hretries
    sequence := by
      rw [hsession.2.2, Client.sendDiscovery, hsequence, ← ofNat_succ, ← hs]
      rfl
    le := Nat.le_succ k
    tickets := by
      intro q hq
      rw [List.mem_singleton.mp hq]
      exact ⟨Nat.le_refl k, Nat.lt_succ_self k⟩
    increasing := List.pairwise_singleton _ _ }

/-! ## Programs -/

/-- The messages of an action. Only a discovery is sent to no address. -/
inductive Speaks (T : Transport σ) (p : Program σ) : Action → List Message → Prop
  | discover : Speaks T p .discover [.discovery]
  | take (mac : Mac) : Speaks T p (.take mac) []
  /-- There is no such device. -/
  | absent {index : Nat} (call : Call) : p.held[index]? = none → Speaks T p (.call index call) []
  | nameless {index : Nat} {device : Device} (call : Call) : p.held[index]? = some device →
    device.mac.isZero = true → Speaks T p (.call index call) []
  | call {index : Nat} {device : Device} {call : Call} {made : List (UInt16 × Bytes)} :
    p.held[index]? = some device → device.mac.isZero = false →
    Follows device (get T device names p.client.session).1 call made →
    Speaks T p (.call index call) (made.map (Message.to device.mac))

/-- Messages that some actions send, one after another. -/
def Spells (T : Transport σ) : Program σ → List Action → List Message → Prop
  | _, [], said => said = []
  | p, action :: rest, said => ∃ first others, said = first ++ others ∧ Speaks T p action first ∧
    Spells T (p.act T action) rest others

theorem act_sends {start : UInt16} {k : Nat} {p : Program (σ × List Bytes)}
    (hs : p.client.session.sequence = start + UInt16.ofNat k) (action : Action) : ∃ k' reqs,
    Sends start k k' reqs p.client.session (p.act T.recorded action).client.session ∧
      k' ≤ k + 2 ∧ Speaks T.recorded p action (reqs.map Request.message) := by
  cases action with
  | discover => exact ⟨_, _, discover_sends hs, by omega, .discover⟩
  | take mac => exact ⟨k, [], Sends.none hs, by omega, .take mac⟩
  | call index call =>
    rw [Program.act]
    cases hheld : p.held[index]? with
    | none => exact ⟨k, [], Sends.none hs, by omega, .absent call hheld⟩
    | some device =>
      simp only [Client.call_eq]
      cases hmac : device.mac.isZero with
      | true =>
        rw [run_of_isZero _ _ hmac]
        exact ⟨k, [], Sends.none hs, by omega, .nameless call hheld hmac⟩
      | false =>
        obtain ⟨k', reqs, made, hsends, hk', hfollows, hreqs⟩ := run_puts (T := T) hs hmac call
        refine ⟨k', reqs, hsends, hk', ?_⟩
        rw [hreqs]
        exact .call hheld hmac hfollows

theorem run_sends {start : UInt16} : ∀ (actions : List Action) (p : Program (σ × List Bytes))
    (k : Nat), p.client.session.sequence = start + UInt16.ofNat k → ∃ k' reqs,
    Sends start k k' reqs p.client.session (p.run T.recorded actions).client.session ∧
      k' ≤ k + 2 * actions.length ∧ Spells T.recorded p actions (reqs.map Request.message)
  | [], _, k, hs => ⟨k, [], Sends.none hs, Nat.le_refl _, rfl⟩
  | action :: rest, p, k, hs => by
    obtain ⟨k₁, first, hfirst, hk₁, hspeaks⟩ := act_sends (T := T) hs action
    obtain ⟨k₂, others, hothers, hk₂, hspells⟩ := run_sends rest (p.act T.recorded action) k₁
      hfirst.sequence
    refine ⟨k₂, first ++ others, hfirst.trans hothers, ?_, _, _, List.map_append, hspeaks, hspells⟩
    rw [List.length_cons]
    omega

/-- The devices of a program stay where they are, under the MACs they have. -/
theorem act_held {T : Transport σ} (p : Program σ) (action : Action) :
    p.held.map Device.mac <+: (p.act T action).held.map Device.mac := by
  cases action with
  | discover => exact List.prefix_rfl
  | take mac =>
    rw [Program.act, List.map_append]
    exact List.prefix_append _ _
  | call index call =>
    rw [Program.act]
    cases hheld : p.held[index]? with
    | none => exact List.prefix_rfl
    | some device =>
      obtain ⟨m, hm⟩ := run_device (T := T) call device p.client.session
      obtain ⟨hlt, hget⟩ := List.getElem?_eq_some_iff.mp hheld
      have hsame : (p.held.map Device.mac).set index device.mac = p.held.map Device.mac := by
        rw [← hget, ← List.getElem_map Device.mac (h := by simpa using hlt), List.set_getElem_self]
      simp only [Client.call_eq, hm, List.map_set, hsame]
      exact List.prefix_rfl

theorem run_held {T : Transport σ} (p : Program σ) (actions : List Action) :
    p.held.map Device.mac <+: (p.run T actions).held.map Device.mac := by
  induction actions generalizing p with
  | nil => exact List.prefix_rfl
  | cons action rest ih => exact (act_held p action).trans (ih _)

/-- Where a message goes: to everyone if it is a discovery, else to a device that is held. -/
def Message.Reaches (held : List Device) (m : Message) : Prop :=
  m = .discovery ∨ (m.broadcast = false ∧ m.dst.isZero = false ∧ m.dst ∈ held.map Device.mac)

theorem reaches_of_speaks {T : Transport σ} {p : Program σ} {action : Action} {said : List Message}
    (h : Speaks T p action said) {m : Message} (hm : m ∈ said) : m.Reaches p.held := by
  cases h with
  | discover => exact .inl (List.mem_singleton.mp hm)
  | take | absent | nameless => cases hm
  | call hheld hmac =>
    obtain ⟨content, _, rfl⟩ := List.mem_map.mp hm
    exact .inr ⟨rfl, hmac, List.mem_map_of_mem (List.mem_of_getElem? hheld)⟩

theorem reaches_of_spells {T : Transport σ} {m : Message} : ∀ (actions : List Action)
    {p : Program σ} {said : List Message}, Spells T p actions said → m ∈ said →
    m.Reaches (p.run T actions).held
  | [], _, _, h, hm => by
    rw [show _ = [] from h] at hm
    cases hm
  | action :: rest, p, _, ⟨first, others, hsaid, hfirst, hothers⟩, hm => by
    rw [hsaid] at hm
    rcases List.mem_append.mp hm with hm | hm
    · refine (reaches_of_speaks hfirst hm).imp_right fun ⟨hbroadcast, hmac, hheld⟩ => ?_
      exact ⟨hbroadcast, hmac, (run_held p (action :: rest)).subset hheld⟩
    · exact reaches_of_spells rest hothers hm

/-- What the log of a program is made of. -/
structure Wire (T : Transport σ) (p : Program (σ × List Bytes)) (actions : List Action)
    (reqs : List Request) : Prop where
  /-- Each request is sent `retries + 1` times, and then the next. -/
  log : (p.run T.recorded actions).client.session.log = p.client.session.log ++ reqs.flatMap fun q =>
    List.replicate (p.client.session.retries + 1) (q.packet p.client.session.sequence)
  /-- The requests are those of the actions. -/
  spells : Spells T.recorded p actions (reqs.map Request.message)
  /-- A request that is not a discovery goes to a device that was held, and to no other. -/
  reaches : ∀ q ∈ reqs, q.message.Reaches (p.run T.recorded actions).held
  /-- They are numbered in order, and every action takes two numbers at most. -/
  increasing : reqs.Pairwise fun q q' => q.ticket < q'.ticket
  numbered : ∀ q ∈ reqs, q.ticket < 2 * actions.length
  /-- Each is a request, from no address. -/
  header : ∀ q ∈ reqs, ∃ header : Packet,
    Packet.fromBytes (q.packet p.client.session.sequence) = .ok (header, q.message.body) ∧
    isRequestPacket (q.packet p.client.session.sequence) = true ∧
    header.dstAddress = q.message.dst ∧
    header.dstBroadcast = (if q.message.broadcast then 1 else 0) ∧
    header.srcAddress = Mac.zero ∧ header.ucpMethod = q.message.ucpMethod ∧
    header.sequence = p.client.session.sequence + UInt16.ofNat q.ticket + 1
  /-- Before the numbers wrap around, no two requests are the same packet. -/
  distinct : actions.length ≤ 32768 →
    (reqs.map (Request.packet p.client.session.sequence)).Nodup

/-- **The log of a program**, whatever its peers do. -/
theorem program_wire (T : Transport σ) (p : Program (σ × List Bytes)) (actions : List Action) :
    ∃ reqs, Wire T p actions reqs := by
  have hstart : p.client.session.sequence = p.client.session.sequence + UInt16.ofNat 0 :=
    (UInt16.add_zero _).symm
  obtain ⟨k, reqs, hsends, hk, hspells⟩ := run_sends (T := T) actions p 0 hstart
  have hnumbered : ∀ q ∈ reqs, q.ticket < 2 * actions.length := by
    intro q hq
    have hlt := (hsends.tickets q hq).2
    omega
  refine ⟨reqs, hsends.log, hspells, ?_, hsends.increasing, hnumbered, ?_, ?_⟩
  · intro q hq
    exact reaches_of_spells actions hspells (List.mem_map_of_mem hq)
  · intro q _
    exact ⟨_, q.fromBytes_packet p.client.session.sequence, isRequestPacket_header _ _ _ _ _, rfl,
      rfl, rfl, rfl, rfl⟩
  · intro hlength
    refine List.pairwise_map.mpr (hsends.increasing.imp_of_mem ?_)
    intro q q' hq hq' hlt heq
    -- equal packets have equal headers, and these equal numbers
    have hparse := congrArg Packet.fromBytes heq
    rw [q.fromBytes_packet, q'.fromBytes_packet] at hparse
    have hheader := (Prod.mk.inj (Except.ok.inj hparse)).1
    have hsequence := congrArg Packet.sequence hheader
    have hk := hnumbered q hq
    have hk' := hnumbered q' hq'
    exact hlt.ne (ofNat_inj_of_lt (by omega) (by omega) hsequence)

end Udap
