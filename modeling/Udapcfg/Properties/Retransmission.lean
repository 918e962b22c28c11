import Udapcfg.Infra.Backlog
import Udapcfg.Properties.Exchange
import Udapcfg.Udap.Ops.Call

/-!
# Runs with and without retries

With `retries` above zero every request puts more replies in flight than its operation reads. The
next operation starts on what is left, and `wait_for_reply` does not look at sequence numbers or
methods. So in a run on a device without faults the operation number `k` reads the reply to the
operation number `k / (retries + 1)`.

* `results_eq` — the results of a run, each from the reply it was read from
* `outcome_eq_iff` — when another reply does as well as one's own
* `retransmissionTransparent_iff` — when a run with retries has the results of a run without
-/

namespace Mocksbr

open Infra Udap

/-! ## Queries -/

/-- The operations other than `set`, with their arguments. -/
inductive Query where
  | get (params : List String)
  | getAll
  | reset
  | getIp
  | getUuid
deriving DecidableEq

namespace Query

def call : Query → Call
  | get params => .get params
  | getAll => .getAll
  | reset => .reset
  | getIp => .getIp
  | getUuid => .getUuid

/-- The method of the request, and of the reply to it. -/
def method : Query → UInt16
  | get _ | getAll => Method.getData
  | reset => Method.reset
  | getIp => Method.getIp
  | getUuid => Method.getUuid

/-- The body of the request. -/
def payload : Query → Bytes
  | get params => getDataPayload params
  | getAll => getDataPayload names
  | reset | getIp | getUuid => []

/-- The parameters the reply is about. -/
def asked : Query → List Parameter
  | get params => answered params
  | getAll => answered names
  | reset | getIp | getUuid => []

/-- The body of the reply. -/
def body (cfg : DeviceConfig) (state : DeviceState) : Query → Bytes
  | get params => getDataBody state (getDataPayload params)
  | getAll => getDataBody state (getDataPayload names)
  | reset => []
  | getIp => Tlv.encode 0x05 cfg.ip.octets ++ (Tlv.encode 0x06 cfg.subnetMask.octets ++
      Tlv.encode 0x07 cfg.gateway.octets)
  | getUuid => Tlv.encode 0x0d cfg.uuid.toList

/-- What the operation makes of a reply. -/
def read (device : Device) (reply : Packet) (payload : Bytes) : Query → Outcome × Device
  | get _ => (.params (getReply device reply payload), device)
  | getAll =>
    match getReply device reply payload with
    | .error e => (.done (.error e), device)
    | .ok config =>
      (.done (.ok ()), { device with parameters := mergeRead device.parameters config })
  | reset => (.done (resetReply device reply payload), device)
  | getIp => (.netConfig (getIpReply device reply payload), device)
  | getUuid => (.uuid (getUuidReply device reply payload), device)

/-- The outcome of an operation that fails. -/
def failure (e : OpError) : Query → Outcome
  | get _ => .params (.error e)
  | getAll | reset => .done (.error e)
  | getIp => .netConfig (.error e)
  | getUuid => .uuid (.error e)

theorem method_ne (q : Query) : q.method ≠ Method.advDisc ∧ q.method ≠ Method.error ∧
    q.method ≠ Method.credentialsError := by
  cases q <;> rw [method] <;> decide

/-- Only reads share a method. -/
theorem eq_of_method {q source : Query} (h : source.method = q.method)
    (hq : q.method ≠ Method.getData) : source = q := by
  cases q <;> cases source <;>
    first
    | rfl
    | exact absurd rfl hq
    | rw [method, method] at h; exact absurd h (by decide)

variable {σ : Type} {T : Transport σ} {device : Device}

/-- A query is one request, and a reading of the reply. -/
theorem run_call (hmac : device.mac.isZero = false) (q : Query) {s s' : Session σ} {reply : Packet}
    {payload : Bytes}
    (h : s.request T device q.method (.ok q.payload) = (.ok (reply, payload), s')) :
    q.call.run T device s
      = ((q.read device reply payload).1, (q.read device reply payload).2, s') := by
  cases q with
  | get params =>
    have hget : s.request T device Method.getData (.ok (getDataPayload params))
        = (.ok (reply, payload), s') := h
    simp only [call, Call.run, get_eq hmac, hget]
    rfl
  | getAll =>
    have hget : s.request T device Method.getData (.ok (getDataPayload names))
        = (.ok (reply, payload), s') := h
    simp only [call, Call.run, Udap.getAll, get_eq hmac, hget, onReply, read]
    cases getReply device reply payload <;> rfl
  | reset =>
    have hreset : s.request T device Method.reset (.ok []) = (.ok (reply, payload), s') := h
    simp only [call, Call.run, reset_eq hmac, hreset]
    rfl
  | getIp =>
    have hip : s.request T device Method.getIp (.ok []) = (.ok (reply, payload), s') := h
    simp only [call, Call.run, getIp_eq hmac, hip]
    rfl
  | getUuid =>
    have huuid : s.request T device Method.getUuid (.ok []) = (.ok (reply, payload), s') := h
    simp only [call, Call.run, getUuid_eq hmac, huuid]
    rfl

/-- Of the header of a reply the operations read the method only. -/
theorem read_congr (q : Query) (device : Device) {reply reply' : Packet}
    (h : reply.ucpMethod = reply'.ucpMethod) (payload : Bytes) :
    q.read device reply payload = q.read device reply' payload := by
  cases q <;>
    simp only [read, getReply, resetReply, getIpReply, getUuidReply, replyError, h]

end Query

/-! ## The replies in flight -/

section Fifo

variable {n : Network} {i : Nat} {cfg : DeviceConfig} {state : DeviceState} {device : Device}

/-- A device without faults answers every query, and stays as it is. -/
theorem reply_query (hfault : cfg.FaultFree) (hsettled : state.Settled) (q : Query)
    {request : Packet} (hmethod : request.ucpMethod = q.method) :
    reply request q.payload cfg state
      = (some (scheduled request cfg (q.body cfg state)), state) := by
  cases q with
  | get params => exact reply_getData hfault hmethod _ state
  | getAll => exact reply_getData hfault hmethod _ state
  | reset =>
    rw [Query.payload, reply_reset hfault hmethod, hsettled.applyReset]
    rfl
  | getIp => exact reply_getIp hfault hmethod _ state
  | getUuid => exact reply_getUuid hfault hmethod _ state

/-- A datagram is a reply to some request for the query `source`. -/
def RepliesTo (cfg : DeviceConfig) (state : DeviceState) (d : Datagram) (source : Query) : Prop :=
  ∃ request, d = ((buildHeader request cfg source.method).toBytes ++ source.body cfg state,
    cfg.mac.format)

theorem repliesTo_flight (q : Query) {request : Packet} (hmethod : request.ucpMethod = q.method)
    (retries : Nat) : List.Forall₂ (RepliesTo cfg state)
      (flight retries (some (scheduled request cfg (q.body cfg state))))
      (List.replicate (retries + 1) q) := by
  have hone : RepliesTo cfg state ((buildHeader request cfg request.ucpMethod).toBytes
      ++ q.body cfg state, cfg.mac.format) q := ⟨request, by rw [hmethod]⟩
  unfold flight
  induction retries + 1 with
  | zero => exact .nil
  | succ k ih => exact .cons hone ih

/-- **A query takes the first reply in flight**, and leaves its own behind the others. -/
theorem request_query (hosts : n.Hosts i cfg state) (hsettled : state.Settled)
    (haddr : Addresses device cfg) (hfault : cfg.FaultFree) (q : Query) {queue : List Datagram}
    {sources : List Query} (hqueue : List.Forall₂ (RepliesTo cfg state) queue sources)
    (retries : Nat) (sequence : UInt16) :
    ∃ source rest reply queue', sources ++ List.replicate (retries + 1) q = source :: rest ∧
      Session.request MockTransport.transport device q.method (.ok q.payload)
          ⟨⟨n, queue, []⟩, retries, sequence⟩
        = (.ok (reply, source.body cfg state), ⟨⟨n, queue', []⟩, retries, sequence + 1⟩) ∧
      reply.ucpMethod = source.method ∧ List.Forall₂ (RepliesTo cfg state) queue' rest := by
  have hreply := reply_query hfault hsettled q
    (show (requestOf device q.method sequence).ucpMethod = q.method from rfl)
  have hall : List.Forall₂ (RepliesTo cfg state)
      (queue ++ flight retries
        (some (scheduled (requestOf device q.method sequence) cfg (q.body cfg state))))
      (sources ++ List.replicate (retries + 1) q) :=
    List.rel_append hqueue (repliesTo_flight q rfl retries)
  rw [request_directed hosts haddr.mac q.method_ne.1, hreply, hosts.setState_self]
  cases hs : sources ++ List.replicate (retries + 1) q with
  | nil => simp at hs
  | cons source rest =>
    rw [hs] at hall
    obtain ⟨d, queue', ⟨request, rfl⟩, hrest, hflight⟩ := List.forall₂_cons_right_iff.mp hall
    refine ⟨source, rest, buildHeader request cfg source.method, queue', rfl, ?_, rfl, hrest⟩
    rw [hflight]
    exact waitForReply_head (accept_reply haddr request _ _)

/-! ## The results of a run -/

/-- What a query returns when it reads the reply to `source`. -/
def Query.outcome (cfg : DeviceConfig) (state : DeviceState) (device : Device) (q source : Query) :
    Outcome × Device :=
  q.read device (buildHeader (requestOf device q.method 0) cfg source.method)
    (source.body cfg state)

/-- What queries return one after another, each with the query whose reply it reads. -/
def outcomes (cfg : DeviceConfig) (state : DeviceState) (device : Device) :
    List (Query × Query) → List (Outcome × Device)
  | [] => []
  | (q, source) :: rest =>
    let r := q.outcome cfg state device source
    r :: outcomes cfg state r.2 rest

/-- The handle after a query still talks to its device. -/
theorem Query.addresses_outcome (haddr : Addresses device cfg) (q source : Query) :
    Addresses (q.outcome cfg state device source).2 cfg := by
  cases q with
  | getAll =>
    rw [Query.outcome, Query.read]
    split
    · exact haddr
    · exact haddr.withParameters _
  | get _ | reset | getIp | getUuid => exact haddr

/-- **The results of a run of queries**: each takes what the backlog has for it. -/
theorem results_eq (hosts : n.Hosts i cfg state) (hsettled : state.Settled)
    (hfault : cfg.FaultFree) (retries : Nat) :
    ∀ (queries : List Query) (device : Device) (queue : List Datagram) (sources : List Query)
      (sequence : UInt16), Addresses device cfg →
    List.Forall₂ (RepliesTo cfg state) queue sources →
    results MockTransport.transport device ⟨⟨n, queue, []⟩, retries, sequence⟩
        (queries.map Query.call)
      = outcomes cfg state device (queries.zip (Backlog.serve (retries + 1) sources queries))
  | [], _, _, _, _, _, _ => rfl
  | q :: rest, device, queue, sources, sequence, haddr, hqueue => by
    obtain ⟨source, sources', reply, queue', hs, hreq, hmethod, hrest⟩ :=
      request_query hosts hsettled haddr hfault q hqueue retries sequence
    -- the reply has some sequence number, which nobody reads
    have hread : q.read device reply (source.body cfg state)
        = q.outcome cfg state device source := q.read_congr device hmethod _
    have ih := results_eq hosts hsettled hfault retries rest
      (q.outcome cfg state device source).2 queue' sources' (sequence + 1)
      (q.addresses_outcome haddr source) hrest
    rw [List.map_cons, results, q.run_call haddr.isZero hreq, hread, Backlog.serve, hs]
    simp only [List.zip_cons_cons, outcomes, ih]

/-! ## Replies that do as well -/

/--
The reply to `source` serves `q` as well as its own reply would: it has the same method, and of the
parameters that the device answers it reports the same, or those it leaves out are cached anyway.
`m` is the cache before the queries `before`.
-/
def Query.ServedBy (state : DeviceState) (m : Params) (before : List Query) (q source : Query) :
    Prop :=
  source.method = q.method ∧ ∀ p ∈ parameters, state.answer p ≠ none →
    (p ∈ source.asked ↔ p ∈ q.asked) ∨
      (q = .getAll ∧ (.getAll ∈ before ∨ m.get? p.name = state.answer p))

theorem Query.mem_parameters_of_asked (q : Query) : ∀ p ∈ q.asked, p ∈ parameters := by
  cases q with
  | get _ | getAll => exact mem_parameters_of_answered
  | reset | getIp | getUuid => exact fun _ hp => absurd hp List.not_mem_nil

/-- What a read makes of the reply to a read. -/
theorem getReply_body (device : Device) {source : Query} (hmethod : source.method = Method.getData)
    (request : Packet) : getReply device (buildHeader request cfg source.method)
      (source.body cfg state) = .ok (state.readout source.asked) := by
  have hread : GetData.parseResponse (source.body cfg state) = .ok (state.readout source.asked) := by
    cases source with
    | get params => exact parseResponse_getDataItems state params
    | getAll => exact parseResponse_getDataItems state names
    | reset | getIp | getUuid => exact absurd hmethod (by decide)
  have hheader : (buildHeader request cfg source.method).ucpMethod = Method.getData := hmethod
  rw [getReply, if_pos hheader, hread]

/-- A reply with another method is an error. -/
theorem Query.outcome_of_ne {q source : Query} (h : source.method ≠ q.method) :
    (q.outcome cfg state device source).1
      = q.failure (.unexpectedMethod device.mac.format source.method) := by
  obtain ⟨_, herror, hcredentials⟩ := source.method_ne
  cases q with
  | get params =>
    have h : source.method ≠ Method.getData := h
    simp [Query.outcome, Query.read, Query.failure, getReply, buildHeader, h, herror]
  | getAll =>
    have h : source.method ≠ Method.getData := h
    simp [Query.outcome, Query.read, Query.failure, getReply, buildHeader, h, herror]
  | reset =>
    have h : source.method ≠ Method.reset := h
    simp [Query.outcome, Query.read, Query.failure, resetReply, buildHeader, h, herror]
  | getIp =>
    have h : source.method ≠ Method.getIp := h
    simp [Query.outcome, Query.read, Query.failure, getIpReply, replyError, buildHeader, h, herror,
      hcredentials]
  | getUuid =>
    have h : source.method ≠ Method.getUuid := h
    simp [Query.outcome, Query.read, Query.failure, getUuidReply, replyError, buildHeader, h,
      herror, hcredentials]

/-- A reply with the right method is not. -/
theorem Query.outcome_self_ne (q : Query) (mac : String) (method : UInt16) :
    (q.outcome cfg state device q).1 ≠ q.failure (.unexpectedMethod mac method) := by
  cases q with
  | get params =>
    rw [Query.outcome, Query.read, getReply_body device rfl]
    simp [Query.failure]
  | getAll =>
    rw [Query.outcome, Query.read, getReply_body device rfl]
    simp [Query.failure]
  | reset =>
    simp [Query.outcome, Query.read, Query.failure, resetReply, buildHeader, Query.method]
  | getIp =>
    simp [Query.outcome, Query.read, Query.failure, getIpReply, buildHeader, Query.method]
  | getUuid =>
    have hheader : (buildHeader (requestOf device Query.getUuid.method 0) cfg
        Query.getUuid.method).ucpMethod = Method.getUuid := rfl
    rw [Query.outcome, Query.read, getUuidReply, if_pos hheader, GetUuid.parseResponse]
    split <;> simp [Query.failure]

theorem mergeRead_readout_eq_iff {ps : List Parameter} (hps : ∀ p ∈ ps, p ∈ parameters)
    (m : Params) : mergeRead m (state.readout ps) = mergeRead m (state.readout (answered names)) ↔
      ∀ p ∈ parameters, state.answer p ≠ none → p ∈ ps ∨ m.get? p.name = state.answer p := by
  constructor
  · intro h p hp hans
    have hget := congrArg (fun m => m.get? p.name) h
    simp only [get?_mergeRead hp, get?_readout state hps hp,
      get?_readout state mem_parameters_of_answered hp, if_pos (mem_answered_names hp)] at hget
    by_cases hin : p ∈ ps
    · exact Or.inl hin
    · obtain ⟨v, hv⟩ := Option.ne_none_iff_exists'.mp hans
      rw [if_neg hin, hv] at hget
      exact Or.inr (by rw [hv]; exact hget)
  · intro h
    ext k
    by_cases hk : k ∈ names
    · obtain ⟨p, hp, rfl⟩ := mem_names_iff.mp hk
      simp only [get?_mergeRead hp, get?_readout state hps hp,
        get?_readout state mem_parameters_of_answered hp, if_pos (mem_answered_names hp)]
      by_cases hans : state.answer p = none
      · simp [hans]
      · rcases h p hp hans with hin | hcached
        · rw [if_pos hin]
        · rw [hcached]
          split <;> simp
    · rw [mergeRead, mergeRead, OrdMap.get?_extend, OrdMap.get?_extend,
        get?_readout_of_not_mem state hps hk,
        get?_readout_of_not_mem state mem_parameters_of_answered hk]

/-- **When another reply does as well.** -/
theorem Query.outcome_eq_iff (q source : Query) :
    q.outcome cfg state device source = q.outcome cfg state device q ↔
      q.ServedBy state device.parameters [] source := by
  by_cases hmethod : source.method = q.method
  · cases q with
    | get params =>
      rw [Query.outcome, Query.outcome, Query.read, Query.read, getReply_body device hmethod,
        getReply_body device rfl]
      simp only [Prod.mk.injEq, Outcome.params.injEq, Except.ok.injEq, and_true]
      rw [readout_eq_iff source.mem_parameters_of_asked (Query.mem_parameters_of_asked _)]
      simp [Query.ServedBy, hmethod]
    | getAll =>
      rw [Query.outcome, Query.outcome, Query.read, Query.read, getReply_body device hmethod,
        getReply_body device rfl]
      simp only [Prod.mk.injEq, Device.mk.injEq, true_and]
      rw [Query.asked, mergeRead_readout_eq_iff source.mem_parameters_of_asked]
      simp only [Query.ServedBy, hmethod, true_and, List.not_mem_nil, false_or]
      refine forall_congr' fun p => forall_congr' fun hp => ?_
      simp [Query.asked, mem_answered_names hp]
    | reset | getIp | getUuid =>
      rw [Query.eq_of_method hmethod (by decide)]
      simp [Query.ServedBy]
  · have hne : q.outcome cfg state device source ≠ q.outcome cfg state device q := by
      intro h
      have hfailure : (q.outcome cfg state device source).1
          = q.failure (.unexpectedMethod device.mac.format source.method) :=
        Query.outcome_of_ne hmethod
      rw [h] at hfailure
      exact q.outcome_self_ne _ _ hfailure
    exact iff_of_false hne fun h => hmethod h.1

/-- The query before leaves its mark in the cache. -/
theorem Query.servedBy_cons (cfg : DeviceConfig) (first q source : Query) (before : List Query) :
    q.ServedBy state device.parameters (first :: before) source ↔
      q.ServedBy state (first.outcome cfg state device first).2.parameters before source := by
  cases first with
  | getAll =>
    have hcached : ∀ p ∈ parameters, state.answer p ≠ none →
        (Query.getAll.outcome cfg state device .getAll).2.parameters.get? p.name
          = state.answer p := by
      intro p hp hans
      rw [Query.outcome, Query.read, getReply_body device rfl]
      simp only [get?_mergeRead hp, Query.asked, get?_readout state mem_parameters_of_answered hp,
        if_pos (mem_answered_names hp)]
      obtain ⟨v, hv⟩ := Option.ne_none_iff_exists'.mp hans
      rw [hv, Option.some_or]
    refine and_congr_right fun _ => forall_congr' fun p => forall_congr' fun hp =>
      forall_congr' fun hans => ?_
    simp [hcached p hp hans]
  | get _ | reset | getIp | getUuid =>
    simp [Query.ServedBy, Query.outcome, Query.read]

/-! ## Transparency -/

/-- A run has the same results from replies of its own and from replies that serve as well. -/
theorem outcomes_eq_iff : ∀ (pairs : List (Query × Query)) (device : Device),
    outcomes cfg state device pairs
        = outcomes cfg state device (pairs.map fun pair => (pair.1, pair.1)) ↔
      ∀ (k : Nat) (q source : Query), pairs[k]? = some (q, source) →
        q.ServedBy state device.parameters ((pairs.take k).map Prod.fst) source
  | [], _ => by simp
  | (q, source) :: rest, device => by
    have ih := outcomes_eq_iff rest (q.outcome cfg state device q).2
    rw [List.map_cons, outcomes, outcomes, List.cons_eq_cons]
    constructor
    · rintro ⟨hfirst, hrest⟩ k q' source' hk
      rw [hfirst] at hrest
      cases k with
      | zero =>
        simp only [List.getElem?_cons_zero, Option.some.injEq, Prod.mk.injEq] at hk
        obtain ⟨rfl, rfl⟩ := hk
        exact (q.outcome_eq_iff source).mp hfirst
      | succ k =>
        rw [List.take_succ_cons, List.map_cons, Query.servedBy_cons cfg]
        exact ih.mp hrest k q' source' hk
    · intro h
      have hfirst : q.outcome cfg state device source = q.outcome cfg state device q :=
        (q.outcome_eq_iff source).mpr (h 0 q source rfl)
      refine ⟨hfirst, ?_⟩
      rw [hfirst]
      refine ih.mpr fun k q' source' hk => ?_
      rw [← Query.servedBy_cons cfg]
      exact h (k + 1) q' source' hk

/-- The run has the results it has without retries. -/
def RetransmissionTransparent (n : Network) (device : Device) (retries : Nat) (sequence : UInt16)
    (queries : List Query) : Prop :=
  results MockTransport.transport device ⟨⟨n, [], []⟩, retries, sequence⟩
      (queries.map Query.call)
    = results MockTransport.transport device ⟨⟨n, [], []⟩, 0, sequence⟩ (queries.map Query.call)

instance (n : Network) (device : Device) (retries : Nat) (sequence : UInt16)
    (queries : List Query) :
    Decidable (RetransmissionTransparent n device retries sequence queries) :=
  inferInstanceAs (Decidable (_ = _))

/--
**When retransmission is transparent**: on a device without faults the run with retries has the
results of the run without exactly if for each `k` the reply to the operation `k / (retries + 1)`
serves the operation `k`.
-/
theorem retransmissionTransparent_iff (hosts : n.Hosts i cfg state) (hreach : n.Reachable)
    (haddr : Addresses device cfg) (hfault : cfg.FaultFree) (retries : Nat) (sequence : UInt16)
    (queries : List Query) :
    RetransmissionTransparent n device retries sequence queries ↔
      ∀ (k : Nat) (q source : Query), queries[k]? = some q →
        queries[k / (retries + 1)]? = some source →
        q.ServedBy state device.parameters (queries.take k) source := by
  have hsettled := hosts.settled hreach
  let taken := Backlog.serve (retries + 1) [] queries
  have hlen : taken.length = queries.length := Backlog.length_serve (Nat.succ_pos _) [] queries
  have hfst : (queries.zip taken).map Prod.fst = queries :=
    List.map_fst_zip (Nat.le_of_eq hlen.symm)
  have hown : (queries.zip taken).map (fun pair => (pair.1, pair.1)) = queries.zip queries := calc
    _ = ((queries.zip taken).map Prod.fst).map fun q => (q, q) := by rw [List.map_map]; rfl
    _ = queries.map fun q => (q, q) := by rw [hfst]
    _ = queries.zip queries := by rw [List.zip_eq_zipWith, List.zipWith_self]
  rw [RetransmissionTransparent,
    results_eq hosts hsettled hfault retries queries device [] [] sequence haddr .nil,
    results_eq hosts hsettled hfault 0 queries device [] [] sequence haddr .nil,
    Backlog.serve_one, ← hown, outcomes_eq_iff]
  refine forall_congr' fun k => forall_congr' fun q => forall_congr' fun source => ?_
  rw [List.getElem?_zip_eq_some, List.map_take, hfst, and_imp]
  refine forall_congr' fun hq => ?_
  have hk := (List.getElem?_eq_some_iff.mp hq).1
  rw [Backlog.getElem?_serve (Nat.succ_pos _) queries hk]

end Fifo

/-! ## Runs on a factory device -/

theorem retransmissionTransparent_iff_factory :
    RetransmissionTransparent factoryNetwork freshDevice 1 0 [.getIp, .getIp] ↔
      ∀ (k : Nat) (q source : Query), [Query.getIp, .getIp][k]? = some q →
        [Query.getIp, .getIp][k / (1 + 1)]? = some source →
        q.ServedBy (DeviceState.factoryWith OrdMap.empty) freshDevice.parameters
          ([Query.getIp, .getIp].take k) source :=
  retransmissionTransparent_iff factoryNetwork_hosts (Network.Reachable.new _)
    freshDevice_addresses (DeviceConfig.faultFree_defaultWithMac _) 1 0 [.getIp, .getIp]

/-- With one retry the second read gets the first one's parameters. -/
theorem not_retransmissionTransparent_reads : ¬ RetransmissionTransparent factoryNetwork freshDevice
    1 0 [.get ["hostname"], .get ["lan_ip_mode"]] := by
  decide +kernel

end Mocksbr
