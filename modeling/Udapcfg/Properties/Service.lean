import Udapcfg.Infra.Machine
import Udapcfg.Properties.DiscoverNetwork
import Udapcfg.Properties.Exchange
import Udapcfg.Udap.Ops.Call

/-!
# What a device is to its user

Seen through a client, a device with any faults configured is a cache and two memories, and every
operation is one step on them. Any number of devices on one session are as many such machines, each
on its own.

* `Service.step` — an operation, without the wire
* `call_step` — the client and the network come to it
* `runs_served` — so do their runs, with the calls to different devices in any order
-/

namespace Mocksbr

open Infra Udap

namespace Service

/-! ## Faults -/

/-- How a device fails an operation: it says nothing, or it says why not. -/
inductive Fault where
  | silent
  | rejects (message : String)

/-- What a device makes of an operation before it looks at it. -/
def fault (cfg : DeviceConfig) (op : Op) : Option Fault :=
  if cfg.unreachable then some .silent
  else if cfg.failsOn op then some (.rejects (failureMessage cfg op))
  else if (op = .getIp && cfg.dropGetIp) || (op = .getUuid && cfg.dropGetUuid) then some .silent
  else none

/-- The body of a rejection. -/
def errorBody (message : String) : Bytes :=
  if message = "" then [] else Tlv.encode 0x03 (strBytes message)

/-- What arrives of a message: an entry holds 255 bytes, and an empty message has none. -/
def heard (message : String) : Option String :=
  if message = "" then none else some (fromUtf8Lossy (cut message))

/-- A rejection, as most operations report it. -/
def rejection (cfg : DeviceConfig) (message : String) : OpError :=
  match heard message with
  | some message => .device cfg.mac.format message
  | none => .deviceNoMessage cfg.mac.format

/-- A rejection, as `reset` reports it. -/
def resetRejection (cfg : DeviceConfig) (message : String) : OpError :=
  match heard message with
  | some message => .resetRejected cfg.mac.format message
  | none => .resetRejectedNoMessage cfg.mac.format

/-- A malformed reply to a read, as `get` reports it. -/
def malformation (cfg : DeviceConfig) : Option OpError :=
  match cfg.malformed with
  | .none => none
  | .oversizedCount => some (.decode cfg.mac.format (.truncatedHeader 0 2))
  | .lengthExceedsPayload => some (.decode cfg.mac.format (.itemExceedsPayload 0 0 1000 0))
  | .unknownMethod => some (.unexpectedMethod cfg.mac.format unrecognisedMethod)

/-! ## Operations -/

/-- What the handle remembers, and what the device does. -/
structure Held where
  cache : Params
  memory : DeviceState

/-- A read. The message of a rejection is not looked at. -/
def read (cfg : DeviceConfig) (params : List String) (memory : DeviceState) :
    Except OpError Params :=
  match fault cfg .get with
  | some .silent => .error (.recv .cancelled)
  | some (.rejects _) => .error (.deviceNoMessage cfg.mac.format)
  | none =>
    match malformation cfg with
    | some e => .error e
    | none => .ok (memory.readout (answered params))

/-- What a write is laid over. -/
def base (cfg : DeviceConfig) (h : Held) : Except OpError Params :=
  if h.cache.isEmpty then read cfg names h.memory else .ok h.cache

/-- A write. What it read before it failed stays in the cache. -/
def write (cfg : DeviceConfig) (config : Params) (h : Held) : Except OpError Unit × Held :=
  match base cfg h with
  | .error e => (.error e, h)
  | .ok cache =>
    match setDataPayload (cache.extend config) with
    | .error e => (.error (.encode e), ⟨cache, h.memory⟩)
    | .ok body =>
      match fault cfg .set with
      | some .silent => (.error (.recv .cancelled), ⟨cache, h.memory⟩)
      | some (.rejects message) => (.error (rejection cfg message), ⟨cache, h.memory⟩)
      | none => (.ok (), ⟨cache.extend config, h.memory.write body⟩)

/-- An operation that returns what the device is configured with. -/
def ask {α : Type} (cfg : DeviceConfig) (op : Op) (answer : α) : Except OpError α :=
  match fault cfg op with
  | some .silent => .error (.recv .cancelled)
  | some (.rejects message) => .error (rejection cfg message)
  | none => .ok answer

/-- An operation. A reset that is not answered counts as done. -/
def step (cfg : DeviceConfig) : Call → Held → Outcome × Held
  | .get params, h => (.params (read cfg params h.memory), h)
  | .getAll, h =>
    match read cfg names h.memory with
    | .error e => (.done (.error e), h)
    | .ok m => (.done (.ok ()), ⟨mergeRead h.cache m, h.memory⟩)
  | .set config, h =>
    let r := write cfg config h
    (.done r.1, r.2)
  | .reset, h =>
    match fault cfg .reset with
    | some .silent => (.done (.ok ()), h)
    | some (.rejects message) => (.done (.error (resetRejection cfg message)), h)
    | none => (.done (.ok ()), ⟨h.cache, h.memory.applyReset⟩)
  | .getIp, h =>
    (.netConfig (ask cfg .getIp ⟨some cfg.ip, some cfg.subnetMask, some cfg.gateway⟩), h)
  | .getUuid, h => (.uuid (ask cfg .getUuid (Hex.encode cfg.uuid.toList)), h)

end Service

open Service

variable {n : Network} {i : Nat} {cfg : DeviceConfig} {state : DeviceState} {device : Device}

/-! ## Answers -/

theorem fromMethod_getIp {ucpMethod : UInt16} (h : Op.fromMethod ucpMethod = some .getIp) :
    ucpMethod = Method.getIp := by
  unfold Op.fromMethod at h
  split_ifs at h <;> first | assumption | cases h

theorem fromMethod_getUuid {ucpMethod : UInt16} (h : Op.fromMethod ucpMethod = some .getUuid) :
    ucpMethod = Method.getUuid := by
  unfold Op.fromMethod at h
  split_ifs at h <;> first | assumption | cases h

section Answers

variable (request : Packet) {op : Op}

/-- A request that is dropped is not dispatched. -/
theorem dispatch_of_drops (hop : Op.fromMethod request.ucpMethod = some op)
    (hdrop : (op = .getIp ∧ cfg.dropGetIp = true) ∨ (op = .getUuid ∧ cfg.dropGetUuid = true))
    (payload : Bytes) (state : DeviceState) :
    dispatch request payload cfg state = (none, state) := by
  rcases hdrop with ⟨rfl, hdrop⟩ | ⟨rfl, hdrop⟩
  · rw [dispatch, fromMethod_getIp hop, hdrop]
    rfl
  · rw [dispatch, fromMethod_getUuid hop, hdrop]
    rfl

/-- An operation the device does not fail is dispatched, and not dropped. -/
theorem reply_of_no_fault (hop : Op.fromMethod request.ucpMethod = some op)
    (h : fault cfg op = none) (payload : Bytes) (state : DeviceState) :
    reply request payload cfg state =
      ((dispatch request payload cfg state).1.map fun bytes => ⟨bytes, cfg.mac.format, cfg.slow⟩,
        (dispatch request payload cfg state).2) ∧
    (op = .getIp → cfg.dropGetIp = false) ∧ (op = .getUuid → cfg.dropGetUuid = false) := by
  unfold fault at h
  split at h
  · cases h
  · next hreach =>
    split at h
    · cases h
    · next hfails =>
      split at h
      · cases h
      · next hdrop =>
        refine ⟨reply_of_passes (by simpa using hreach) ?_ payload state, ?_, ?_⟩
        · intro op' hop'
          rw [hop] at hop'
          cases hop'
          simpa using hfails
        · rintro rfl
          simpa using hdrop
        · rintro rfl
          simpa using hdrop

/-- A silent device answers nothing, and does nothing. -/
theorem reply_of_silent (hop : Op.fromMethod request.ucpMethod = some op)
    (h : fault cfg op = some .silent) (payload : Bytes) (state : DeviceState) :
    reply request payload cfg state = (none, state) := by
  unfold fault at h
  split at h
  · next hreach => rw [reply, if_pos hreach]
  · next hreach =>
    split at h
    · cases h
    · next hfails =>
      split at h
      · next hdrop =>
        -- dropped in the dispatch
        have hpass : ∀ op', Op.fromMethod request.ucpMethod = some op' → cfg.failsOn op' = false := by
          intro op' hop'
          rw [hop] at hop'
          cases hop'
          simpa using hfails
        simp only [Bool.or_eq_true, Bool.and_eq_true, decide_eq_true_eq] at hdrop
        rw [reply_of_passes (by simpa using hreach) hpass, dispatch_of_drops request hop hdrop]
        rfl
      · cases h

theorem reply_of_rejects {message : String} (hop : Op.fromMethod request.ucpMethod = some op)
    (h : fault cfg op = some (.rejects message)) (payload : Bytes) (state : DeviceState) :
    reply request payload cfg state
      = (some ⟨errorResponse request cfg message, cfg.mac.format, cfg.slow⟩, state) := by
  unfold fault at h
  split at h
  · cases h
  · next hreach =>
    split at h
    · next hfails =>
      cases h
      rw [reply, if_neg hreach, respond, hop, Option.filter_some, if_pos hfails]
    · split at h <;> cases h

end Answers

/-! ## Requests -/

section Requests

variable (hosts : n.Hosts i cfg state) (haddr : Addresses device cfg) {ucpMethod : UInt16}
  (hmethod : ucpMethod ≠ Method.advDisc) (sequence : UInt16) {body : Bytes}

include hosts haddr hmethod

/-- A request that is not answered is cancelled. -/
theorem request_unanswered
    (hreply : reply (requestOf device ucpMethod sequence) body cfg state = (none, state)) :
    Session.request MockTransport.transport device ucpMethod (.ok body) (idle n sequence)
      = (.error (.recv .cancelled), idle n (sequence + 1)) := by
  rw [idle, request_directed hosts haddr.mac hmethod, hreply, hosts.setState_self,
    Session.waitForReply_eq]
  rfl

/-- A request is answered by its own reply, under whatever method. -/
theorem request_answered {method : UInt16} {x : Bytes} {delay : Nat} {state' : DeviceState}
    (hreply : reply (requestOf device ucpMethod sequence) body cfg state
      = (some ⟨(buildHeader (requestOf device ucpMethod sequence) cfg method).toBytes ++ x,
          cfg.mac.format, delay⟩, state')) :
    Session.request MockTransport.transport device ucpMethod (.ok body) (idle n sequence)
      = (.ok (buildHeader (requestOf device ucpMethod sequence) cfg method, x),
        idle (n.setState i state') (sequence + 1)) := by
  rw [idle, request_directed hosts haddr.mac hmethod, hreply]
  exact waitForReply_head (accept_reply haddr _ _ _)

/-- An operation that the device fails: what the request comes to. -/
theorem request_silent {op : Op} (hop : Op.fromMethod ucpMethod = some op)
    (h : fault cfg op = some .silent) :
    Session.request MockTransport.transport device ucpMethod (.ok body) (idle n sequence)
      = (.error (.recv .cancelled), idle n (sequence + 1)) :=
  request_unanswered hosts haddr hmethod sequence (reply_of_silent _ hop h body state)

theorem request_rejects {op : Op} {message : String} (hop : Op.fromMethod ucpMethod = some op)
    (h : fault cfg op = some (.rejects message)) :
    Session.request MockTransport.transport device ucpMethod (.ok body) (idle n sequence)
      = (.ok (buildHeader (requestOf device ucpMethod sequence) cfg Method.error,
          errorBody message),
        idle n (sequence + 1)) := by
  have hreply := reply_of_rejects (requestOf device ucpMethod sequence) hop h body state
  rw [request_answered hosts haddr hmethod sequence hreply, hosts.setState_self]
  rfl

end Requests

/-! ## Replies -/

/-- One entry. -/
theorem decode_encode {value : Bytes} (h : value.length ≤ 255) (tag : UInt8) :
    Tlv.decode (Tlv.encode tag value) = [⟨tag, value⟩] := by
  have hfits : ∀ e ∈ [(⟨tag, value⟩ : Tlv)], e.value.length ≤ 255 := by simp [h]
  have hdecode := Tlv.decode_encodeAll_append hfits []
  rwa [List.append_nil, Tlv.encodeAll, List.flatMap_singleton] at hdecode

theorem errorMessage_errorBody (message : String) :
    (errorMessage (errorBody message)).map fromUtf8Lossy = heard message := by
  unfold errorBody heard
  by_cases hempty : message = ""
  · rw [if_pos hempty, if_pos hempty]
    rfl
  · rw [if_neg hempty, if_neg hempty, errorMessage, Tlv.encode_eq_take, ← cut,
      decode_encode (length_cut_le message)]
    rfl

/-- What the operations make of a rejection. -/
theorem replyError_errorBody (hmac : device.mac = cfg.mac) (request : Packet) (message : String) :
    replyError device (buildHeader request cfg Method.error) (errorBody message)
      = rejection cfg message := by
  have hmethod : (buildHeader request cfg Method.error).ucpMethod = Method.error := rfl
  rw [rejection, ← errorMessage_errorBody]
  simp only [replyError, hmethod, if_true, hmac]
  cases errorMessage (errorBody message) <;> rfl

theorem resetReply_errorBody (hmac : device.mac = cfg.mac) (request : Packet) (message : String) :
    resetReply device (buildHeader request cfg Method.error) (errorBody message)
      = .error (resetRejection cfg message) := by
  have hmethod : (buildHeader request cfg Method.error).ucpMethod = Method.error := rfl
  have hother : Method.error ≠ Method.reset := by decide
  rw [resetRejection, ← errorMessage_errorBody]
  simp only [resetReply, hmethod, hother, if_true, if_false, hmac]
  cases errorMessage (errorBody message) <;> rfl

/-- What `get` makes of the reply of a device that answers. -/
theorem getReply_answered (hmac : device.mac = cfg.mac) (request : Packet)
    (hmethod : request.ucpMethod = Method.getData) (params : List String) (state : DeviceState) :
    ∃ method x, getDataResponse request cfg state (getDataPayload params)
        = (buildHeader request cfg method).toBytes ++ x ∧
      getReply device (buildHeader request cfg method) x
        = match malformation cfg with
          | some e => .error e
          | none => .ok (state.readout (answered params)) := by
  have hheader (method : UInt16) : (buildHeader request cfg method).ucpMethod = method := rfl
  -- how a reply with the method of the request is read
  have hget {x : Bytes} {m : Params} (hparse : GetData.parseResponse x = .ok m) :
      getReply device (buildHeader request cfg request.ucpMethod) x = .ok m := by
    simp only [getReply, hheader, hmethod, if_true, hparse]
  have herror {x : Bytes} {source : GetDataError} (hparse : GetData.parseResponse x = .error source) :
      getReply device (buildHeader request cfg request.ucpMethod) x
        = .error (.decode cfg.mac.format source) := by
    simp only [getReply, hheader, hmethod, if_true, hparse, hmac]
  cases hmalformed : cfg.malformed with
  | none =>
    refine ⟨request.ucpMethod, getDataBody state (getDataPayload params), ?_, ?_⟩
    · rw [getDataResponse, hmalformed]
      rfl
    · rw [getDataBody, hget (parseResponse_getDataItems state params), malformation, hmalformed]
  | oversizedCount =>
    refine ⟨request.ucpMethod, u16ToBe 0xFFFF, ?_, ?_⟩
    · rw [getDataResponse, hmalformed]
      rfl
    · rw [malformation, hmalformed]
      exact herror rfl
  | lengthExceedsPayload =>
    refine ⟨request.ucpMethod, u16ToBe 1 ++ (u16ToBe 0 ++ u16ToBe 1000), ?_, ?_⟩
    · rw [getDataResponse, hmalformed]
      rfl
    · rw [malformation, hmalformed]
      exact herror rfl
  | unknownMethod =>
    refine ⟨unrecognisedMethod, getDataBody state (getDataPayload params), ?_, ?_⟩
    · rw [getDataResponse, hmalformed]
      rfl
    · have hother : unrecognisedMethod ≠ Method.getData := by decide
      have hother' : unrecognisedMethod ≠ Method.error := by decide
      simp only [getReply, malformation, hmalformed, hheader, hother, hother', if_false, hmac]

/-! ## Operations -/

section Operations

variable (hosts : n.Hosts i cfg state) (haddr : Addresses device cfg)

include hosts haddr

theorem get_served (params : List String) (sequence : UInt16) :
    get MockTransport.transport device params (idle n sequence)
      = (Service.read cfg params state, idle n (sequence + 1)) := by
  have hmethod : Method.getData ≠ Method.advDisc := by decide
  have hop : Op.fromMethod Method.getData = some .get := rfl
  rw [get_eq haddr.isZero, Service.read]
  rcases hfault : fault cfg .get with _ | _ | message
  · obtain ⟨hreply, _⟩ := reply_of_no_fault (requestOf device Method.getData sequence) hop
      hfault (getDataPayload params) state
    obtain ⟨method, x, hresponse, hread⟩ := getReply_answered haddr.mac
      (requestOf device Method.getData sequence) rfl params state
    rw [dispatch_getData _ state rfl, hresponse] at hreply
    rw [request_answered hosts haddr hmethod sequence hreply, hosts.setState_self]
    simp only [onReply, hread]
  · rw [request_silent hosts haddr hmethod sequence hop hfault]
    rfl
  · rw [request_rejects hosts haddr hmethod sequence hop hfault]
    have hget : Method.error ≠ Method.getData := by decide
    have hheader : (buildHeader (requestOf device Method.getData sequence) cfg Method.error).ucpMethod
        = Method.error := rfl
    simp only [onReply, getReply, hheader, hget, if_false, if_true, haddr.mac]

theorem getAll_served (sequence : UInt16) :
    getAll MockTransport.transport device (idle n sequence)
      = match Service.read cfg names state with
        | .error e => (.error e, device, idle n (sequence + 1))
        | .ok m => (.ok (), { device with parameters := mergeRead device.parameters m },
          idle n (sequence + 1)) := by
  rw [getAll, get_served hosts haddr]
  cases Service.read cfg names state <;> rfl

theorem preludeRead_served (sequence : UInt16) : ∃ sequence',
    preludeRead MockTransport.transport device (idle n sequence)
      = match base cfg ⟨device.parameters, state⟩ with
        | .error e => (.error e, device, idle n sequence')
        | .ok cache => (.ok (), { device with parameters := cache }, idle n sequence') := by
  unfold preludeRead base
  split
  · next hempty =>
    rw [getAll_served hosts haddr, OrdMap.isEmpty_iff.mp hempty]
    refine ⟨sequence + 1, ?_⟩
    cases Service.read cfg names state with
    | error e => rfl
    | ok m => simp only [mergeRead_empty]
  · exact ⟨sequence, rfl⟩

/-- The write of a `set` whose body encodes. -/
theorem request_setData (sequence : UInt16) (body : Bytes) :
    match fault cfg .set with
    | some .silent =>
      Session.request MockTransport.transport device Method.setData (.ok body) (idle n sequence)
        = (.error (.recv .cancelled), idle n (sequence + 1))
    | some (.rejects message) => ∃ reply,
      Session.request MockTransport.transport device Method.setData (.ok body) (idle n sequence)
        = (.ok (reply, errorBody message), idle n (sequence + 1)) ∧
      isAck reply.ucpMethod = false ∧
      replyError device reply (errorBody message) = rejection cfg message
    | none => ∃ reply x,
      Session.request MockTransport.transport device Method.setData (.ok body) (idle n sequence)
        = (.ok (reply, x), idle (n.setState i (state.write body)) (sequence + 1)) ∧
      isAck reply.ucpMethod = true := by
  have hmethod : Method.setData ≠ Method.advDisc := by decide
  have hop : Op.fromMethod Method.setData = some .set := rfl
  rcases hfault : fault cfg .set with _ | _ | message
  · obtain ⟨hreply, _⟩ := reply_of_no_fault (requestOf device Method.setData sequence) hop
      hfault body state
    rw [dispatch_setData _ state rfl] at hreply
    exact ⟨_, _, request_answered hosts haddr hmethod sequence hreply, rfl⟩
  · exact request_silent hosts haddr hmethod sequence hop hfault
  · exact ⟨_, request_rejects hosts haddr hmethod sequence hop hfault, rfl,
      replyError_errorBody haddr.mac _ message⟩

theorem set_served (config : Params) (sequence : UInt16) : ∃ sequence',
    let r := Service.write cfg config ⟨device.parameters, state⟩
    Udap.set MockTransport.transport device config (idle n sequence)
      = (r.1, { device with parameters := r.2.cache }, idle (n.setState i r.2.memory) sequence') := by
  obtain ⟨sequence₁, hprelude⟩ := preludeRead_served hosts haddr sequence
  rw [Udap.set, if_neg (by simp [haddr.isZero]), hprelude, Service.write]
  cases hbase : base cfg ⟨device.parameters, state⟩ with
  | error e => exact ⟨sequence₁, by simp only [hosts.setState_self]⟩
  | ok cache =>
    simp only
    refine ⟨sequence₁ + 1, ?_⟩
    cases hbody : setDataPayload (cache.extend config) with
    | error e =>
      simp only [hosts.setState_self]
      rfl
    | ok body =>
      have hrequest := request_setData hosts (haddr.withParameters cache) sequence₁ body
      rcases hfault : fault cfg .set with _ | _ | message
      · rw [hfault] at hrequest
        obtain ⟨reply, x, hrequest, hack⟩ := hrequest
        simp only [hrequest, hack, if_true]
      · rw [hfault] at hrequest
        simp only at hrequest
        simp only [hrequest, hosts.setState_self]
      · rw [hfault] at hrequest
        obtain ⟨reply, hrequest, hack, herror⟩ := hrequest
        simp only [hrequest, hosts.setState_self, hack, Bool.false_eq_true, if_false, herror]

theorem reset_served (sequence : UInt16) :
    reset MockTransport.transport device (idle n sequence)
      = match fault cfg .reset with
        | some .silent => (.ok (), idle n (sequence + 1))
        | some (.rejects message) => (.error (resetRejection cfg message), idle n (sequence + 1))
        | none => (.ok (), idle (n.setState i state.applyReset) (sequence + 1)) := by
  have hmethod : Method.reset ≠ Method.advDisc := by decide
  have hop : Op.fromMethod Method.reset = some .reset := rfl
  rw [reset_eq haddr.isZero]
  rcases hfault : fault cfg .reset with _ | _ | message
  · obtain ⟨hreply, _⟩ := reply_of_no_fault (requestOf device Method.reset sequence) hop
      hfault [] state
    rw [dispatch_reset _ state rfl, resetResponse, ← List.append_nil (Packet.toBytes _)] at hreply
    rw [request_answered hosts haddr hmethod sequence hreply]
    rfl
  · rw [request_silent hosts haddr hmethod sequence hop hfault]
    rfl
  · rw [request_rejects hosts haddr hmethod sequence hop hfault]
    simp only [onResetReply, resetReply_errorBody haddr.mac]

/-- An operation that asks for something the device is configured with. -/
theorem ask_served {α : Type} {op : Op} {ucpMethod : UInt16}
    (hop : Op.fromMethod ucpMethod = some op) (hmethod : ucpMethod ≠ Method.advDisc)
    (sequence : UInt16) {answer : α} {x : Bytes} {read : Packet → Bytes → Except OpError α}
    (herror : ∀ reply, reply.ucpMethod = Method.error → ∀ payload,
      read reply payload = .error (replyError device reply payload))
    (hanswer : ∀ reply, reply.ucpMethod = ucpMethod → read reply x = .ok answer)
    (hreply : fault cfg op = none → ∃ delay,
      reply (requestOf device ucpMethod sequence) [] cfg state
        = (some ⟨(buildHeader (requestOf device ucpMethod sequence) cfg ucpMethod).toBytes ++ x,
            cfg.mac.format, delay⟩, state)) :
    let r := Session.request MockTransport.transport device ucpMethod (.ok []) (idle n sequence)
    (onReply read r.1, r.2) = (ask cfg op answer, idle n (sequence + 1)) := by
  unfold ask
  rcases hfault : fault cfg op with _ | _ | message
  · obtain ⟨delay, hreply⟩ := hreply hfault
    rw [request_answered hosts haddr hmethod sequence hreply, hosts.setState_self]
    simp only [onReply]
    rw [hanswer _ rfl]
  · rw [request_silent hosts haddr hmethod sequence hop hfault]
    rfl
  · rw [request_rejects hosts haddr hmethod sequence hop hfault]
    simp only [onReply]
    rw [herror _ rfl, replyError_errorBody haddr.mac]

theorem getIp_served (sequence : UInt16) :
    getIp MockTransport.transport device (idle n sequence)
      = (ask cfg .getIp ⟨some cfg.ip, some cfg.subnetMask, some cfg.gateway⟩,
        idle n (sequence + 1)) := by
  rw [getIp_eq haddr.isZero]
  refine ask_served hosts haddr rfl (by decide) sequence (x := Tlv.encode 0x05 cfg.ip.octets ++
    (Tlv.encode 0x06 cfg.subnetMask.octets ++ Tlv.encode 0x07 cfg.gateway.octets)) ?_ ?_ ?_
  · intro reply herror payload
    rw [getIpReply, if_neg]
    rw [herror]
    decide
  · intro reply hmethod
    rw [getIpReply, if_pos hmethod]
    rfl
  · intro hfault
    obtain ⟨hreply, hdrop, _⟩ := reply_of_no_fault (requestOf device Method.getIp sequence)
      (show Op.fromMethod Method.getIp = some .getIp from rfl) hfault [] state
    rw [dispatch_getIp _ state rfl (hdrop rfl)] at hreply
    exact ⟨_, hreply⟩

theorem getUuid_served (sequence : UInt16) :
    getUuid MockTransport.transport device (idle n sequence)
      = (ask cfg .getUuid (Hex.encode cfg.uuid.toList), idle n (sequence + 1)) := by
  rw [getUuid_eq haddr.isZero]
  refine ask_served hosts haddr rfl (by decide) sequence
    (x := Tlv.encode 0x0d cfg.uuid.toList) ?_ ?_ ?_
  · intro reply herror payload
    rw [getUuidReply, if_neg]
    rw [herror]
    decide
  · intro reply hmethod
    have hlength : cfg.uuid.toList.length = GetUuid.uuidLen := cfg.uuid.2
    have hentry : Tlv.decode (Tlv.encode 0x0d cfg.uuid.toList) = [⟨GetUuid.tlvUuid, cfg.uuid.toList⟩] :=
      decode_encode (by rw [hlength]; decide) 0x0d
    rw [getUuidReply, if_pos hmethod, GetUuid.parseResponse, hentry,
      List.find?_cons_of_pos (by simp [hlength])]
  · intro hfault
    obtain ⟨hreply, _, hdrop⟩ := reply_of_no_fault (requestOf device Method.getUuid sequence)
      (show Op.fromMethod Method.getUuid = some .getUuid from rfl) hfault [] state
    rw [dispatch_getUuid _ state rfl (hdrop rfl)] at hreply
    exact ⟨_, hreply⟩

/-- **One operation** is one step of the service. -/
theorem call_step (call : Call) (sequence : UInt16) : ∃ sequence',
    let r := Service.step cfg call ⟨device.parameters, state⟩
    call.run MockTransport.transport device (idle n sequence)
      = (r.1, { device with parameters := r.2.cache },
        idle (n.setState i r.2.memory) sequence') := by
  cases call with
  | get params =>
    refine ⟨sequence + 1, ?_⟩
    simp only [Call.run, Service.step, get_served hosts haddr, hosts.setState_self]
  | getAll =>
    refine ⟨sequence + 1, ?_⟩
    simp only [Call.run, Service.step, getAll_served hosts haddr]
    cases Service.read cfg names state <;> simp only [hosts.setState_self]
  | set config =>
    obtain ⟨sequence', hset⟩ := set_served hosts haddr config sequence
    exact ⟨sequence', by simp only [Call.run, Service.step, hset]⟩
  | reset =>
    refine ⟨sequence + 1, ?_⟩
    simp only [Call.run, Service.step, reset_served hosts haddr]
    rcases fault cfg .reset with _ | _ | message <;> simp only [hosts.setState_self]
  | getIp =>
    refine ⟨sequence + 1, ?_⟩
    simp only [Call.run, Service.step, getIp_served hosts haddr, hosts.setState_self]
  | getUuid =>
    refine ⟨sequence + 1, ?_⟩
    simp only [Call.run, Service.step, getUuid_served hosts haddr, hosts.setState_self]

end Operations

/-! ## Runs -/

section Runs

variable {ι : Type} [DecidableEq ι]

/-- A call on one of several handles, all over one session. -/
def callOn {σ : Type} (T : Transport σ) (call : ι × Call) (s : (ι → Device) × Session σ) :
    (ι × Outcome) × (ι → Device) × Session σ :=
  let r := call.2.run T (s.1 call.1) s.2
  ((call.1, r.1), Function.update s.1 call.1 r.2.1, r.2.2)

/-- Where a run on handles to different devices has come to: each handle has the cache of its
service, each device the memory, and the devices without a handle are as they were. -/
structure Serves (handles : ι → Device) (n : Network) (place : ι → Nat) (cfgs : ι → DeviceConfig)
    (s : (ι → Device) × Session MockTransport) (held : ι → Held) : Prop where
  handle : ∀ i, s.1 i = { handles i with parameters := (held i).cache }
  session : ∃ sequence, s.2 = idle s.2.transport.network sequence
  hosts : ∀ i, s.2.transport.network.Hosts (place i) (cfgs i) (held i).memory
  others : ∀ j, (∀ i, place i ≠ j) → s.2.transport.network.state[j]? = n.state[j]?

variable {handles : ι → Device} {n : Network} {place : ι → Nat} {cfgs : ι → DeviceConfig}

theorem callOn_simulates (hplace : Function.Injective place)
    (haddr : ∀ i, Addresses (handles i) (cfgs i)) :
    Infra.Simulates (callOn MockTransport.transport) (stepAt fun i => Service.step (cfgs i))
      (Serves handles n place cfgs) := by
  rintro ⟨i, call⟩ ⟨handles', s⟩ held ⟨hhandle, ⟨sequence, hsession⟩, hhosts, hothers⟩
  have hdevice : handles' i = { handles i with parameters := (held i).cache } := hhandle i
  have haddr' := (haddr i).withParameters (held i).cache
  obtain ⟨sequence', hstep⟩ := call_step (hhosts i) haddr' call sequence
  simp only at hsession
  simp only [callOn, stepAt]
  rw [hdevice, hsession, hstep]
  refine ⟨rfl, ?_, ⟨sequence', rfl⟩, ?_, ?_⟩
  · intro j
    by_cases hj : j = i
    · subst hj
      simp only [Function.update_self]
    · simp only [Function.update_of_ne hj]
      exact hhandle j
  · intro j
    by_cases hj : j = i
    · subst hj
      simp only [Function.update_self]
      exact (hhosts j).setState _
    · simp only [Function.update_of_ne hj]
      exact (hhosts j).setState_of_ne (fun h => hj (hplace h).symm) _
  · intro j hj
    rw [← hothers j hj]
    exact List.getElem?_set_ne (hj i)

/-- Two devices, of which one rejects writes. -/
def pair (rejects : Bool) : DeviceConfig :=
  if rejects then { DeviceConfig.defaultWithMac (Mac.auto 1) with failOn := [.set] }
  else DeviceConfig.defaultWithMac (Mac.auto 2)

def pairPlace (rejects : Bool) : Nat := if rejects then 0 else 1

theorem pairPlace_injective : Function.Injective pairPlace := by
  intro b b' h
  cases b <;> cases b' <;> first | rfl | cases h

theorem pair_addresses (rejects : Bool) :
    Addresses (Device.withMac (pair rejects).mac) (pair rejects) := by
  cases rejects
  · exact ⟨rfl, .inl rfl, by decide⟩
  · exact ⟨rfl, .inl rfl, by decide⟩

theorem pair_hosts (rejects : Bool) : (Network.new [pair true, pair false]).Hosts (pairPlace rejects)
    (pair rejects) (DeviceState.factoryWith OrdMap.empty) := by
  cases rejects
  · exact ⟨rfl, rfl, by decide⟩
  · exact ⟨rfl, rfl, by decide⟩

/-- **Devices with any faults are independent services**: whatever the order of the calls, each
handle gets the outcomes its own calls have on its own device, and the device ends up
accordingly. -/
theorem runs_served (hplace : Function.Injective place)
    (haddr : ∀ i, Addresses (handles i) (cfgs i)) {states : ι → DeviceState}
    (hhosts : ∀ i, n.Hosts (place i) (cfgs i) (states i)) (sequence : UInt16)
    (calls : List (ι × Call)) :
    let r := run (callOn MockTransport.transport) (handles, idle n sequence) calls
    let alone i := run (Service.step (cfgs i)) ⟨(handles i).parameters, states i⟩ (only i calls)
    (∀ i, only i r.1 = (alone i).1 ∧
      r.2.1 i = { handles i with parameters := (alone i).2.cache } ∧
      r.2.2.transport.network.state[place i]? = some (alone i).2.memory) ∧
    ∀ j, (∀ i, place i ≠ j) → r.2.2.transport.network.state[j]? = n.state[j]? := by
  intro r alone
  have hstart : Serves handles n place cfgs (handles, idle n sequence)
      fun i => ⟨(handles i).parameters, states i⟩ :=
    ⟨fun _ => rfl, ⟨sequence, rfl⟩, hhosts, fun _ _ => rfl⟩
  obtain ⟨houtcomes, hend⟩ := (callOn_simulates hplace haddr).run calls hstart
  refine ⟨?_, hend.others⟩
  intro i
  obtain ⟨honly, hheld⟩ := runAll_only (fun i => Service.step (cfgs i)) i calls
    fun i => ⟨(handles i).parameters, states i⟩
  have hhandle := hend.handle i
  have hstate := (hend.hosts i).state
  rw [show (run (stepAt fun i => Service.step (cfgs i)) _ calls).2 i = (alone i).2 from hheld]
    at hhandle hstate
  refine ⟨?_, hhandle, hstate⟩
  rw [show r.1 = _ from houtcomes]
  exact honly

/-- Calls to two devices, and what the one that rejects writes makes of its own. -/
theorem runs_served_pair :
    let s := (fun rejects => Device.withMac (pair rejects).mac,
      idle (Network.new [pair true, pair false]) 0)
    only true (run (callOn MockTransport.transport) s
        [(true, .set OrdMap.empty), (false, .getUuid), (true, .reset)]).1
      = (run (Service.step (pair true)) ⟨OrdMap.empty, DeviceState.factoryWith OrdMap.empty⟩
        [.set OrdMap.empty, .reset]).1 :=
  ((runs_served pairPlace_injective pair_addresses pair_hosts 0
    [(true, .set OrdMap.empty), (false, .getUuid), (true, .reset)]).1 true).1

end Runs

/-! ## Memories -/

/-- The map that a call has written: the cache after a `set` that succeeded. -/
def written : Call → Outcome → Params → Option Params
  | .set _, .done (.ok ()), cache => some cache
  | _, _, _ => none

/-- A device after a write of a map. -/
def DeviceState.holding (memory : DeviceState) (m : Params) : DeviceState :=
  match setDataPayload m with
  | .ok body => memory.write body
  | .error _ => memory

theorem DeviceState.Settled.foldl_holding {memory : DeviceState} (h : memory.Settled)
    (maps : List Params) : (maps.foldl DeviceState.holding memory).Settled := by
  induction maps generalizing memory with
  | nil => exact h
  | cons m maps ih =>
    refine ih ?_
    unfold DeviceState.holding
    split
    · rfl
    · exact h

/-- A step that writes says so, and every other leaves the device alone. -/
theorem step_memory (cfg : DeviceConfig) (call : Call) {h : Held} (hsettled : h.memory.Settled) :
    let r := Service.step cfg call h
    (∀ m ∈ written call r.1 r.2.cache, Sendable m) ∧
      r.2.memory = (written call r.1 r.2.cache).toList.foldl DeviceState.holding h.memory := by
  cases call with
  | get params => exact ⟨by simp [written], rfl⟩
  | getIp => exact ⟨by simp [written], rfl⟩
  | getUuid => exact ⟨by simp [written], rfl⟩
  | getAll =>
    simp only [Service.step]
    cases Service.read cfg names h.memory <;> exact ⟨by simp [written], rfl⟩
  | reset =>
    simp only [Service.step]
    rcases fault cfg .reset with _ | _ | message
    · exact ⟨by simp [written], hsettled.applyReset⟩
    · exact ⟨by simp [written], rfl⟩
    · exact ⟨by simp [written], rfl⟩
  | set config =>
    simp only [Service.step, Service.write]
    cases base cfg h with
    | error e => exact ⟨by simp [written], rfl⟩
    | ok cache =>
      simp only
      cases hbody : setDataPayload (cache.extend config) with
      | error e => exact ⟨by simp [written], rfl⟩
      | ok body =>
        simp only
        rcases fault cfg .set with _ | _ | message
        · refine ⟨?_, ?_⟩
          · intro m hm
            cases hm
            exact ⟨body, hbody⟩
          · show h.memory.write body = h.memory.holding (cache.extend config)
            rw [DeviceState.holding, hbody]
        · exact ⟨by simp [written], rfl⟩
        · exact ⟨by simp [written], rfl⟩

section Memories

variable {ι : Type} [DecidableEq ι] {handles : ι → Device} {n : Network} {place : ι → Nat}
  {cfgs : ι → DeviceConfig}

/-- The maps that a run has written, each with its handle. -/
def acknowledged {σ : Type} (T : Transport σ) :
    (ι → Device) × Session σ → List (ι × Call) → List (ι × Params)
  | _, [] => []
  | s, (i, call) :: rest =>
    let r := callOn T (i, call) s
    (written call r.1.2 (r.2.1 i).parameters).toList.map (fun m => (i, m)) ++ acknowledged T r.2 rest

theorem Serves.memories (hplace : Function.Injective place)
    (haddr : ∀ i, Addresses (handles i) (cfgs i)) (calls : List (ι × Call))
    {s : (ι → Device) × Session MockTransport} {held : ι → Held}
    (h : Serves handles n place cfgs s held) (hsettled : ∀ i, (held i).memory.Settled) :
    (∀ w ∈ acknowledged MockTransport.transport s calls, Sendable w.2) ∧
    ∀ i, (run (callOn MockTransport.transport) s calls).2.2.transport.network.state[place i]?
      = some ((only i (acknowledged MockTransport.transport s calls)).foldl DeviceState.holding
        (held i).memory) := by
  induction calls generalizing s held with
  | nil =>
    refine ⟨?_, fun i => (h.hosts i).state⟩
    intro w hw
    cases hw
  | cons c rest ih =>
    obtain ⟨i, call⟩ := c
    obtain ⟨houtcome, hnext⟩ := callOn_simulates hplace haddr (i, call) s held h
    obtain ⟨hsend, hmemory⟩ := step_memory (cfgs i) call (hsettled i)
    -- what the run has written is what the step has written
    have hcache := congrArg Device.parameters (hnext.handle i)
    simp only [stepAt, Function.update_self] at hcache houtcome hnext
    have hanswer : (callOn MockTransport.transport (i, call) s).1.2
        = (Service.step (cfgs i) call (held i)).1 := congrArg Prod.snd houtcome
    rw [← hanswer, ← hcache] at hsend hmemory
    have hsettled' : ∀ j, (Function.update held i
        (Service.step (cfgs i) call (held i)).2 j).memory.Settled := by
      intro j
      by_cases hj : j = i
      · subst hj
        rw [Function.update_self, hmemory]
        exact (hsettled j).foldl_holding _
      · rw [Function.update_of_ne hj]
        exact hsettled j
    obtain ⟨hsends, hmemories⟩ := ih hnext hsettled'
    refine ⟨?_, ?_⟩
    · intro w hw
      rcases List.mem_append.mp hw with hw | hw
      · obtain ⟨m, hm, rfl⟩ := List.mem_map.mp hw
        exact hsend m (Option.mem_toList.mp hm)
      · exact hsends w hw
    · intro j
      rw [acknowledged, only_append, List.foldl_append]
      refine (hmemories j).trans ?_
      by_cases hj : j = i
      · subst hj
        rw [only_map_self, Function.update_self, hmemory]
      · rw [only_map_of_ne (Ne.symm hj), Function.update_of_ne hj]
        rfl

/-- **A device holds what was acknowledged**: after any run over devices with any faults, its memory
is the old one with the maps of the successful `set`s of its handle written over it, in order. -/
theorem runs_memory (hplace : Function.Injective place)
    (haddr : ∀ i, Addresses (handles i) (cfgs i)) (hreach : n.Reachable) {states : ι → DeviceState}
    (hhosts : ∀ i, n.Hosts (place i) (cfgs i) (states i)) (sequence : UInt16)
    (calls : List (ι × Call)) :
    let r := run (callOn MockTransport.transport) (handles, idle n sequence) calls
    let maps := acknowledged MockTransport.transport (handles, idle n sequence) calls
    (∀ w ∈ maps, Sendable w.2) ∧
    ∀ i, r.2.2.transport.network.state[place i]?
      = some ((only i maps).foldl DeviceState.holding (states i)) := by
  intro r maps
  have hstart : Serves handles n place cfgs (handles, idle n sequence)
      fun i => ⟨(handles i).parameters, states i⟩ :=
    ⟨fun _ => rfl, ⟨sequence, rfl⟩, hhosts, fun _ _ => rfl⟩
  exact hstart.memories hplace haddr calls fun i => (hhosts i).settled hreach

/-- The device that rejects writes is left as it was. -/
theorem runs_memory_pair :
    let s := (fun rejects => Device.withMac (pair rejects).mac,
      idle (Network.new [pair true, pair false]) 0)
    let calls := [(true, Call.set OrdMap.empty), (false, .set OrdMap.empty), (true, .reset)]
    ∀ w ∈ acknowledged MockTransport.transport s calls, Sendable w.2 :=
  (runs_memory pairPlace_injective pair_addresses (.new _) pair_hosts 0 _).1

end Memories

end Mocksbr
