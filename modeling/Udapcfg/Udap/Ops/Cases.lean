import Udapcfg.Udap.Ops.Config
import Udapcfg.Udap.Ops.GetIp
import Udapcfg.Udap.Ops.GetUuid

/-!
# What an operation can do

The operations that are one request, as a reading of its result, and one lemma for each way out of
`preludeRead` and `set`. No later proof unfolds an operation.
-/

namespace Udap

open Infra

variable {σ : Type} {T : Transport σ}

/-! ## One request -/

/-- Passes errors on and reads a reply. -/
def onReply {α : Type} (read : Packet → Bytes → Except OpError α) :
    Except OpError (Packet × Bytes) → Except OpError α
  | .error e => .error e
  | .ok (reply, payload) => read reply payload

/-- What `reset` makes of the result of its request. -/
def onResetReply (device : Device) : Except OpError (Packet × Bytes) → Except OpError Unit
  | .error (.recv .cancelled) => .ok ()
  | .error e => .error e
  | .ok (reply, payload) => resetReply device reply payload

theorem get_eq {device : Device} (hmac : device.mac.isZero = false) (params : List String)
    (s : Session σ) : get T device params s =
      (onReply (getReply device)
        (s.request T device Method.getData (.ok (getDataPayload params))).1,
      (s.request T device Method.getData (.ok (getDataPayload params))).2) := by
  rw [get, if_neg (by simp [hmac])]
  rcases s.request T device Method.getData (.ok (getDataPayload params)) with ⟨_ | _, s₁⟩ <;> rfl

theorem getIp_eq {device : Device} (hmac : device.mac.isZero = false) (s : Session σ) :
    getIp T device s = (onReply (getIpReply device) (s.request T device Method.getIp (.ok [])).1,
      (s.request T device Method.getIp (.ok [])).2) := by
  rw [getIp, if_neg (by simp [hmac])]
  rcases s.request T device Method.getIp (.ok []) with ⟨_ | _, s₁⟩ <;> rfl

theorem getUuid_eq {device : Device} (hmac : device.mac.isZero = false) (s : Session σ) :
    getUuid T device s =
      (onReply (getUuidReply device) (s.request T device Method.getUuid (.ok [])).1,
      (s.request T device Method.getUuid (.ok [])).2) := by
  rw [getUuid, if_neg (by simp [hmac])]
  rcases s.request T device Method.getUuid (.ok []) with ⟨_ | _, s₁⟩ <;> rfl

theorem reset_eq {device : Device} (hmac : device.mac.isZero = false) (s : Session σ) :
    reset T device s = (onResetReply device (s.request T device Method.reset (.ok [])).1,
      (s.request T device Method.reset (.ok [])).2) := by
  rw [reset, if_neg (by simp [hmac])]
  rcases s.request T device Method.reset (.ok []) with ⟨e | _, s₁⟩
  · match e with
    | .recv .cancelled | .recv (.io _) | .recv .interfaceBindUnsupported | .send _ | .encode _
    | .decode _ _ | .resetRejected _ _ | .resetRejectedNoMessage _ | .zeroMac _ | .device _ _
    | .deviceNoMessage _ | .credentialsRejected _ | .unexpectedMethod _ _ | .missingUuid => rfl
  · rfl

/-! ## Ways out -/

theorem mergeRead_empty (config : Params) : mergeRead OrdMap.empty config = config := by
  unfold mergeRead
  exact OrdMap.extend_empty_left config

/-- A read takes nothing from the names of the table. -/
theorem get?_mergeRead {p : Parameter} (hp : p ∈ parameters) (m config : Params) :
    (mergeRead m config).get? p.name = (config.get? p.name).or (m.get? p.name) := by
  rw [mergeRead, OrdMap.get?_extend, OrdMap.get?_retain,
    GetData.isSynthetic_name _ (mem_names_iff.mpr ⟨p, hp, rfl⟩)]
  simp

/-- A prelude that succeeds leaves a full handle alone and fills an empty one with the reply. -/
theorem preludeRead_ok {device device' : Device} {s s' : Session σ}
    (h : preludeRead T device s = (.ok (), device', s')) :
    (device.parameters ≠ OrdMap.empty ∧ device' = device ∧ s' = s) ∨
    (device.parameters = OrdMap.empty ∧ ∃ m, get T device names s = (.ok m, s') ∧
      device' = { device with parameters := m }) := by
  unfold preludeRead at h
  split at h
  · next he =>
    have hempty := OrdMap.isEmpty_iff.mp he
    unfold getAll at h
    rcases hget : get T device names s with ⟨_ | m, s₁⟩
    · rw [hget] at h; simp at h
    · rw [hget] at h
      simp only [Prod.mk.injEq, true_and] at h
      obtain ⟨rfl, rfl⟩ := h
      refine Or.inr ⟨hempty, m, rfl, ?_⟩
      rw [hempty, mergeRead_empty]
  · next he =>
    simp only [Prod.mk.injEq, true_and] at h
    exact Or.inl ⟨fun hempty => he (OrdMap.isEmpty_iff.mpr hempty), h.1.symm, h.2.symm⟩

/-- A prelude whose read succeeds. -/
theorem preludeRead_of_get {device : Device} {s s₁ : Session σ} {m : Params}
    (hcache : device.parameters = OrdMap.empty) (hget : get T device names s = (.ok m, s₁)) :
    preludeRead T device s = (.ok (), { device with parameters := m }, s₁) := by
  rw [preludeRead, if_pos (OrdMap.isEmpty_iff.mpr hcache), getAll, hget, hcache]
  simp only [mergeRead_empty]

/-- On an empty handle a reply that decodes is the cache afterwards. -/
theorem preludeRead_of_reply {device : Device} {s s₁ : Session σ} {reply : Packet}
    {payload : Bytes} {m : Params} (hmac : device.mac.isZero = false)
    (hfresh : device.parameters = OrdMap.empty)
    (hreq : s.request T device Method.getData (.ok (getDataPayload names))
      = (.ok (reply, payload), s₁))
    (hmethod : reply.ucpMethod = Method.getData) (hparse : GetData.parseResponse payload = .ok m) :
    preludeRead T device s = (.ok (), { device with parameters := m }, s₁) := by
  have hread : getReply device reply payload = .ok m := by
    rw [getReply, if_pos hmethod, hparse]
  refine preludeRead_of_get hfresh ?_
  rw [get_eq hmac, hreq]
  simp only [onReply, hread]

/-- The handle after a prelude that succeeded differs in the cache only. -/
theorem preludeRead_device {device device' : Device} {s s' : Session σ}
    (h : preludeRead T device s = (.ok (), device', s')) :
    device' = { device with parameters := device'.parameters } := by
  rcases preludeRead_ok h with ⟨_, rfl, _⟩ | ⟨_, m, _, rfl⟩
  · rfl
  · rfl

/-- A prelude fails only on an empty handle, which it leaves alone. -/
theorem preludeRead_error {device device' : Device} {s s' : Session σ} {e : OpError}
    (h : preludeRead T device s = (.error e, device', s')) :
    device.parameters = OrdMap.empty ∧ get T device names s = (.error e, s') ∧
      device' = device := by
  unfold preludeRead at h
  split at h
  · next he =>
    unfold getAll at h
    rcases hget : get T device names s with ⟨e₁ | m, s₁⟩
    · rw [hget] at h
      simp only [Prod.mk.injEq, Except.error.injEq] at h
      obtain ⟨rfl, rfl, rfl⟩ := h
      exact ⟨OrdMap.isEmpty_iff.mp he, rfl, rfl⟩
    · rw [hget] at h; simp at h
  · simp at h

/-- **When `set` succeeds**: the prelude did, and the merged map was sent and acknowledged. -/
theorem set_ok {device device' : Device} {config : Params} {s s' : Session σ}
    (h : set T device config s = (.ok (), device', s')) :
    device.mac.isZero = false ∧ ∃ device₁ s₁ reply payload,
      preludeRead T device s = (.ok (), device₁, s₁) ∧
      s₁.request T device₁ Method.setData (setDataPayload (device₁.parameters.extend config))
        = (.ok (reply, payload), s') ∧
      isAck reply.ucpMethod = true ∧
      device' = { device₁ with parameters := device₁.parameters.extend config } := by
  unfold set at h
  split at h
  · simp at h
  · next hmac =>
    rcases hp : preludeRead T device s with ⟨_ | _, device₁, s₁⟩
    · rw [hp] at h; simp at h
    · rw [hp] at h
      simp only at h
      rcases hr : s₁.request T device₁ Method.setData
        (setDataPayload (device₁.parameters.extend config)) with ⟨_ | ⟨reply, payload⟩, s₂⟩
      · rw [hr] at h; simp at h
      · rw [hr] at h
        simp only at h
        split at h
        · next hack =>
          simp only [Prod.mk.injEq, true_and] at h
          obtain ⟨rfl, rfl⟩ := h
          exact ⟨by simpa using hmac, device₁, s₁, reply, payload, rfl, hr, hack, rfl⟩
        · simp at h

/-- **When `set` fails**: before anything is sent, in the prelude, or after it. -/
theorem set_error {device device' : Device} {config : Params} {s s' : Session σ} {e : OpError}
    (h : set T device config s = (.error e, device', s')) :
    (device.mac.isZero = true ∧ e = .zeroMac "SetData" ∧ device' = device ∧ s' = s) ∨
    (device.mac.isZero = false ∧ preludeRead T device s = (.error e, device', s')) ∨
    (device.mac.isZero = false ∧ ∃ s₁, preludeRead T device s = (.ok (), device', s₁) ∧
      ((s₁.request T device' Method.setData (setDataPayload (device'.parameters.extend config))
        = (.error e, s')) ∨
      ∃ reply payload,
        s₁.request T device' Method.setData (setDataPayload (device'.parameters.extend config))
          = (.ok (reply, payload), s') ∧
        isAck reply.ucpMethod = false ∧ e = replyError device' reply payload)) := by
  unfold set at h
  split at h
  · next hmac =>
    simp only [Prod.mk.injEq, Except.error.injEq] at h
    obtain ⟨rfl, rfl, rfl⟩ := h
    exact Or.inl ⟨hmac, rfl, rfl, rfl⟩
  · next hmac =>
    have hmac' : device.mac.isZero = false := by simpa using hmac
    rcases hp : preludeRead T device s with ⟨e₁ | _, device₁, s₁⟩
    · rw [hp] at h
      simp only [Prod.mk.injEq, Except.error.injEq] at h
      obtain ⟨rfl, rfl, rfl⟩ := h
      exact Or.inr (Or.inl ⟨hmac', rfl⟩)
    · rw [hp] at h
      simp only at h
      refine Or.inr (Or.inr ⟨hmac', ?_⟩)
      rcases hr : s₁.request T device₁ Method.setData
        (setDataPayload (device₁.parameters.extend config)) with ⟨e₂ | ⟨reply, payload⟩, s₂⟩
      · rw [hr] at h
        simp only [Prod.mk.injEq, Except.error.injEq] at h
        obtain ⟨rfl, rfl, rfl⟩ := h
        exact ⟨s₁, rfl, Or.inl hr⟩
      · rw [hr] at h
        simp only at h
        split at h
        · simp at h
        · next hack =>
          simp only [Prod.mk.injEq, Except.error.injEq] at h
          obtain ⟨rfl, rfl, rfl⟩ := h
          exact ⟨s₁, rfl, Or.inr ⟨reply, payload, hr, by simpa using hack, rfl⟩⟩

/-- A `get` that succeeds decoded a reply to its request. -/
theorem get_ok {device : Device} {params : List String} {s s' : Session σ} {m : Params}
    (h : get T device params s = (.ok m, s')) :
    device.mac.isZero = false ∧ ∃ reply payload,
      s.request T device Method.getData (.ok (getDataPayload params))
        = (.ok (reply, payload), s') ∧
      reply.ucpMethod = Method.getData ∧ GetData.parseResponse payload = .ok m := by
  unfold get at h
  split at h
  · simp at h
  · next hmac =>
    rcases hr : s.request T device Method.getData (.ok (getDataPayload params)) with
      ⟨_ | ⟨reply, payload⟩, s₁⟩
    · rw [hr] at h; simp at h
    · rw [hr] at h
      simp only [Prod.mk.injEq] at h
      obtain ⟨hreply, rfl⟩ := h
      refine ⟨by simpa using hmac, reply, payload, rfl, ?_⟩
      unfold getReply at hreply
      split at hreply
      · next hmethod =>
        refine ⟨hmethod, ?_⟩
        split at hreply
        · next hparse => cases hreply; exact hparse
        · simp at hreply
      · split at hreply <;> simp at hreply

/-- No operation changes anything of the handle but the cache. -/
theorem getAll_device (device : Device) (s : Session σ) :
    ∃ m, (getAll T device s).2.1 = { device with parameters := m } := by
  unfold getAll
  rcases get T device names s with ⟨_ | m, s₁⟩
  · exact ⟨device.parameters, rfl⟩
  · exact ⟨_, rfl⟩

theorem set_device (device : Device) (config : Params) (s : Session σ) :
    ∃ m, (set T device config s).2.1 = { device with parameters := m } := by
  rcases hset : set T device config s with ⟨e | _, device', s'⟩
  · rcases set_error hset with ⟨_, _, rfl, _⟩ | ⟨_, hprelude⟩ | ⟨_, s₁, hprelude, _⟩
    · exact ⟨device'.parameters, rfl⟩
    · obtain ⟨_, _, rfl⟩ := preludeRead_error hprelude
      exact ⟨device'.parameters, rfl⟩
    · exact ⟨_, preludeRead_device hprelude⟩
  · obtain ⟨_, device₁, s₁, reply, payload, hprelude, _, _, rfl⟩ := set_ok hset
    exact ⟨_, by rw [preludeRead_device hprelude]⟩

/-! ## Writes -/

section Writes

variable {device device₁ : Device} {s s₁ s₂ : Session σ} {m : Params} {e : OpError}
  (hmac : device.mac.isZero = false)

include hmac

/-- What `set` does once its prelude has succeeded leaves the session its request leaves. -/
theorem set_session (hprelude : preludeRead T device s = (.ok (), device₁, s₁)) (config : Params) :
    (set T device config s).2.2 = (s₁.request T device₁ Method.setData
      (setDataPayload (device₁.parameters.extend config))).2 := by
  rw [set, if_neg (by simp [hmac]), hprelude]
  simp only
  rcases s₁.request T device₁ Method.setData (setDataPayload (device₁.parameters.extend config))
    with ⟨_ | ⟨reply, payload⟩, s₂⟩
  · rfl
  · simp only
    split <;> rfl

variable (hcache : device.parameters = OrdMap.empty)

include hcache

/-- A write whose read fails goes no further. -/
theorem set_of_get_error (config : Params) (hget : get T device names s = (.error e, s₁)) :
    set T device config s = (.error e, device, s₁) := by
  rw [set, if_neg (by simp [hmac]), preludeRead, if_pos (OrdMap.isEmpty_iff.mpr hcache), getAll, hget]

/-- A write whose own request fails leaves the read in the cache. -/
theorem set_of_request_error {config : Params} (hget : get T device names s = (.ok m, s₁))
    (hrequest : s₁.request T { device with parameters := m } Method.setData
      (setDataPayload (m.extend config)) = (.error e, s₂)) :
    set T device config s = (.error e, { device with parameters := m }, s₂) := by
  rw [set, if_neg (by simp [hmac]), preludeRead_of_get hcache hget]
  simp only [hrequest]

end Writes

/-! ## Errors of a request -/

theorem waitLoop_error (device : Device) : ∀ (fuel : Nat) (t : σ) (e : OpError),
    (Session.waitLoop T device fuel t).1 = .error e → ∃ source, e = .recv source
  | 0, _, e, h => by cases h; exact ⟨_, rfl⟩
  | fuel + 1, t, e, h => by
    unfold Session.waitLoop at h
    split at h
    · cases h; exact ⟨_, rfl⟩
    · split at h
      · exact waitLoop_error device fuel _ e h
      · simp at h

/-- A request fails to encode its body, to send, or to receive. -/
theorem request_error {device : Device} {ucpMethod : UInt16} {body : Except EncodeError Bytes}
    {s s' : Session σ} {e : OpError}
    (h : s.request T device ucpMethod body = (.error e, s')) :
    (∃ source, body = .error source ∧ e = .encode source) ∨
      (∃ source, e = .send source) ∨ (∃ source, e = .recv source) := by
  cases body with
  | error source =>
    simp only [Session.request, Prod.mk.injEq, Except.error.injEq] at h
    exact Or.inl ⟨source, rfl, h.1.symm⟩
  | ok body =>
    refine Or.inr ?_
    simp only [Session.request] at h
    split at h
    · simp only [Prod.mk.injEq, Except.error.injEq] at h
      exact Or.inl ⟨_, h.1.symm⟩
    · rw [Session.waitForReply, Prod.mk.injEq] at h
      exact Or.inr (waitLoop_error device _ _ e h.1)

/-- The error of a reply is none of the errors of a request. -/
theorem replyError_ne (device : Device) (reply : Packet) (payload : Bytes) :
    (∀ op, replyError device reply payload ≠ .zeroMac op) ∧
      ∀ source, replyError device reply payload ≠ .encode source := by
  unfold replyError
  split
  · split <;> simp
  · split <;> simp

/-- A read never fails to encode, and refuses a zero MAC only if there is one. -/
theorem get_error {device : Device} (hmac : device.mac.isZero = false) {params : List String}
    {s s' : Session σ} {e : OpError} (h : get T device params s = (.error e, s')) :
    (∀ op, e ≠ .zeroMac op) ∧ ∀ source, e ≠ .encode source := by
  rw [get, if_neg (by simp [hmac])] at h
  rcases hr : s.request T device Method.getData (.ok (getDataPayload params)) with
    ⟨e₁ | ⟨reply, payload⟩, s₁⟩
  · rw [hr] at h
    simp only [Prod.mk.injEq, Except.error.injEq] at h
    obtain ⟨rfl, rfl⟩ := h
    rcases request_error hr with ⟨_, hbody, _⟩ | ⟨_, rfl⟩ | ⟨_, rfl⟩
    · simp at hbody
    · simp
    · simp
  · rw [hr] at h
    simp only [Prod.mk.injEq] at h
    have hreply := h.1
    unfold getReply at hreply
    split at hreply
    · split at hreply
      · simp at hreply
      · cases hreply; simp
    · split at hreply
      · cases hreply; simp
      · cases hreply; simp

end Udap
