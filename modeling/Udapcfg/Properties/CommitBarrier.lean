import Udapcfg.Udap.Ops.Recorded

/-!
# The commit barrier

What a `set` that failed leaves behind, for every transport.

* `set_error_commitBarrier` — only the cache can have changed, from empty to what the prelude read,
  and no write went out unless the read before it succeeded and every value encoded
-/

namespace Udap

open Infra

variable {σ : Type} {T : Transport σ}

/-- What the cache is after a prelude that succeeded. -/
theorem preludeRead_parameters {device device' : Device} {s s' : Session σ}
    (h : preludeRead T device s = (.ok (), device', s')) :
    device'.parameters = device.parameters ∨
    (device.parameters = OrdMap.empty ∧ ∃ reply payload,
      s.request T device Method.getData (.ok (getDataPayload names)) = (.ok (reply, payload), s') ∧
      reply.ucpMethod = Method.getData ∧
      GetData.parseResponse payload = .ok device'.parameters) := by
  rcases preludeRead_ok h with ⟨_, rfl, _⟩ | ⟨hempty, m, hget, rfl⟩
  · exact Or.inl rfl
  · obtain ⟨_, reply, payload, hreq, hmethod, hparse⟩ := get_ok hget
    exact Or.inr ⟨hempty, reply, payload, hreq, hmethod, hparse⟩

/-- What a failed `set` may have done: `device` and `s` before it, `device'` and `s'` after it. -/
structure CommitBarrier (T : Transport σ) (device : Device) (s : Session (σ × List Bytes))
    (e : OpError) (device' : Device) (s' : Session (σ × List Bytes)) : Prop where
  /-- No field but the cache differs. -/
  fields : device' = { device with parameters := device'.parameters }
  /-- The cache is what it was, or it was empty and is what the reply to the prelude decodes to. -/
  cache : device'.parameters = device.parameters ∨
    (device.parameters = OrdMap.empty ∧ ∃ reply payload s₁,
      s.request T.recorded device Method.getData (.ok (getDataPayload names))
        = (.ok (reply, payload), s₁) ∧
      reply.ucpMethod = Method.getData ∧
      GetData.parseResponse payload = .ok device'.parameters)
  /-- With a zero MAC nothing was sent. -/
  zeroMac : (∃ operation, e = .zeroMac operation) → s'.log = s.log
  /-- If a value did not encode, or the prelude failed, no write was sent. -/
  unsent : (∃ source, e = .encode source) ∨
      (∃ e₁ device₁ s₁, preludeRead T.recorded device s = (.error e₁, device₁, s₁)) →
    ∃ sent, s'.log = s.log ++ sent ∧ ∀ packet ∈ sent, isSetDataPacket packet = false

/-- **The commit barrier** holds whenever `set` fails. -/
theorem set_error_commitBarrier {device device' : Device} {config : Params}
    {s s' : Session (σ × List Bytes)} {e : OpError}
    (h : set T.recorded device config s = (.error e, device', s')) :
    CommitBarrier T device s e device' s' := by
  rcases set_error h with ⟨_, rfl, rfl, rfl⟩ | ⟨hmac, hprelude⟩ | ⟨hmac, s₁, hprelude, hsend⟩
  · -- nothing was done
    exact ⟨rfl, Or.inl rfl, fun _ => rfl, fun _ => ⟨[], by simp, by simp⟩⟩
  · -- the prelude failed
    obtain ⟨_, hget, rfl⟩ := preludeRead_error hprelude
    refine ⟨rfl, Or.inl rfl, ?_, ?_⟩
    · rintro ⟨operation, rfl⟩
      exact absurd rfl ((get_error hmac hget).1 operation)
    · intro _
      obtain ⟨sent, hsent, hnone⟩ := log_preludeRead (T := T) hmac s
      rw [hprelude] at hsent
      exact ⟨sent, hsent, hnone⟩
  · -- the write failed
    refine ⟨preludeRead_device hprelude, ?_, ?_, ?_⟩
    · rcases preludeRead_parameters hprelude with hsame | ⟨hempty, reply, payload, hreply⟩
      · exact Or.inl hsame
      · exact Or.inr ⟨hempty, reply, payload, s₁, hreply⟩
    · rintro ⟨operation, rfl⟩
      rcases hsend with hsend | ⟨reply, payload, _, _, herr⟩
      · rcases request_error hsend with ⟨_, _, he⟩ | ⟨_, he⟩ | ⟨_, he⟩ <;> cases he
      · exact absurd herr.symm ((replyError_ne device' reply payload).1 operation)
    · rintro (⟨source, rfl⟩ | ⟨e₁, device₁, s₂, herr⟩)
      · -- the body did not encode, so all that was sent is the prelude
        obtain ⟨source', hbody⟩ : ∃ source', setDataPayload (device'.parameters.extend config)
            = .error source' := by
          rcases hsend with hsend | ⟨reply, payload, _, _, herr⟩
          · rcases request_error hsend with ⟨source', hbody, _⟩ | ⟨_, he⟩ | ⟨_, he⟩
            · exact ⟨source', hbody⟩
            · cases he
            · cases he
          · exact absurd herr.symm ((replyError_ne device' reply payload).2 source)
        have hlog : s'.log = s₁.log := by
          rw [← Session.log_request_error (T := T) device' Method.setData source' s₁, ← hbody]
          rcases hsend with hsend | ⟨reply, payload, hsend, _⟩ <;> rw [hsend]
        obtain ⟨sent, hsent, hnone⟩ := log_preludeRead (T := T) hmac s
        rw [hprelude] at hsent
        exact ⟨sent, hlog.trans hsent, hnone⟩
      · rw [hprelude] at herr
        simp at herr

/-! ## A run -/

/-- A session in which the read is answered with one item, and the write cannot be sent. -/
def downAfterRead : Session (Script × List Bytes) :=
  scripted [.ok (), .error (.io "down")]
    [.ok ((replyHeader (Mac.auto 1) Method.getData).toBytes ++ [0, 1, 0, 4, 0, 1, 1], "")] 0 0

/-- The write fails after the read has succeeded: the cache holds what was read. -/
theorem set_error_commitBarrier_down :
    let r := set Script.transport.recorded (Device.withMac (Mac.auto 1))
      (OrdMap.empty.insert "lan_ip_mode" (strBytes "0")) downAfterRead
    r.2.1.parameters.get? "lan_ip_mode" = some (strBytes "1") ∧ r.2.2.log.length = 2 ∧
      CommitBarrier Script.transport (Device.withMac (Mac.auto 1)) downAfterRead
        (.send (.io "down")) r.2.1 r.2.2 := by
  intro r
  have hfail : r.1 = .error (.send (.io "down")) := by decide +kernel
  exact ⟨by decide +kernel, by decide +kernel, set_error_commitBarrier (Prod.ext hfail rfl)⟩

end Udap
