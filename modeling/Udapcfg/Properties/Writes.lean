import Udapcfg.Properties.SetData
import Udapcfg.Udap.Ops.Call
import Udapcfg.Udap.Ops.Recorded

/-!
# The writes of a run

What is to be shown of every `SetData` packet of a run, whatever it is, is shown of the maps the
packets are built from.

* `set_allWrites_iff` — the writes of one `set` are those of the map that its prelude ends with
* `run_allWrites_iff` — the writes of a run of `get_all` and `set`, under an invariant of the handle
-/

namespace Udap

open Infra

/-- All packets that are writes are as `Q` says. -/
def AllWrites (Q : Bytes → Prop) (packets : List Bytes) : Prop :=
  ∀ packet ∈ packets, isSetDataPacket packet = true → Q packet

variable {Q : Bytes → Prop}

theorem allWrites_append {l l' : List Bytes} :
    AllWrites Q (l ++ l') ↔ AllWrites Q l ∧ AllWrites Q l' := by
  simp only [AllWrites, List.forall_mem_append]

theorem allWrites_of_none {l : List Bytes} (h : ∀ packet ∈ l, isSetDataPacket packet = false) :
    AllWrites Q l := by
  intro packet hmem hset
  rw [h packet hmem] at hset
  simp at hset

/-- Sending a write again changes nothing. -/
theorem allWrites_replicate_succ {packet : Bytes} (h : isSetDataPacket packet = true) {n : Nat} :
    AllWrites Q (List.replicate (n + 1) packet) ↔ Q packet := by
  rw [AllWrites, List.forall_mem_replicate, or_iff_right (Nat.succ_ne_zero n), forall_prop_of_true h]

variable {σ : Type} {T : Transport σ}

/-! ## One call -/

/-- The map of a write tells whether it is as `Q` says. -/
def Describes (P : Params → Prop) (Q : Bytes → Prop) : Prop :=
  ∀ (device : Device) (m : Params) (body : Bytes) (s : Session (σ × List Bytes)),
    setDataPayload m = .ok body → (Q (s.packet device Method.setData body) ↔ P m)

/-- **One `set`** sends writes as `Q` says, or none, exactly if the map does that it
gets to send. -/
theorem set_allWrites_iff {P : Params → Prop} (hQ : Describes (σ := σ) P Q) (device : Device)
    (config : Params) (s : Session (σ × List Bytes)) :
    ∃ sent, (set T.recorded device config s).2.2.log = s.log ++ sent ∧
      (AllWrites Q sent ↔ (device.mac.isZero = false →
        ∀ device₁ s₁, preludeRead T.recorded device s = (.ok (), device₁, s₁) →
          Sendable (device₁.parameters.extend config) → P (device₁.parameters.extend config))) := by
  cases hmac : device.mac.isZero with
  | true =>
    refine ⟨[], ?_, iff_of_true (allWrites_of_none (by simp)) (by simp)⟩
    rw [set, if_pos hmac, List.append_nil]
  | false =>
    -- the log is what the prelude sent, and after it the write
    obtain ⟨read, hread, hnone⟩ := log_preludeRead (T := T) hmac s
    rcases hprelude : preludeRead T.recorded device s with ⟨e | _, device₁, s₁⟩
    · -- the prelude failed
      rw [hprelude] at hread
      refine ⟨read, ?_, ?_⟩
      · rw [set, if_neg (by simp [hmac]), hprelude]
        exact hread
      · exact iff_of_true (allWrites_of_none hnone) (by simp)
    · rw [hprelude] at hread
      cases hbody : setDataPayload (device₁.parameters.extend config) with
      | error e =>
        -- a value did not encode
        refine ⟨read, ?_, iff_of_true (allWrites_of_none hnone) ?_⟩
        · rw [set, if_neg (by simp [hmac]), hprelude]
          simp only [hbody]
          exact hread
        · intro _ device₂ s₂ heq hsend
          simp only [Prod.mk.injEq, true_and] at heq
          obtain ⟨rfl, rfl⟩ := heq
          obtain ⟨body, hok⟩ := hsend
          rw [hbody] at hok
          simp at hok
      | ok body =>
        refine ⟨read ++ List.replicate (s₁.retries + 1) (s₁.packet device₁ Method.setData body),
          ?_, ?_⟩
        · rw [log_set hmac hprelude hbody, ← List.append_assoc]
          exact congrArg (· ++ _) hread
        · rw [allWrites_append, allWrites_replicate_succ (isSetDataPacket_packet _ _ _ _),
            hQ device₁ _ body s₁ hbody, and_iff_right (allWrites_of_none hnone)]
          constructor
          · intro hmap _ device₂ s₂ heq hsend
            simp only [Prod.mk.injEq, true_and] at heq
            obtain ⟨rfl, rfl⟩ := heq
            exact hmap
          · intro h
            exact h rfl device₁ s₁ rfl ⟨body, hbody⟩

/-- A read sends no write at all. -/
theorem getAll_allWrites (device : Device) (s : Session (σ × List Bytes)) :
    ∃ sent, (getAll T.recorded device s).2.2.log = s.log ++ sent ∧ AllWrites Q sent := by
  have hsession : (getAll T.recorded device s).2.2 = (get T.recorded device names s).2 := by
    unfold getAll
    rcases get T.recorded device names s with ⟨_ | m, s₁⟩ <;> rfl
  rw [hsession]
  cases hmac : device.mac.isZero with
  | true =>
    refine ⟨[], ?_, allWrites_of_none (by simp)⟩
    rw [get, if_pos hmac, List.append_nil]
  | false =>
    refine ⟨_, log_get (T := T) hmac names s, allWrites_of_none fun packet hmem => ?_⟩
    rw [List.eq_of_mem_replicate hmem, isSetDataPacket_packet]
    rfl

/-! ## Runs -/

/-- A call that reads everything or writes. -/
def ReadsOrWrites : Call → Prop
  | .getAll => True
  | .set _ => True
  | _ => False

/-- Every `set` of a run meets a condition. -/
def RunMeets (T : Transport σ) (C : Device → Params → Session (σ × List Bytes) → Prop) :
    Device → Session (σ × List Bytes) → List Call → Prop
  | _, _, [] => True
  | device, s, call :: rest =>
    let r := call.run T.recorded device s
    (∀ config, call = .set config → C device config s) ∧ RunMeets T C r.2.1 r.2.2 rest

/-- What is known of one `set`: its writes are as `Q` says exactly if it meets the condition, and
then it keeps the invariant. -/
def SetWrites (T : Transport σ) (Q : Bytes → Prop)
    (C : Device → Params → Session (σ × List Bytes) → Prop) (Inv : Device → Prop)
    (config : Params) : Prop :=
  ∀ (device : Device) (s : Session (σ × List Bytes)),
    ∃ sent, (set T.recorded device config s).2.2.log = s.log ++ sent ∧
      (Inv device → (AllWrites Q sent ↔ C device config s) ∧
        (C device config s → Inv (set T.recorded device config s).2.1))

/-- **The writes of a run** are as `Q` says exactly if every `set` meets its condition. -/
theorem run_allWrites_iff {C : Device → Params → Session (σ × List Bytes) → Prop}
    (Inv : Device → Prop)
    (hread : ∀ device s, Inv device → Inv (getAll T.recorded device s).2.1) (calls : List Call)
    (hcalls : ∀ call ∈ calls, ReadsOrWrites call)
    (hwrite : ∀ config, Call.set config ∈ calls → SetWrites T Q C Inv config) (device : Device)
    (s : Session (σ × List Bytes)) :
    ∃ sent, (runCalls T.recorded device s calls).2.log = s.log ++ sent ∧
      (Inv device → (AllWrites Q sent ↔ RunMeets T C device s calls)) := by
  induction calls generalizing device s with
  | nil => exact ⟨[], by simp [runCalls], fun _ => iff_of_true (allWrites_of_none (by simp)) trivial⟩
  | cons call rest ih =>
    have hnext := ih (fun c hc => hcalls c (List.mem_cons_of_mem _ hc))
      (fun config hc => hwrite config (List.mem_cons_of_mem _ hc))
    have hcall := hcalls call List.mem_cons_self
    cases call with
    | get _ | reset | getIp | getUuid => exact absurd hcall id
    | getAll =>
      obtain ⟨first, hfirst, hnone⟩ := getAll_allWrites (T := T) (Q := Q) device s
      obtain ⟨sent, hsent, hiff⟩ := hnext (getAll T.recorded device s).2.1
        (getAll T.recorded device s).2.2
      refine ⟨first ++ sent, ?_, fun hinv => ?_⟩
      · rw [← List.append_assoc, ← hfirst]
        exact hsent
      · rw [allWrites_append, RunMeets]
        simp only [hnone, true_and, reduceCtorEq, false_imp_iff, implies_true]
        exact hiff (hread device s hinv)
    | set config =>
      obtain ⟨first, hfirst, hstep⟩ := hwrite config List.mem_cons_self device s
      obtain ⟨sent, hsent, hiff⟩ := hnext (set T.recorded device config s).2.1
        (set T.recorded device config s).2.2
      refine ⟨first ++ sent, ?_, fun hinv => ?_⟩
      · rw [← List.append_assoc, ← hfirst]
        exact hsent
      · obtain ⟨hcond, hkeeps⟩ := hstep hinv
        rw [allWrites_append, hcond, RunMeets]
        simp only [Call.set.injEq, forall_eq']
        exact and_congr_right fun hc => hiff (hkeeps hc)

end Udap
