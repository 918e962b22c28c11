import Udapcfg.Udap.Ops.Call
import Udapcfg.Udap.Ops.Cases

/-!
# Synthetic keys

Items at offsets the table does not know end up under `offset_<decimal>`. A later `get_all` drops
these before it merges what it read, so that they do not add up over firmware versions.

* `isSynthetic_parseResponse_iff` — the synthetic keys of a response
* `refreshed_getAll` — one `get_all` on any handle
* `run_refreshed` — every `get_all` of a run
-/

namespace Udap

open Infra

/-! ## The keys of a response -/

/-- **The synthetic keys of a response** are those of its items at unknown offsets. -/
theorem isSynthetic_parseResponse_iff {payload : Bytes} {m : Params}
    (h : GetData.parseResponse payload = .ok m) {k : String} (hk : GetData.isSynthetic k = true) :
    m.get? k ≠ none ↔
      ∃ it ∈ GetData.replyItems payload, byOffset it.1 = none ∧ GetData.syntheticKey it.1 = k := by
  constructor
  · intro hget
    obtain ⟨it, hit, rfl⟩ := GetData.parseResponse_keys h hget
    refine ⟨it, hit, ?_⟩
    cases hp : byOffset it.1 with
    | some p =>
      -- a table name does not begin like a synthetic key
      have hname := GetData.isSynthetic_name p.name
        (mem_names_iff.mpr ⟨p, (byOffset_eq_some hp).1, rfl⟩)
      rw [GetData.itemEntry_of_byOffset hp, hname] at hk
      cases hk
    | none =>
      refine ⟨rfl, ?_⟩
      rw [GetData.itemEntry, hp]
  · rintro ⟨it, hit, hp, rfl⟩
    have hget := GetData.get?_parseResponse_of_mem h hit
    rwa [GetData.itemEntry, hp] at hget

theorem get?_mergeRead_eq (parameters config : Params) (k : String) :
    (mergeRead parameters config).get? k
      = (config.get? k).or (if GetData.isSynthetic k then none else parameters.get? k) := by
  rw [mergeRead, OrdMap.get?_extend, OrdMap.get?_retain]
  cases GetData.isSynthetic k <;> rfl

/-! ## One read -/

variable {σ : Type} {T : Transport σ}

/-- What `get_all` on `device` has left when it returned `r`. -/
structure Refreshed (T : Transport σ) (device : Device) (s : Session σ)
    (r : Outcome × Device × Session σ) : Prop where
  /-- After a success, a synthetic key is there exactly if the reply has an item for it, and any
  other key has the value from the reply or else the one it had. -/
  ok : r.1 = .done (.ok ()) → ∃ reply payload m,
    s.request T device Method.getData (.ok (getDataPayload names)) = (.ok (reply, payload), r.2.2) ∧
    GetData.parseResponse payload = .ok m ∧
    (∀ k, GetData.isSynthetic k = true →
      r.2.1.parameters.get? k = m.get? k ∧
      (r.2.1.parameters.get? k ≠ none ↔ ∃ it ∈ GetData.replyItems payload,
        byOffset it.1 = none ∧ GetData.syntheticKey it.1 = k)) ∧
    (∀ k, GetData.isSynthetic k = false →
      r.2.1.parameters.get? k = (m.get? k).or (device.parameters.get? k)) ∧
    r.2.1 = { device with parameters := r.2.1.parameters }
  /-- A failure changes nothing. -/
  error : ∀ e, r.1 = .done (.error e) → r.2.1 = device

/-- **One `get_all`**, whatever is cached and whatever the peer answers. -/
theorem refreshed_getAll (device : Device) (s : Session σ) :
    Refreshed T device s (Call.getAll.run T device s) := by
  show Refreshed T device s (.done (getAll T device s).1, (getAll T device s).2)
  unfold getAll
  rcases hget : get T device names s with ⟨e | m, s'⟩
  · exact ⟨fun h => (by cases h), fun _ _ => rfl⟩
  · refine ⟨fun _ => ?_, fun _ h => (by cases h)⟩
    obtain ⟨_, reply, payload, hreq, _, hparse⟩ := get_ok hget
    refine ⟨reply, payload, m, hreq, hparse, ?_, ?_, rfl⟩
    · intro k hk
      have hvalue : (mergeRead device.parameters m).get? k = m.get? k := by
        rw [get?_mergeRead_eq, if_pos hk, Option.or_none]
      refine ⟨hvalue, ?_⟩
      rw [← isSynthetic_parseResponse_iff hparse hk]
      exact not_congr (by rw [← hvalue])
    · intro k hk
      show (mergeRead device.parameters m).get? k = _
      rw [get?_mergeRead_eq, if_neg (by rw [hk]; exact Bool.false_ne_true)]

/-! ## Runs -/

/-- Every `get_all` of a run leaves what it should, also the one that a `set` begins with. -/
def RunRefreshed (T : Transport σ) : Device → Session σ → List Call → Prop
  | _, _, [] => True
  | device, s, call :: rest =>
    (call = .getAll ∨ (∃ config, call = .set config) →
      Refreshed T device s (Call.getAll.run T device s)) ∧
    RunRefreshed T (call.run T device s).2.1 (call.run T device s).2.2 rest

/-- **Synthetic keys do not add up**: in every run of operations on one handle, whatever it holds at
first, whatever is written in between and whatever the peer answers. -/
theorem run_refreshed (calls : List Call) (device : Device) (s : Session σ) :
    RunRefreshed T device s calls := by
  induction calls generalizing device s with
  | nil => trivial
  | cons call rest ih => exact ⟨fun _ => refreshed_getAll device s, ih _ _⟩

end Udap
