import Udapcfg.Properties.CommitBarrier
import Udapcfg.Properties.ReadModifyWrite
import Udapcfg.Properties.Writes

/-!
# Partial writes

A `SetData` packet that leaves a parameter out makes the device zero the memory around it. Whether a
packet is complete rests on what the peer answered to the read before it.

* `carriesAll_iff` — a packet is complete exactly if every parameter has a name in the merged map
* `set_complete_iff` — one `set`, for any transport
* `run_complete_iff` — a run of `get_all` and `set` on one handle, for any transport
-/

namespace Udap

open Infra

/-! ## Complete packets -/

/-- The packet has an item for every entry of the table. -/
def CarriesAll (packet : Bytes) : Prop := ∀ p ∈ parameters, bytesAt packet p.offset ≠ []

/-- The map has a name for every entry of the table. -/
def Covers (m : Params) : Prop := ∀ p ∈ parameters, ¬ Unnamed m p

/-- The packets that are writes are complete. -/
def CompleteWrites (packets : List Bytes) : Prop :=
  ∀ packet ∈ packets, isSetDataPacket packet = true → CarriesAll packet

theorem mem_resolved_iff_named {m : Params} {p : Parameter} :
    (∃ v, (p, v) ∈ resolved m) ↔ ¬ Unnamed m p := by
  rw [not_unnamed_iff]
  constructor
  · rintro ⟨v, hv⟩
    obtain ⟨k, hget, hname⟩ := mem_resolved.mp hv
    exact ⟨v, k, hname, hget⟩
  · rintro ⟨v, k, hname, hget⟩
    exact ⟨v, mem_resolved.mpr ⟨k, hget, hname⟩⟩

variable {σ : Type} {T : Transport σ}

/-- **A write is complete** exactly if its map names every parameter. -/
theorem carriesAll_iff (device : Device) {m : Params} {body : Bytes} (s : Session σ)
    (hbody : setDataPayload m = .ok body) :
    CarriesAll (s.packet device Method.setData body) ↔ Covers m := by
  have hone : ∀ p ∈ parameters,
      (bytesAt (s.packet device Method.setData body) p.offset ≠ [] ↔ ¬ Unnamed m p) := by
    intro p hp
    rw [bytesAt_packet, filter_writtenItems hbody hp, List.map_map, Ne, List.map_eq_nil_iff,
      List.filter_eq_nil_iff, ← mem_resolved_iff_named]
    constructor
    · intro h
      simp only [not_forall] at h
      obtain ⟨e, he, heq⟩ := h
      have hp' : e.1 = p := by simpa using heq
      exact ⟨e.2, by rw [← hp']; exact mem_knownItems.mp he⟩
    · rintro ⟨v, hv⟩ h
      exact h (p, v) (mem_knownItems.mpr hv) (by simp)
  exact ⟨fun h p hp => (hone p hp).mp (h p hp), fun h p hp => (hone p hp).mpr (h p hp)⟩

/-! ## One `set` -/

theorem covers_extend {m config : Params} :
    Covers (m.extend config) ↔ ∀ p ∈ parameters, ¬ Unnamed m p ∨ ¬ Unnamed config p := by
  have hone : ∀ p, Unnamed (m.extend config) p ↔ Unnamed m p ∧ Unnamed config p := by
    intro p
    constructor
    · intro h
      refine ⟨fun k hk => ?_, fun k hk => ?_⟩
      · exact (Option.or_eq_none_iff.mp ((OrdMap.get?_extend m config k).symm.trans (h k hk))).2
      · exact (Option.or_eq_none_iff.mp ((OrdMap.get?_extend m config k).symm.trans (h k hk))).1
    · rintro ⟨hm, hc⟩ k hk
      rw [OrdMap.get?_extend, hm k hk, hc k hk]
      rfl
  simp only [Covers, hone, not_and_or]

/-- A decoded reply names the parameters whose offsets are among its items. -/
theorem not_unnamed_parseResponse {payload : Bytes} {m : Params}
    (h : GetData.parseResponse payload = .ok m) {p : Parameter} (hp : p ∈ parameters) :
    ¬ Unnamed m p ↔ ∃ it ∈ GetData.replyItems payload, it.1 = p.offset := by
  rw [not_unnamed_iff]
  constructor
  · rintro ⟨v, k, hname, hget⟩
    have hne : m.get? k ≠ none := by rw [hget]; simp
    have hk : k = p.name := canonicalFor_parseResponse h p k hname hne
    obtain ⟨it, hit, hkey⟩ := GetData.parseResponse_keys h hne
    rcases GetData.itemEntry_key it with ⟨q, hq, hoff, hqkey⟩ | hsynthetic
    · have hqp : q = p := eq_of_name_eq hq hp (by rw [← hqkey, hkey, hk])
      exact ⟨it, hit, by rw [← hoff, hqp]⟩
    · rw [hkey, hk, GetData.isSynthetic_name _ (mem_names_iff.mpr ⟨p, hp, rfl⟩)] at hsynthetic
      simp at hsynthetic
  · rintro ⟨it, hit, hoff⟩
    have hne := GetData.get?_parseResponse_of_mem h hit
    rw [GetData.itemEntry_of_byOffset (by rw [hoff]; exact byOffset_offset p hp)] at hne
    obtain ⟨v, hv⟩ := Option.ne_none_iff_exists'.mp hne
    exact ⟨v, p.name, byName_name p hp, hv⟩

/--
The condition of one `set`. If it gets to send a write, every parameter is named by `config`, or by
the cache, or, when the cache is empty, has its offset among the items of the reply that was read.
-/
structure StepCovers (T : Transport σ) (device : Device) (config : Params)
    (s : Session (σ × List Bytes)) : Prop where
  cached : device.parameters ≠ OrdMap.empty → Sendable (device.parameters.extend config) →
    ∀ p ∈ parameters, ¬ Unnamed device.parameters p ∨ ¬ Unnamed config p
  read : device.parameters = OrdMap.empty → ∀ reply payload s₁ m,
    s.request T.recorded device Method.getData (.ok (getDataPayload names))
      = (.ok (reply, payload), s₁) →
    reply.ucpMethod = Method.getData → GetData.parseResponse payload = .ok m →
    Sendable (m.extend config) →
    ∀ p ∈ parameters, (∃ it ∈ GetData.replyItems payload, it.1 = p.offset) ∨ ¬ Unnamed config p

/-- The condition, said of the prelude. -/
theorem stepCovers_iff {device : Device} (hmac : device.mac.isZero = false) {config : Params}
    {s : Session (σ × List Bytes)} :
    StepCovers T device config s ↔ ∀ device₁ s₁,
      preludeRead T.recorded device s = (.ok (), device₁, s₁) →
      Sendable (device₁.parameters.extend config) → Covers (device₁.parameters.extend config) := by
  constructor
  · intro h device₁ s₁ hprelude hsend
    rw [covers_extend]
    rcases preludeRead_ok hprelude with ⟨hne, rfl, _⟩ | ⟨hempty, m, hget, rfl⟩
    · exact h.cached hne hsend
    · obtain ⟨_, reply, payload, hreq, hmethod, hparse⟩ := get_ok hget
      intro p hp
      rw [not_unnamed_parseResponse hparse hp]
      exact h.read hempty reply payload s₁ m hreq hmethod hparse hsend p hp
  · intro h
    constructor
    · intro hne hsend
      rw [← covers_extend]
      refine h device s ?_ hsend
      rw [preludeRead, if_neg (by rw [OrdMap.isEmpty_iff]; exact hne)]
    · intro hempty reply payload s₁ m hreq hmethod hparse hsend p hp
      have hprelude := preludeRead_of_reply hmac hempty hreq hmethod hparse
      have hcovers := covers_extend.mp (h _ _ hprelude hsend) p hp
      rwa [not_unnamed_parseResponse hparse hp] at hcovers

/-- **One `set`** sends complete writes, or none, exactly under its condition. -/
theorem setWrites_complete (config : Params) :
    SetWrites T CarriesAll (StepCovers T) (fun device => device.mac.isZero = false) config := by
  intro device s
  obtain ⟨sent, hsent, hiff⟩ := set_allWrites_iff (T := T)
    (fun device _ _ s hbody => carriesAll_iff device s hbody) device config s
  refine ⟨sent, hsent, fun hmac => ⟨?_, fun _ => ?_⟩⟩
  · rw [hiff, stepCovers_iff hmac]
    exact ⟨fun h => h hmac, fun h _ => h⟩
  · obtain ⟨m, hdevice⟩ := set_device (T := T.recorded) device config s
    rw [hdevice]
    exact hmac

/-! ## Runs -/

/-- Every `set` of a run meets its condition. -/
def RunCovers (T : Transport σ) : Device → Session (σ × List Bytes) → List Call → Prop
  | _, _, [] => True
  | device, s, call :: rest =>
    let r := call.run T.recorded device s
    (∀ config, call = .set config → StepCovers T device config s) ∧ RunCovers T r.2.1 r.2.2 rest

theorem runCovers_iff (calls : List Call) (device : Device) (s : Session (σ × List Bytes)) :
    RunCovers T device s calls ↔ RunMeets T (StepCovers T) device s calls := by
  induction calls generalizing device s with
  | nil => exact Iff.rfl
  | cons call rest ih => exact and_congr_right fun _ => ih _ _

/--
**No partial write**: in a run of reads and writes on one handle, whatever the transport and the
peer do, all writes are complete exactly if every `set` meets its condition.
-/
theorem run_complete_iff : ∀ (calls : List Call) (device : Device) (s : Session (σ × List Bytes)),
    device.mac.isZero = false → (∀ call ∈ calls, ReadsOrWrites call) →
    ∃ sent, (runCalls T.recorded device s calls).2.log = s.log ++ sent ∧
      (CompleteWrites sent ↔ RunCovers T device s calls) := by
  intro calls device s hmac hcalls
  obtain ⟨sent, hsent, hiff⟩ := run_allWrites_iff (T := T)
    (fun device => device.mac.isZero = false)
    (fun device s hmac => by
      obtain ⟨m, hdevice⟩ := getAll_device (T := T.recorded) device s
      rw [hdevice]
      exact hmac)
    calls hcalls (fun config _ => setWrites_complete config) device s
  refine ⟨sent, hsent, ?_⟩
  rw [runCovers_iff]
  exact hiff hmac

/-! ## Runs against a script -/

/-- A session in which an image is read and a write acknowledged. -/
def ackedSession : Session (Script × List Bytes) :=
  scripted [] [.ok (imageHeader.toBytes ++ responsePayload (imageItems usedImage), ""),
    .ok ((replyHeader (Mac.auto 1) Method.setData).toBytes, "")] 0 0

/-- A read, and then a write that carries the image. -/
theorem run_complete_iff_used :
    let calls : List Call := [.getAll, .set (single "hostname" "den")]
    let r := runCalls Script.transport.recorded (Device.withMac (Mac.auto 1)) ackedSession calls
    (r.2.log.map fun packet => (isSetDataPacket packet, bytesAt packet 17))
        = [(false, []), (true, [strBytes "den" ++ zeros 30])] ∧
      ∃ sent, r.2.log = ackedSession.log ++ sent ∧
        (CompleteWrites sent ↔
          RunCovers Script.transport (Device.withMac (Mac.auto 1)) ackedSession calls) :=
  ⟨by decide +kernel,
    run_complete_iff [.getAll, .set (single "hostname" "den")] _ ackedSession (by decide)
      (by simp [ReadsOrWrites])⟩

/-- A session in which the first reply is a response without items. -/
def noItems : Session (Script × List Bytes) :=
  ⟨(⟨[], [.ok (imageHeader.toBytes ++ responsePayload [], "")]⟩, []), 0, 0⟩

/-- **A response without items** is read as an empty cache, and the write has one item. -/
theorem set_partial_noItems :
    ¬ CompleteWrites (runCalls Script.transport.recorded (Device.withMac (Mac.auto 1)) noItems
      [.set (single "hostname" "den")]).2.log := by
  have hlast : (runCalls Script.transport.recorded (Device.withMac (Mac.auto 1)) noItems
      [.set (single "hostname" "den")]).2.log.getLast?.map
        (fun packet => (isSetDataPacket packet, bytesAt packet 4)) = some (true, []) := by
    decide +kernel
  intro h
  obtain ⟨packet, hmem, heq⟩ := Option.map_eq_some_iff.mp hlast
  rw [Prod.mk.injEq] at heq
  exact h packet (List.mem_of_getLast? hmem) heq.1 ⟨"lan_ip_mode", 4, 1, "1"⟩ (by decide) heq.2

end Udap
