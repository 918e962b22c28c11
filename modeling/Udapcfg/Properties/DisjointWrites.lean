import Udapcfg.Properties.PartialWrite
import Udapcfg.Properties.SetDataCodec

/-!
# One item for each range

A `SetData` packet says which bytes of NVRAM it writes. They are written once, as long as the map it
is built from has one name for each parameter.

* `disjointItems_iff` — the items of a packet
* `stepSingle_iff` — when the map of one `set` has one name for each parameter
* `run_writesOnce_iff` — the writes of a run of `get_all` and `set`
-/

namespace Udap

open Infra

/-! ## The bytes of an item -/

/-- The item writes the byte of NVRAM at `i`. -/
def WritesByte (it : Item) (i : Nat) : Prop := it.1.toNat ≤ i ∧ i < it.1.toNat + it.2.length

/-- Offsets go up, and no byte is written by two items. -/
structure DisjointItems (items : List Item) : Prop where
  increasing : (items.map Prod.fst).Pairwise (· < ·)
  disjoint : items.Pairwise fun it it' => ∀ i, ¬ (WritesByte it i ∧ WritesByte it' i)

/-- The ranges of the table do not overlap. -/
theorem range_le : ∀ p ∈ parameters, ∀ q ∈ parameters, p.offset < q.offset →
    p.offset.toNat + p.length.toNat ≤ q.offset.toNat := by decide +kernel

/-- The parameters of the items, in wire order, with the names they come from. -/
theorem map_offset_knownItems (m : Params) : ((knownItems m).map wireItem).map Prod.fst
    = (Mocksbr.namedItems m).map fun e => e.2.1.offset := by
  rw [← Mocksbr.map_namedItems, List.map_map, List.map_map]
  rfl

/-- With one name for each parameter the offsets go up. -/
theorem increasing_of_oneName {m : Params} (h : OneName m) :
    (Mocksbr.namedItems m).Pairwise fun e e' => e.2.1.offset < e'.2.1.offset := by
  refine List.Pairwise.imp_of_mem ?_ (List.pairwise_map.mp (Mocksbr.namedItems_order m))
  rintro ⟨k, p, v⟩ ⟨k', p', v'⟩ he he' ⟨q, q', hq, hq', hbefore⟩
  obtain ⟨hget, hname⟩ := Mocksbr.mem_namedItems.mp he
  obtain ⟨hget', hname'⟩ := Mocksbr.mem_namedItems.mp he'
  cases Option.some.inj (hname.symm.trans hq)
  cases Option.some.inj (hname'.symm.trans hq')
  rcases hbefore with hlt | ⟨heq, hlt⟩
  · exact hlt
  · -- two names of one parameter
    cases eq_of_offset_eq (byName_mem hname) (byName_mem hname') heq
    have hsame := h k k' p hname hname' (by rw [hget]; simp) (by rw [hget']; simp)
    exact absurd hlt (by rw [hsame]; exact lt_irrefl k')

/-- **The items of a request** are disjoint exactly if its map has one name for each parameter. -/
theorem disjointItems_iff {m : Params} {body : Bytes} (hbody : setDataPayload m = .ok body) :
    DisjointItems (writtenItems body) ↔ OneName m := by
  rw [writtenItems_setDataPayload hbody]
  constructor
  · rintro ⟨hincreasing, _⟩ k k' p hname hname' hget hget'
    obtain ⟨v, hv⟩ := Option.ne_none_iff_exists'.mp hget
    obtain ⟨v', hv'⟩ := Option.ne_none_iff_exists'.mp hget'
    have hnodup : ((Mocksbr.namedItems m).map fun e => e.2.1.offset).Nodup := by
      rw [← map_offset_knownItems]
      exact hincreasing.imp fun hlt => UInt16.ne_of_lt hlt
    have hsame := List.inj_on_of_nodup_map hnodup (Mocksbr.mem_namedItems.mpr ⟨hv, hname⟩)
      (Mocksbr.mem_namedItems.mpr ⟨hv', hname'⟩) rfl
    exact congrArg Prod.fst hsame
  · intro h
    have hincreasing := increasing_of_oneName h
    refine ⟨?_, ?_⟩
    · rw [map_offset_knownItems]
      exact List.pairwise_map.mpr hincreasing
    · rw [← Mocksbr.map_namedItems, List.map_map]
      refine List.pairwise_map.mpr (List.Pairwise.imp_of_mem ?_ hincreasing)
      rintro ⟨k, p, v⟩ ⟨k', p', v'⟩ he he' hlt i ⟨⟨_, hend⟩, hstart, _⟩
      have hp := byName_mem (Mocksbr.mem_namedItems.mp he).2
      have hp' := byName_mem (Mocksbr.mem_namedItems.mp he').2
      have hle := range_le p hp p' hp' hlt
      obtain ⟨b, hb⟩ := encode_of_mem hbody (e := (p, v))
        (by rw [← Mocksbr.map_namedItems]; exact List.mem_map_of_mem he)
      have hlength : (wireItem (p, v)).2.length = p.length.toNat := by
        show (encodedBytes (p, v)).length = _
        rw [encodedBytes_of_ok hb, Parameter.length_encode hb]
      change i < p.offset.toNat + (wireItem (p, v)).2.length at hend
      change p'.offset.toNat ≤ i at hstart
      omega

/-- The packet writes no byte of NVRAM twice. -/
def WritesOnce (packet : Bytes) : Prop :=
  match Packet.fromBytes packet with
  | .ok (_, body) => DisjointItems (writtenItems body)
  | .error _ => False

variable {σ : Type} {T : Transport σ}

theorem describes_oneName : Describes (σ := σ) OneName WritesOnce := by
  intro device m body s hbody
  rw [WritesOnce, Session.fromBytes_packet]
  exact disjointItems_iff hbody

/-! ## One `set` -/

/--
The condition of one `set`. If it gets to send a write, no parameter has two names in the cache and
`config`; when the cache is empty, `config` has no alias of a parameter whose offset is among the
items of the reply that was read.
-/
structure StepSingle (T : Transport σ) (device : Device) (config : Params)
    (s : Session (σ × List Bytes)) : Prop where
  cached : device.mac.isZero = false → device.parameters ≠ OrdMap.empty →
    Sendable (device.parameters.extend config) → OneName (device.parameters.extend config)
  read : device.mac.isZero = false → device.parameters = OrdMap.empty → ∀ reply payload s₁ m,
    s.request T.recorded device Method.getData (.ok (getDataPayload names))
      = (.ok (reply, payload), s₁) →
    reply.ucpMethod = Method.getData → GetData.parseResponse payload = .ok m →
    Sendable (m.extend config) →
    ∀ it ∈ GetData.replyItems payload, ∀ k p, byName k = some p → config.get? k ≠ none →
      it.1 = p.offset → k = p.name

/-- Over a decoded reply the names of a configuration are the only ones if no alias is
in the way. -/
theorem oneName_extend_parseResponse {payload : Bytes} {m config : Params}
    (hparse : GetData.parseResponse payload = .ok m) (hconfig : OneName config) :
    OneName (m.extend config) ↔ ∀ it ∈ GetData.replyItems payload, ∀ k p, byName k = some p →
      config.get? k ≠ none → it.1 = p.offset → k = p.name := by
  constructor
  · intro h it hit k p hname hget hoffset
    have hp := byName_mem hname
    have hcached : m.get? p.name ≠ none := by
      have hkey := GetData.get?_parseResponse_of_mem hparse hit
      rwa [GetData.itemEntry_of_byOffset (by rw [hoffset]; exact byOffset_offset p hp)] at hkey
    refine h k p.name p hname (byName_name p hp) ?_ ?_
    · rw [OrdMap.get?_extend, ne_eq, Option.or_eq_none_iff]
      exact fun hnone => hget hnone.1
    · rw [OrdMap.get?_extend, ne_eq, Option.or_eq_none_iff]
      exact fun hnone => hcached hnone.2
  · intro h k k' p hname hname' hget hget'
    have hp := byName_mem hname
    -- a name is the canonical one if it comes from the reply
    have hcanonical : ∀ k, byName k = some p → m.get? k ≠ none →
        k = p.name ∧ ∃ it ∈ GetData.replyItems payload, it.1 = p.offset := by
      intro k hname hget
      obtain ⟨v, hv⟩ := Option.ne_none_iff_exists'.mp hget
      refine ⟨canonicalFor_parseResponse hparse p k hname hget, ?_⟩
      exact (not_unnamed_parseResponse hparse hp).mp (not_unnamed_iff.mpr ⟨v, k, hname, hv⟩)
    have hsplit : ∀ k, (m.extend config).get? k ≠ none → config.get? k ≠ none ∨ m.get? k ≠ none := by
      intro k hget
      rw [OrdMap.get?_extend, ne_eq, Option.or_eq_none_iff, not_and_or] at hget
      exact hget
    rcases hsplit k hget with hc | hm <;> rcases hsplit k' hget' with hc' | hm'
    · exact hconfig k k' p hname hname' hc hc'
    · obtain ⟨rfl, it, hit, hoffset⟩ := hcanonical k' hname' hm'
      exact h it hit k p hname hc hoffset
    · obtain ⟨rfl, it, hit, hoffset⟩ := hcanonical k hname hm
      exact (h it hit k' p hname' hc' hoffset).symm
    · rw [(hcanonical k hname hm).1, (hcanonical k' hname' hm').1]

/-- The condition, said of the prelude. -/
theorem stepSingle_iff {device : Device} {config : Params} (hconfig : OneName config)
    {s : Session (σ × List Bytes)} :
    StepSingle T device config s ↔ (device.mac.isZero = false → ∀ device₁ s₁,
      preludeRead T.recorded device s = (.ok (), device₁, s₁) →
      Sendable (device₁.parameters.extend config) →
      OneName (device₁.parameters.extend config)) := by
  constructor
  · intro h hmac device₁ s₁ hprelude hsend
    rcases preludeRead_ok hprelude with ⟨hne, rfl, _⟩ | ⟨hempty, m, hget, rfl⟩
    · exact h.cached hmac hne hsend
    · obtain ⟨_, reply, payload, hreq, hmethod, hparse⟩ := get_ok hget
      rw [oneName_extend_parseResponse hparse hconfig]
      exact h.read hmac hempty reply payload s₁ m hreq hmethod hparse hsend
  · intro h
    constructor
    · intro hmac hne hsend
      refine h hmac device s ?_ hsend
      rw [preludeRead, if_neg (by rw [OrdMap.isEmpty_iff]; exact hne)]
    · intro hmac hempty reply payload s₁ m hreq hmethod hparse hsend
      rw [← oneName_extend_parseResponse hparse hconfig]
      exact h hmac _ _ (preludeRead_of_reply hmac hempty hreq hmethod hparse) hsend

/-- **One `set`** writes every byte once exactly under its condition. -/
theorem setWrites_once {config : Params} (hconfig : OneName config) :
    SetWrites T WritesOnce (StepSingle T) (fun _ => True) config := by
  intro device s
  obtain ⟨sent, hsent, hiff⟩ := set_allWrites_iff (T := T) describes_oneName device config s
  refine ⟨sent, hsent, fun _ => ⟨?_, fun _ => trivial⟩⟩
  rw [hiff, stepSingle_iff hconfig]

/-! ## Runs -/

/--
**No byte is written twice** by one request, in a run of reads and writes on one handle where no
`config` names a parameter twice, whatever the transport and the peer do, exactly if every `set`
meets its condition.
-/
theorem run_writesOnce_iff (calls : List Call) (device : Device) (s : Session (σ × List Bytes))
    (hcalls : ∀ call ∈ calls, ReadsOrWrites call)
    (hconfig : ∀ config, Call.set config ∈ calls → OneName config) :
    ∃ sent, (runCalls T.recorded device s calls).2.log = s.log ++ sent ∧
      (AllWrites WritesOnce sent ↔ RunMeets T (StepSingle T) device s calls) := by
  obtain ⟨sent, hsent, hiff⟩ := run_allWrites_iff (T := T) (fun _ => True)
    (fun _ _ _ => trivial) calls hcalls (fun config hc => setWrites_once (hconfig config hc)) device s
  exact ⟨sent, hsent, hiff trivial⟩

/-! ## Runs against a script -/

theorem runCalls_set (device : Device) (s : Session (σ × List Bytes)) (config : Params) :
    (runCalls T.recorded device s [.set config]).2 = (set T.recorded device config s).2.2 := rfl

/-- A write under the canonical name, over an image of zeros. -/
theorem run_writesOnce_iff_canonical :
    ∃ sent, (runCalls Script.transport.recorded (Device.withMac (Mac.auto 1))
        (imageSession blankImage) [.set (single "server_address" "10.0.0.1")]).2.log
        = (imageSession blankImage).log ++ sent ∧
      (AllWrites WritesOnce sent ↔ RunMeets Script.transport (StepSingle Script.transport)
        (Device.withMac (Mac.auto 1)) (imageSession blankImage)
        [.set (single "server_address" "10.0.0.1")]) :=
  run_writesOnce_iff _ _ _ (by simp [ReadsOrWrites]) (by
    intro config hconfig
    cases List.mem_singleton.mp hconfig
    exact oneName_single _ _)

/-- **An alias is written next to the value that was read.** -/
theorem set_writesTwice_alias : OneName (single "slimserver_address" "10.0.0.1") ∧
    ¬ AllWrites WritesOnce (runCalls Script.transport.recorded (Device.withMac (Mac.auto 1))
      (imageSession blankImage) [.set (single "slimserver_address" "10.0.0.1")]).2.log := by
  refine ⟨oneName_single _ _, fun h => ?_⟩
  have hserver : (⟨"server_address", 71, 4, "0.0.0.0"⟩ : Parameter) ∈ parameters := by
    decide +kernel
  have halias : byName "slimserver_address" = some ⟨"server_address", 71, 4, "0.0.0.0"⟩ := rfl
  have hencodes : Encodable (single "slimserver_address" "10.0.0.1") :=
    encodable_single halias (b := [10, 0, 0, 1]) (by decide +kernel)
  obtain ⟨m, body, _, hget, hbody, hlog⟩ := log_set_image (by decide) rfl isImage_blankImage
    (carriesImage_imageItems isImage_blankImage) (request_imageSession blankImage) rfl hencodes
  rw [runCalls_set, hlog, allWrites_append, allWrites_replicate_succ (isSetDataPacket_packet _ _ _ _),
    describes_oneName _ _ _ _ hbody] at h
  -- the map has both names
  have hsame : "slimserver_address" = "server_address" := by
    refine h.2 _ _ _ halias (byName_name _ hserver) ?_ ?_
    · rw [OrdMap.get?_extend]
      simp [single, OrdMap.get?_insert]
    · rw [OrdMap.get?_extend, hget _ hserver]
      simp
  exact absurd hsame (by decide)

end Udap
