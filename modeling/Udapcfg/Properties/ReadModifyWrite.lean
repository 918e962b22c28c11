import Udapcfg.Properties.Overlay
import Udapcfg.Udap.Ops.Recorded

/-!
# Read, modify, write

A `set` on a fresh handle reads an image of the NVRAM and writes it back with the configuration over
it. Strings are rendered up to their first NUL, so what lies behind it is lost.

* `canonicalFor_parseResponse` — a decoded reply has no aliases among its keys
* `bytesAt_set` — what is written at the offset of a parameter that was not named
* `set_preserves_iff` — the image survives exactly if its strings are padded with NULs
-/

namespace Udap

open Infra

/-! ## Strings and their padding -/

/-- The width of a number or an address, not of a string. -/
def Parameter.IsNumeric (p : Parameter) : Prop := p.length = 1 ∨ p.length = 2 ∨ p.length = 4

/-- From the first zero byte on there are only zero bytes. -/
def NulPadded (b : Bytes) : Prop := ∀ x ∈ b.dropWhile (· ≠ 0), x = 0

theorem takeWhile_append_zeros_eq_iff (b : Bytes) :
    b.takeWhile (· ≠ 0) ++ zeros (b.length - (b.takeWhile (· ≠ 0)).length) = b ↔ NulPadded b := by
  have hsplit := List.takeWhile_append_dropWhile (p := fun x : UInt8 => decide (x ≠ 0)) (l := b)
  have hlen : b.length - (b.takeWhile (· ≠ 0)).length = (b.dropWhile (· ≠ 0)).length := by
    have := congrArg List.length hsplit
    rw [List.length_append] at this
    omega
  rw [hlen, NulPadded]
  constructor
  · intro h x hx
    have hdrop : zeros (b.dropWhile (· ≠ 0)).length = b.dropWhile (· ≠ 0) :=
      List.append_cancel_left (h.trans hsplit.symm)
    rw [← hdrop] at hx
    exact List.eq_of_mem_replicate hx
  · intro h
    rw [zeros, ← List.eq_replicate_iff.mpr ⟨rfl, h⟩]
    exact hsplit

/-- **What a rendering keeps**: everything of a number, and of a string what is NUL-padded. -/
theorem normalize_eq_iff {p : Parameter} {b : Bytes} (hb : b.length = p.length.toNat) :
    p.normalize b = b ↔ p.IsNumeric ∨ NulPadded b := by
  by_cases hnum : p.IsNumeric
  · exact iff_of_true (if_pos hnum) (Or.inl hnum)
  · rw [Parameter.normalize_of_string hb hnum, ← hb, takeWhile_append_zeros_eq_iff,
      or_iff_right hnum]

/-! ## The cache after the prelude -/

theorem isSynthetic_knownNames : ∀ k ∈ knownNames, GetData.isSynthetic k = false := by
  decide +kernel

/-- A decoded reply names parameters by their canonical names only. -/
theorem canonicalFor_parseResponse {data : Bytes} {m : Params}
    (h : GetData.parseResponse data = .ok m) (p : Parameter) : CanonicalFor m p := by
  intro k hname hget
  obtain ⟨it, _, hit⟩ := GetData.parseResponse_keys h hget
  rcases GetData.itemEntry_key it with ⟨q, hq, _, hkey⟩ | hsynthetic
  · rw [← hit, hkey] at hname ⊢
    rw [byName_name q hq] at hname
    rw [Option.some.inj hname]
  · rw [hit, isSynthetic_knownNames k (mem_knownNames hname)] at hsynthetic
    simp at hsynthetic

/-- The value of every parameter: exactly as many bytes as the table says. -/
def IsImage (image : Parameter → Bytes) : Prop :=
  ∀ p ∈ parameters, (image p).length = p.length.toNat

/-- The items of a response that carries an image, each offset once. -/
structure CarriesImage (items : List Item) (image : Parameter → Bytes) : Prop where
  value : ∀ p ∈ parameters, (p.offset, image p) ∈ items
  nodup : (items.map Prod.fst).Nodup
  count : items.length < 65536
  fit : ∀ it ∈ items, it.2.length < 65536

/-- The payload of a response with these items. -/
def responsePayload (items : List Item) : Bytes :=
  u16ToBe (u16OrMax items.length) ++ encodeItems items

/-- **The cache holds the rendering of the image.** -/
theorem parseResponse_image {items : List Item} {image : Parameter → Bytes}
    (h : CarriesImage items image) :
    ∃ m, GetData.parseResponse (responsePayload items) = .ok m ∧
      ∀ p ∈ parameters, m.get? p.name = some (GetData.formatValue (image p)) := by
  have hparse := GetData.parseResponse_encodeItems h.count h.fit []
  rw [List.append_nil] at hparse
  refine ⟨_, hparse, ?_⟩
  intro p hp
  rw [OrdMap.get?_insertAll, OrdMap.get?_empty, Option.or_none]
  refine OrdMap.lookup_of_forall ?_ ?_
  · rw [List.mem_reverse, List.mem_map]
    exact ⟨_, h.value p hp, GetData.itemEntry_of_byOffset (byOffset_offset p hp)⟩
  · intro e he hname
    rw [List.mem_reverse, List.mem_map] at he
    obtain ⟨it, hit, rfl⟩ := he
    -- an item under this name has this offset, and there is only one
    rcases GetData.itemEntry_key it with ⟨q, hq, hoff, hkey⟩ | hsynthetic
    · have hqp : q = p := eq_of_name_eq hq hp (hkey.symm.trans hname)
      rw [hqp] at hoff
      have hsame : it = (p.offset, image p) :=
        List.inj_on_of_nodup_map h.nodup hit (h.value p hp) hoff.symm
      rw [hsame, GetData.itemEntry_of_byOffset (byOffset_offset p hp)]
    · rw [hname, GetData.isSynthetic_name _ (mem_names_iff.mpr ⟨p, hp, rfl⟩)] at hsynthetic
      simp at hsynthetic

/-! ## What is written -/

/-- The values a `SetData` packet carries at an offset. -/
def bytesAt (packet : Bytes) (offset : UInt16) : List Bytes :=
  match Packet.fromBytes packet with
  | .ok (_, body) => ((writtenItems body).filter fun it => it.1 = offset).map Prod.snd
  | .error _ => []

theorem bytesAt_packet {σ : Type} (device : Device) (body : Bytes) (s : Session σ)
    (offset : UInt16) : bytesAt (s.packet device Method.setData body) offset
      = ((writtenItems body).filter fun it => it.1 = offset).map Prod.snd := by
  rw [bytesAt, Session.fromBytes_packet]

/-- **At the offset of a parameter that is not named** there is its image, normalized, once. -/
theorem bytesAt_set {m config : Params} {body image : Bytes} {p : Parameter} (hp : p ∈ parameters)
    (hcanonical : CanonicalFor m p) (hunnamed : Unnamed config p)
    (himage : image.length = p.length.toNat)
    (hget : m.get? p.name = some (GetData.formatValue image))
    (hbody : setDataPayload (m.extend config) = .ok body) :
    ((writtenItems body).filter fun it => it.1 = p.offset).map Prod.snd = [p.normalize image] := by
  have hcanonical' : CanonicalFor (m.extend config) p :=
    hcanonical.extend fun k hname hne => absurd (hunnamed k hname) hne
  have hget' : (m.extend config).get? p.name = some (GetData.formatValue image) := by
    rw [OrdMap.get?_extend, hunnamed p.name (byName_name p hp), Option.none_or, hget]
  rw [filter_writtenItems hbody hp, filter_knownItems,
    filter_resolved_of_canonical hp hcanonical' hget']
  have hencode := Parameter.encode_formatValue himage
  simp only [List.map_cons, List.map_nil, wireItem,
    encodedBytes_of_ok (e := (p, GetData.formatValue image)) hencode]

/-- Rendered values encode. -/
theorem encodable_image {m : Params} {image : Parameter → Bytes} (himage : IsImage image)
    (hcanonical : ∀ p, CanonicalFor m p)
    (hget : ∀ p ∈ parameters, m.get? p.name = some (GetData.formatValue (image p))) :
    Encodable m := by
  intro k v p hv hname
  have hp := byName_mem hname
  have hk := hcanonical p k hname (by rw [hv]; simp)
  rw [hk, hget p hp] at hv
  cases hv
  exact ⟨_, Parameter.encode_formatValue (himage p hp)⟩

/-! ## The whole `set` -/

variable {σ : Type} {T : Transport σ}

/-- What a `set` on a fresh handle sends, whose prelude read brought an image. -/
theorem log_set_image {device : Device} (hmac : device.mac.isZero = false)
    (hfresh : device.parameters = OrdMap.empty) {s s₁ : Session (σ × List Bytes)} {reply : Packet}
    {items : List Item} {image : Parameter → Bytes} (himage : IsImage image)
    (hitems : CarriesImage items image)
    (hreq : s.request T.recorded device Method.getData (.ok (getDataPayload names))
      = (.ok (reply, responsePayload items), s₁))
    (hmethod : reply.ucpMethod = Method.getData) {config : Params} (hencodes : Encodable config) :
    ∃ m body, GetData.parseResponse (responsePayload items) = .ok m ∧
      (∀ p ∈ parameters, m.get? p.name = some (GetData.formatValue (image p))) ∧
      setDataPayload (m.extend config) = .ok body ∧
      (set T.recorded device config s).2.2.log = s₁.log ++ List.replicate (s₁.retries + 1)
        (s₁.packet { device with parameters := m } Method.setData body) := by
  obtain ⟨m, hparse, hget⟩ := parseResponse_image hitems
  have hcanonical := canonicalFor_parseResponse hparse
  obtain ⟨body, hbody⟩ := setDataPayload_isOk_iff.mpr
    ((encodable_image himage hcanonical hget).extend hencodes)
  have hprelude := preludeRead_of_reply hmac hfresh hreq hmethod hparse
  exact ⟨m, body, hparse, hget, hbody, log_set hmac hprelude hbody⟩

/--
**When an image survives.** A `set` on a fresh handle whose prelude read brought an image sends one
packet, `retries + 1` times. It carries the image at every parameter that is not named exactly if
the strings among these are NUL-padded.
-/
theorem set_preserves_iff {device : Device} (hmac : device.mac.isZero = false)
    (hfresh : device.parameters = OrdMap.empty) {s s₁ : Session (σ × List Bytes)} {reply : Packet}
    {items : List Item} {image : Parameter → Bytes} (himage : IsImage image)
    (hitems : CarriesImage items image)
    (hreq : s.request T.recorded device Method.getData (.ok (getDataPayload names))
      = (.ok (reply, responsePayload items), s₁))
    (hmethod : reply.ucpMethod = Method.getData) {config : Params} (hencodes : Encodable config) :
    ∃ packet, (set T.recorded device config s).2.2.log
        = s₁.log ++ List.replicate (s₁.retries + 1) packet ∧
      isSetDataPacket packet = true ∧
      ((∀ p ∈ parameters, Unnamed config p → bytesAt packet p.offset = [image p]) ↔
        ∀ p ∈ parameters, Unnamed config p → p.IsNumeric ∨ NulPadded (image p)) := by
  obtain ⟨m, body, hparse, hget, hbody, hlog⟩ :=
    log_set_image hmac hfresh himage hitems hreq hmethod hencodes
  have hcanonical := canonicalFor_parseResponse hparse
  refine ⟨_, hlog, isSetDataPacket_packet _ _ _ _, ?_⟩
  have hwritten : ∀ p ∈ parameters, Unnamed config p →
      (bytesAt (s₁.packet { device with parameters := m } Method.setData body) p.offset
        = [image p] ↔ p.IsNumeric ∨ NulPadded (image p)) := by
    intro p hp hunnamed
    rw [bytesAt_packet, bytesAt_set hp (hcanonical p) hunnamed (himage p hp) (hget p hp) hbody,
      ← normalize_eq_iff (himage p hp)]
    simp
  constructor
  · exact fun h p hp hunnamed => (hwritten p hp hunnamed).mp (h p hp hunnamed)
  · exact fun h p hp hunnamed => (hwritten p hp hunnamed).mpr (h p hp hunnamed)

/-! ## Runs -/

/-- The items of a response to `get_all`, in table order. -/
def imageItems (image : Parameter → Bytes) : List Item :=
  parameters.map fun p => (p.offset, image p)

theorem carriesImage_imageItems {image : Parameter → Bytes} (h : IsImage image) :
    CarriesImage (imageItems image) image where
  value := fun _ hp => List.mem_map_of_mem hp
  nodup := by rw [imageItems, List.map_map]; exact offsets_nodup
  count := by rw [imageItems, List.length_map]; decide
  fit := by
    intro it hit
    obtain ⟨p, hp, rfl⟩ := List.mem_map.mp hit
    rw [h p hp]
    exact p.length.toNat_lt

/-- The header of the response. -/
def imageHeader : Packet := replyHeader (Mac.auto 1) Method.getData

/-- A session in which the first reply is the response that carries the image. -/
def imageSession (image : Parameter → Bytes) : Session (Script × List Bytes) :=
  ⟨(⟨[], [.ok (imageHeader.toBytes ++ responsePayload (imageItems image), "")]⟩, []), 0, 0⟩

theorem request_imageSession (image : Parameter → Bytes) :
    (imageSession image).request Script.transport.recorded (Device.withMac (Mac.auto 1))
        Method.getData (.ok (getDataPayload names))
      = (.ok (imageHeader, responsePayload (imageItems image)),
        ⟨(⟨[], []⟩, [(imageSession image).packet (Device.withMac (Mac.auto 1)) Method.getData
          (getDataPayload names)]), 0, 1⟩) := by
  have haccept : Session.accept (Device.withMac (Mac.auto 1))
      (imageHeader.toBytes ++ responsePayload (imageItems image), "")
        = some (imageHeader, responsePayload (imageItems image)) := by
    rw [Session.accept, Packet.fromBytes_toBytes rfl]
    rfl
  have hsend : Session.sendRetried Script.transport.recorded
        ((imageSession image).packet (Device.withMac (Mac.auto 1)) Method.getData
          (getDataPayload names))
        ((imageSession image).header (Mac.auto 1) Method.getData false).2
      = (.ok (), ⟨(⟨[], [.ok (imageHeader.toBytes ++ responsePayload (imageItems image), "")]⟩,
        [(imageSession image).packet (Device.withMac (Mac.auto 1)) Method.getData
          (getDataPayload names)]), 0, 1⟩) := rfl
  unfold Session.packet at hsend
  unfold Session.request
  simp only [Device.withMac] at hsend haccept ⊢
  rw [hsend]
  simp only
  rw [Session.waitForReply_eq]
  simp only [Transport.recorded, Script.transport, haccept]
  rfl

/-- Zeros everywhere. -/
def blankImage (p : Parameter) : Bytes := zeros p.length.toNat

theorem isImage_blankImage : IsImage blankImage := fun _ _ => length_zeros _

/-- No zeros but those that pad the name of the device. -/
def usedImage (p : Parameter) : Bytes :=
  if p.name = "hostname" then strBytes "kitchen" ++ zeros 26 else List.replicate p.length.toNat 49

theorem isImage_usedImage : IsImage usedImage := by
  unfold IsImage
  decide +kernel

/-- An image of a device in use survives a `set` of another name for it. -/
theorem set_preserves_iff_used :
    ∃ packet, (set Script.transport.recorded (Device.withMac (Mac.auto 1))
        (single "hostname" "den") (imageSession usedImage)).2.2.log
        = [(imageSession usedImage).packet (Device.withMac (Mac.auto 1)) Method.getData
          (getDataPayload names)] ++ List.replicate 1 packet ∧
      isSetDataPacket packet = true ∧
      ((∀ p ∈ parameters, Unnamed (single "hostname" "den") p →
          bytesAt packet p.offset = [usedImage p]) ↔
        ∀ p ∈ parameters, Unnamed (single "hostname" "den") p →
          p.IsNumeric ∨ NulPadded (usedImage p)) :=
  set_preserves_iff (by decide) rfl isImage_usedImage (carriesImage_imageItems isImage_usedImage)
    (request_imageSession usedImage) rfl (encodable_single byName_hostname rfl)

/-- Zeros everywhere but in a WEP key, whose second byte is zero and whose third is not. -/
def wepImage (p : Parameter) : Bytes :=
  if p.name = "wireless_wep_key" then 1 :: 0 :: 2 :: zeros 10 else zeros p.length.toNat

/-- **A raw WEP key is cut at its first zero byte.** -/
theorem set_loses_wepKey :
    (set Script.transport.recorded (Device.withMac (Mac.auto 1)) OrdMap.empty
        (imageSession wepImage)).2.2.log.getLast?.map
          (fun packet => (isSetDataPacket packet, bytesAt packet 222))
        = some (true, [1 :: 0 :: 0 :: zeros 10]) ∧
      IsImage wepImage ∧
      wepImage ⟨"wireless_wep_key", 222, 13, ""⟩ = 1 :: 0 :: 2 :: zeros 10 := by
  have himage : IsImage wepImage := by
    unfold IsImage
    decide +kernel
  have hkey : (⟨"wireless_wep_key", 222, 13, ""⟩ : Parameter) ∈ parameters := by decide +kernel
  refine ⟨?_, himage, by decide +kernel⟩
  have hnothing : Encodable OrdMap.empty := fun _ _ _ hget _ => absurd hget (by simp)
  obtain ⟨m, body, hparse, hget, hbody, hlog⟩ := log_set_image (by decide) rfl himage
    (carriesImage_imageItems himage) (request_imageSession wepImage) rfl hnothing
  rw [hlog, List.getLast?_append, List.getLast?_replicate]
  simp only [Nat.add_one_ne_zero, if_false, Option.some_or, Option.map_some,
    isSetDataPacket_packet, bytesAt_packet]
  rw [bytesAt_set hkey (canonicalFor_parseResponse hparse _) (fun _ _ => rfl) (himage _ hkey)
    (hget _ hkey) hbody]
  decide +kernel

end Udap
