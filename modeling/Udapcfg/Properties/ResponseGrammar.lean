import Udapcfg.Infra.Ascii
import Udapcfg.Udap.GetData

/-!
# The grammar of `GetData` responses

A response is a count and that many items, with any tail. `parseResponse` accepts these and nothing
else, and on anything else its error is about the first item that does not fit.

* `parseResponse_ok_iff`, `parseResponse_error_iff` — what is accepted, and what is reported
* `get?_insertAll_itemEntry` — a later item for the same offset replaces an earlier one
* `parseResponseChecked_eq` — no access is out of bounds
-/

namespace Udap

open Infra

namespace GetData

/-! ## The grammar -/

/-- A count, that many complete items, and a tail. -/
structure IsResponse (data : Bytes) (items : List Item) (tail : Bytes) : Prop where
  fits : ∀ it ∈ items, it.2.length < 65536
  bytes : ∃ count : UInt16, items.length = count.toNat ∧
    data = u16ToBe count ++ (encodeItems items ++ tail)

/-- What is wrong with a payload: how the first item that is not complete fails to fit. -/
inductive Misfit (data : Bytes) : GetDataError → Prop
  | payloadTooShort (h : data.length < 2) : Misfit data (.payloadTooShort data.length)
  | truncatedHeader {count : UInt16} {items : List Item} {rest : Bytes}
      (bytes : data = u16ToBe count ++ (encodeItems items ++ rest))
      (fits : ∀ it ∈ items, it.2.length < 65536) (more : items.length < count.toNat)
      (short : rest.length < 4) :
      Misfit data (.truncatedHeader items.length (2 + (encodeItems items).length))
  | itemExceedsPayload {count offset length : UInt16} {items : List Item} {rest : Bytes}
      (bytes : data = u16ToBe count ++
        (encodeItems items ++ (u16ToBe offset ++ (u16ToBe length ++ rest))))
      (fits : ∀ it ∈ items, it.2.length < 65536) (more : items.length < count.toNat)
      (short : rest.length < length.toNat) :
      Misfit data (.itemExceedsPayload items.length offset length rest.length)

/-! ## The loop over complete items -/

/-- Complete items are inserted, and the loop goes on behind them. -/
theorem parseLoop_encodeItems (data : Bytes) (n : Nat) (items : List Item) (index pos : Nat)
    (out : Params) (rest : Bytes) (hfits : ∀ it ∈ items, it.2.length < 65536)
    (hdrop : data.drop pos = encodeItems items ++ rest) :
    parseLoop data (items.length + n) index pos out
      = parseLoop data n (index + items.length) (pos + (encodeItems items).length)
        (out.insertAll (items.map itemEntry)) := by
  induction items generalizing index pos out with
  | nil =>
    show parseLoop data (0 + n) index pos out = parseLoop data n index pos out
    rw [Nat.zero_add]
  | cons it items ih =>
    -- the first item is read at `pos`
    have hread := takeItem_drop data pos
    rw [hdrop, encodeItems_cons, List.append_assoc,
      takeItem_encodeItem (hfits it List.mem_cons_self)] at hread
    rw [List.length_cons, Nat.add_right_comm, parseLoop]
    split at hread
    · cases hread
    · next h4 =>
      split at hread
      · cases hread
      · next hlen =>
        obtain ⟨hit, hrest⟩ := Prod.mk.inj (Option.some.inj hread)
        have hwidth : (u16At data (pos + 2)).toNat = it.2.length := by
          rw [hit, length_slice (by omega)]
        have hlength : (encodeItem it).length = 4 + it.2.length := by
          simp only [encodeItem, List.length_append, length_u16ToBe]
          omega
        have hnext := ih (index + 1) (pos + 4 + (u16At data (pos + 2)).toNat)
          (out.insert (itemEntry it).1 (itemEntry it).2)
          (fun x hx => hfits x (List.mem_cons_of_mem it hx)) hrest.symm
        simp only [if_neg h4, if_neg hlen, ← hit]
        rw [hnext, hwidth, encodeItems_cons, List.length_append, hlength, List.map_cons]
        show parseLoop data n _ _ _ = parseLoop data n _ _ _
        congr 1 <;> omega

/-- Past the count, the loop is at the items. -/
theorem parseResponse_encodeItems_append {count : UInt16} {items : List Item} {rest data : Bytes}
    (hbytes : data = u16ToBe count ++ (encodeItems items ++ rest))
    (hfits : ∀ it ∈ items, it.2.length < 65536) {n : Nat} (hcount : count.toNat = items.length + n) :
    parseResponse data = parseLoop data n items.length (2 + (encodeItems items).length)
        (OrdMap.empty.insertAll (items.map itemEntry)) ∧
      data.drop (2 + (encodeItems items).length) = rest := by
  have hcnt : u16At data 0 = count := by
    rw [hbytes]
    exact (u16At_eq rfl).trans (u16FromBe_toBe _)
  have hdrop : data.drop 2 = encodeItems items ++ rest := by
    rw [hbytes]
    rfl
  have hlen : ¬ data.length < 2 := by
    rw [hbytes, List.length_append, length_u16ToBe]
    omega
  constructor
  · rw [parseResponse, if_neg hlen, hcnt, hcount, parseLoop_encodeItems data n items 0 2 _ rest hfits
      hdrop, Nat.zero_add]
  · rw [← List.drop_drop, hdrop, List.drop_left]

/-! ## What is accepted and what is not -/

theorem parseResponse_of_isResponse {data tail : Bytes} {items : List Item}
    (h : IsResponse data items tail) :
    parseResponse data = .ok (OrdMap.empty.insertAll (items.map itemEntry)) := by
  obtain ⟨count, hcount, hbytes⟩ := h.bytes
  rw [(parseResponse_encodeItems_append (n := 0) hbytes h.fits hcount.symm).1, parseLoop]

theorem parseResponse_of_misfit {data : Bytes} {e : GetDataError} (h : Misfit data e) :
    parseResponse data = .error e := by
  cases h with
  | payloadTooShort h => rw [parseResponse, if_pos h]
  | @truncatedHeader count items rest bytes fits more short =>
    obtain ⟨n, hn⟩ : ∃ n, count.toNat = items.length + (n + 1) := ⟨count.toNat - items.length - 1, by
      omega⟩
    obtain ⟨hparse, hdrop⟩ := parseResponse_encodeItems_append bytes fits hn
    have hlen := congrArg List.length hdrop
    rw [List.length_drop] at hlen
    rw [hparse, parseLoop, if_pos (by omega)]
  | @itemExceedsPayload count offset length items rest bytes fits more short =>
    obtain ⟨n, hn⟩ : ∃ n, count.toNat = items.length + (n + 1) := ⟨count.toNat - items.length - 1, by
      omega⟩
    obtain ⟨hparse, hdrop⟩ := parseResponse_encodeItems_append bytes fits hn
    have hdrop2 : data.drop (2 + (encodeItems items).length + 2) = u16ToBe length ++ rest := by
      rw [← List.drop_drop, hdrop]
      rfl
    have hoffset : u16At data (2 + (encodeItems items).length) = offset :=
      (u16At_eq hdrop).trans (u16FromBe_toBe _)
    have hlength : u16At data (2 + (encodeItems items).length + 2) = length :=
      (u16At_eq hdrop2).trans (u16FromBe_toBe _)
    have hlen := congrArg List.length hdrop
    rw [List.length_drop] at hlen
    simp only [List.length_append, length_u16ToBe] at hlen
    rw [hparse, parseLoop, if_neg (by omega), hoffset, hlength]
    simp only
    rw [if_pos (by omega)]
    congr 2
    omega

/-- **Every payload** is a response or has a misfit. -/
theorem isResponse_or_misfit (data : Bytes) :
    (∃ items tail, IsResponse data items tail) ∨ ∃ e, Misfit data e := by
  by_cases hshort : data.length < 2
  · exact Or.inr ⟨_, .payloadTooShort hshort⟩
  · have hdata : data = u16ToBe (u16At data 0) ++ data.drop 2 :=
      (u16ToBe_u16At_append (show 0 + 2 ≤ data.length by omega)).symm
    obtain ⟨rest, hrest, hfits, hle, hstop⟩ := takeItems_spec (u16At data 0).toNat (data.drop 2)
    rw [hrest] at hdata
    rcases Nat.lt_or_eq_of_le hle with hlt | heq
    · -- the items end early, at a header that is cut or a value that is
      refine Or.inr ?_
      have hread := hstop hlt
      by_cases h4 : rest.length < 4
      · exact ⟨_, .truncatedHeader hdata hfits hlt h4⟩
      · have hsplit : rest = u16ToBe (u16At rest 0) ++ (u16ToBe (u16At rest 2) ++ rest.drop 4) := by
          rw [u16ToBe_u16At_append (by omega)]
          exact (u16ToBe_u16At_append (show 0 + 2 ≤ rest.length by omega)).symm
        have hvalue : (rest.drop 4).length < (u16At rest 2).toNat := by
          have hpos := takeItem_drop rest 0
          rw [List.drop_zero, hread, if_neg (by omega), Nat.zero_add, Nat.zero_add] at hpos
          split at hpos
          · next hcut =>
            rw [List.length_drop]
            omega
          · cases hpos
        rw [hsplit] at hdata
        exact ⟨_, .itemExceedsPayload hdata hfits hlt hvalue⟩
    · exact Or.inl ⟨_, rest, hfits, _, heq, hdata⟩

/-- **What is accepted**: the responses, read item by item. -/
theorem parseResponse_ok_iff {data : Bytes} {m : Params} : parseResponse data = .ok m ↔
    ∃ items tail, IsResponse data items tail ∧
      m = OrdMap.empty.insertAll (items.map itemEntry) := by
  constructor
  · intro h
    rcases isResponse_or_misfit data with ⟨items, tail, hresp⟩ | ⟨e, he⟩
    · rw [parseResponse_of_isResponse hresp] at h
      exact ⟨items, tail, hresp, (Except.ok.inj h).symm⟩
    · rw [parseResponse_of_misfit he] at h
      cases h
  · rintro ⟨items, tail, hresp, rfl⟩
    exact parseResponse_of_isResponse hresp

/-- **What is reported**: the first item that does not fit. -/
theorem parseResponse_error_iff {data : Bytes} {e : GetDataError} :
    parseResponse data = .error e ↔ Misfit data e := by
  constructor
  · intro h
    rcases isResponse_or_misfit data with ⟨items, tail, hresp⟩ | ⟨e', he⟩
    · rw [parseResponse_of_isResponse hresp] at h
      cases h
    · rw [parseResponse_of_misfit he] at h
      cases h
      exact he
  · exact parseResponse_of_misfit

/-! ## Last item wins -/

/-- A synthetic key spells out the offset. -/
theorem strBytes_syntheticKey (offset : UInt16) :
    strBytes (syntheticKey offset) = strBytes "offset_" ++ decimal offset.toNat := by
  have hdigits : strBytes (toString offset.toNat) = decimal offset.toNat := by
    show strBytes (String.ofList (Nat.toDigits 10 offset.toNat)) = _
    refine strBytes_ofList fun c hc => ?_
    have hdigit := toNat_ofNat_digit (Nat.isDigit_of_mem_toDigits (by decide) (by decide) hc)
    omega
  rw [syntheticKey, strBytes_append, hdigits]

theorem syntheticKey_injective : Function.Injective syntheticKey := by
  intro offset offset' h
  have hbytes := congrArg strBytes h
  rw [strBytes_syntheticKey, strBytes_syntheticKey, List.append_cancel_left_eq] at hbytes
  exact UInt16.toNat_inj.mp (decimal_injective hbytes)

/-- The key of an entry tells the offset of its item. -/
theorem itemEntry_key_eq_iff {it it' : Item} :
    (itemEntry it).1 = (itemEntry it').1 ↔ it.1 = it'.1 := by
  constructor
  · intro h
    cases hp : byOffset it.1 with
    | some p =>
      obtain ⟨hmem, hoff⟩ := byOffset_eq_some hp
      rw [itemEntry_of_byOffset hp] at h
      cases hp' : byOffset it'.1 with
      | some p' =>
        obtain ⟨hmem', hoff'⟩ := byOffset_eq_some hp'
        rw [itemEntry_of_byOffset hp'] at h
        rw [← hoff, ← hoff', eq_of_name_eq hmem hmem' h]
      | none =>
        -- a table name is not synthetic
        have hname := isSynthetic_name p.name (mem_names_iff.mpr ⟨p, hmem, rfl⟩)
        simp only [itemEntry, hp'] at h
        rw [h, isSynthetic_syntheticKey] at hname
        cases hname
    | none =>
      cases hp' : byOffset it'.1 with
      | some p' =>
        obtain ⟨hmem', _⟩ := byOffset_eq_some hp'
        have hname := isSynthetic_name p'.name (mem_names_iff.mpr ⟨p', hmem', rfl⟩)
        rw [itemEntry_of_byOffset hp'] at h
        simp only [itemEntry, hp] at h
        rw [← h, isSynthetic_syntheticKey] at hname
        cases hname
      | none =>
        simp only [itemEntry, hp, hp'] at h
        exact syntheticKey_injective h
  · intro h
    unfold itemEntry
    rw [h]
    cases byOffset it'.1 <;> rfl

/-- **The last item for an offset** is the one whose value is kept. -/
theorem get?_insertAll_itemEntry (items : List Item) (it : Item) :
    (OrdMap.empty.insertAll (items.map itemEntry)).get? (itemEntry it).1
      = ((items.filter fun x => x.1 = it.1).getLast?).map fun x => (itemEntry x).2 := by
  have hkey : ∀ x ∈ items, ((itemEntry x).1 = (itemEntry it).1 ↔ x.1 = it.1) :=
    fun _ _ => itemEntry_key_eq_iff
  rw [OrdMap.get?_insertAll, OrdMap.get?_empty, Option.or_none, OrdMap.lookup_reverse,
    List.filter_map, List.getLast?_map, Option.map_map]
  have hfilter : items.filter ((fun e : String × Bytes => decide (e.1 = (itemEntry it).1)) ∘ itemEntry)
      = items.filter fun x => x.1 = it.1 := by
    refine List.filter_congr ?_
    intro x hx
    simpa using hkey x hx
  rw [hfilter]
  rfl

/-! ## Bounds -/

/-- The index an error reports, if it is about an item. -/
def failingIndex : GetDataError → Option Nat
  | .payloadTooShort _ => none
  | .truncatedHeader index _ => some index
  | .itemExceedsPayload index _ _ _ => some index

theorem four_mul_length_le (items : List Item) : 4 * items.length ≤ (encodeItems items).length := by
  induction items with
  | nil => exact Nat.le_refl _
  | cons it items ih =>
    rw [encodeItems_cons, List.length_append, List.length_cons, encodeItem]
    simp only [List.length_append, length_u16ToBe]
    omega

/-- However many items a payload declares, the failing one is near the end of what is there. -/
theorem failingIndex_le {data : Bytes} {e : GetDataError} {index : Nat} (h : Misfit data e)
    (hindex : failingIndex e = some index) : index ≤ (data.length - 2) / 4 := by
  have hfour : ∀ {items : List Item} {count : UInt16} {rest : Bytes},
      data = u16ToBe count ++ (encodeItems items ++ rest) → items.length ≤ (data.length - 2) / 4 := by
    intro items count rest hbytes
    have hlen := four_mul_length_le items
    rw [hbytes, List.length_append, List.length_append, length_u16ToBe]
    omega
  cases h with
  | payloadTooShort => cases hindex
  | truncatedHeader bytes =>
    cases hindex
    exact hfour bytes
  | itemExceedsPayload bytes =>
    cases hindex
    exact hfour bytes

/-- `u16::from_be_bytes([data[pos], data[pos + 1]])`: `none` where the indexing panics. -/
def checkedU16 (data : Bytes) (pos : Nat) : Option UInt16 := do
  let hi ← data[pos]?
  let lo ← data[pos + 1]?
  return u16FromBe hi lo

/-- `&data[start..stop]`. -/
def checkedSlice (data : Bytes) (start stop : Nat) : Option Bytes :=
  if start ≤ stop ∧ stop ≤ data.length then some ((data.drop start).take (stop - start)) else none

/-- `a - b` on `usize`. -/
def checkedSub (a b : Nat) : Option Nat := if b ≤ a then some (a - b) else none

/-- The loop of `parse_response` with every access checked. -/
def parseLoopChecked (data : Bytes) : Nat → Nat → Nat → Params →
    Option (Except GetDataError Params)
  | 0, _, _, out => some (.ok out)
  | n + 1, index, pos, out =>
    if data.length < pos + 4 then some (.error (.truncatedHeader index pos))
    else do
      let offset ← checkedU16 data pos
      let length ← checkedU16 data (pos + 2)
      if data.length < pos + 4 + length.toNat then
        let remaining ← checkedSub data.length (pos + 4)
        some (.error (.itemExceedsPayload index offset length remaining))
      else
        let value ← checkedSlice data (pos + 4) (pos + 4 + length.toNat)
        let entry := itemEntry (offset, value)
        parseLoopChecked data n (index + 1) (pos + 4 + length.toNat) (out.insert entry.1 entry.2)

/-- `parse_response` with every access checked. -/
def parseResponseChecked (data : Bytes) : Option (Except GetDataError Params) :=
  if data.length < 2 then some (.error (.payloadTooShort data.length))
  else do
    let count ← checkedU16 data 0
    parseLoopChecked data count.toNat 0 2 OrdMap.empty

theorem checkedU16_of_le {data : Bytes} {pos : Nat} (h : pos + 2 ≤ data.length) :
    checkedU16 data pos = some (u16At data pos) := by
  have hhi : data[pos]? = some (data.getD pos 0) := by
    rw [List.getD_eq_getElem?_getD, List.getElem?_eq_getElem (by omega), Option.getD_some]
  have hlo : data[pos + 1]? = some (data.getD (pos + 1) 0) := by
    rw [List.getD_eq_getElem?_getD, List.getElem?_eq_getElem (by omega), Option.getD_some]
  rw [checkedU16, hhi, hlo]
  rfl

theorem checkedSlice_of_le {data : Bytes} {pos len : Nat} (h : pos + len ≤ data.length) :
    checkedSlice data pos (pos + len) = some (slice data pos len) := by
  rw [checkedSlice, if_pos ⟨Nat.le_add_right _ _, h⟩, Nat.add_sub_cancel_left]
  rfl

theorem parseLoopChecked_eq (data : Bytes) (n index pos : Nat) (out : Params) :
    parseLoopChecked data n index pos out = some (parseLoop data n index pos out) := by
  induction n generalizing index pos out with
  | zero => rfl
  | succ n ih =>
    unfold parseLoopChecked parseLoop
    by_cases h4 : data.length < pos + 4
    · rw [if_pos h4, if_pos h4]
    · rw [if_neg h4, if_neg h4, checkedU16_of_le (by omega), checkedU16_of_le (by omega)]
      show (if data.length < pos + 4 + (u16At data (pos + 2)).toNat then _ else _) = _
      by_cases hlen : data.length < pos + 4 + (u16At data (pos + 2)).toNat
      · simp only [if_pos hlen, checkedSub, if_pos (Nat.not_lt.mp h4)]
        rfl
      · simp only [if_neg hlen, checkedSlice_of_le (Nat.not_lt.mp hlen)]
        exact ih _ _ _

/-- **No access is out of bounds.** -/
theorem parseResponseChecked_eq (data : Bytes) :
    parseResponseChecked data = some (parseResponse data) := by
  unfold parseResponseChecked parseResponse
  by_cases h2 : data.length < 2
  · rw [if_pos h2, if_pos h2]
  · rw [if_neg h2, if_neg h2, checkedU16_of_le (by omega)]
    exact parseLoopChecked_eq data _ _ _ _

/-! ## The whole of it -/

/-- **`parseResponse` accepts exactly the grammar**, on every input. -/
structure ResponseGrammar : Prop where
  ok : ∀ (data : Bytes) (m : Params), parseResponse data = .ok m ↔
    ∃ items tail, IsResponse data items tail ∧ m = OrdMap.empty.insertAll (items.map itemEntry)
  last : ∀ (items : List Item) (it : Item),
    (OrdMap.empty.insertAll (items.map itemEntry)).get? (itemEntry it).1
      = ((items.filter fun x => x.1 = it.1).getLast?).map fun x => (itemEntry x).2
  error : ∀ (data : Bytes) (e : GetDataError), parseResponse data = .error e ↔ Misfit data e
  index : ∀ (data : Bytes) (e : GetDataError) (index : Nat), parseResponse data = .error e →
    failingIndex e = some index → index ≤ (data.length - 2) / 4
  inBounds : ∀ data : Bytes, parseResponseChecked data = some (parseResponse data)

theorem responseGrammar : ResponseGrammar where
  ok _ _ := parseResponse_ok_iff
  last := get?_insertAll_itemEntry
  error _ _ := parseResponse_error_iff
  index _ _ _ h := failingIndex_le (parseResponse_error_iff.mp h)
  inBounds := parseResponseChecked_eq

/-- A count of `0xFFFF` with nothing behind it fails at the first item. -/
example : parseResponse (u16ToBe 0xFFFF) = .error (.truncatedHeader 0 2) := by decide +kernel

end GetData

end Udap
