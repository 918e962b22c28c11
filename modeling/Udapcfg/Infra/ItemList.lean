import Udapcfg.Infra.Bytes
import Udapcfg.Infra.Framing

/-!
# Item lists

The format behind every NVRAM message: items one after another, each a `u16` offset, a `u16`
length and that many bytes. A count stands in front of the list, but not next to the items, so the
readers here take it as an argument.

* `takeItem` reads one item off the front, `takeItems` up to `n` of them
* `takeItems_encodeItems` — a list that was written is read back, whatever follows it
* `takeItem_drop` — the same read, phrased with positions as a loop over a buffer does it
* `itemFraming` — items as a self-delimiting format
-/

namespace Infra

/-- An offset and the bytes stored there. -/
abbrev Item := UInt16 × Bytes

def encodeItem (it : Item) : Bytes :=
  u16ToBe it.1 ++ (u16ToBe (u16OrMax it.2.length) ++ it.2)

def encodeItems (items : List Item) : Bytes := items.flatMap encodeItem

/-- Reads one item and returns what follows it. -/
def takeItem : Bytes → Option (Item × Bytes)
  | a :: b :: c :: d :: rest =>
    let length := (u16FromBe c d).toNat
    if length ≤ rest.length then some ((u16FromBe a b, rest.take length), rest.drop length)
    else none
  | _ => none

/-- Reads up to `n` items and stops at the first that is not complete. -/
def takeItems : Nat → Bytes → List Item
  | 0, _ => []
  | n + 1, data =>
    match takeItem data with
    | none => []
    | some (it, rest) => it :: takeItems n rest

@[simp] theorem encodeItems_nil : encodeItems [] = [] := rfl

@[simp] theorem encodeItems_cons (it : Item) (items : List Item) :
    encodeItems (it :: items) = encodeItem it ++ encodeItems items := List.flatMap_cons

theorem takeItem_encodeItem {it : Item} (h : it.2.length < 65536) (rest : Bytes) :
    takeItem (encodeItem it ++ rest) = some (it, rest) := by
  obtain ⟨offset, value⟩ := it
  have hlength : (u16OrMax value.length).toNat = value.length := toNat_u16OrMax h
  simp only [encodeItem, u16ToBe, List.cons_append, List.nil_append, takeItem, u16FromBe_toBe]
  rw [hlength, if_pos (by simp)]
  simp

/-- Reading an item at a position: the two bounds checks of a loop over a buffer. -/
theorem takeItem_drop (data : Bytes) (pos : Nat) :
    takeItem (data.drop pos) =
      if data.length < pos + 4 then none
      else if data.length < pos + 4 + (u16At data (pos + 2)).toNat then none
      else some ((u16At data pos, slice data (pos + 4) (u16At data (pos + 2)).toNat),
        data.drop (pos + 4 + (u16At data (pos + 2)).toNat)) := by
  have hlen : (data.drop pos).length = data.length - pos := List.length_drop
  match hd : data.drop pos with
  | a :: b :: c :: d :: rest =>
    have hrest : data.drop (pos + 4) = rest := by
      rw [← List.drop_drop, hd]
      rfl
    have hcd : data.drop (pos + 2) = c :: d :: rest := by
      rw [← List.drop_drop, hd]
      rfl
    rw [hd] at hlen
    simp only [List.length_cons] at hlen
    rw [if_neg (by omega), takeItem, u16At_eq hd, u16At_eq hcd, slice, hrest]
    by_cases hle : (u16FromBe c d).toNat ≤ rest.length
    · rw [if_pos hle, if_neg (by omega), ← List.drop_drop, hrest]
    · rw [if_neg hle, if_pos (by omega)]
  | [] | [_] | [_, _] | [_, _, _] =>
    rw [hd] at hlen
    simp only [List.length_cons, List.length_nil] at hlen
    rw [if_pos (by omega)]
    rfl

/-! ## A self-delimiting format -/

theorem takeItem_eq_some_iff {d : Bytes} {it : Item} {rest : Bytes} :
    takeItem d = some (it, rest) ↔ it.2.length < 65536 ∧ d = encodeItem it ++ rest := by
  constructor
  · intro h
    unfold takeItem at h
    split at h
    · next a b c e body =>
      simp only at h
      split at h
      · next hle =>
        cases h
        have hlen : (u16FromBe c e).toNat < 65536 := (u16FromBe c e).toNat_lt
        have hvalue : (body.take (u16FromBe c e).toNat).length = (u16FromBe c e).toNat :=
          List.length_take_of_le hle
        have hwidth : u16OrMax (body.take (u16FromBe c e).toNat).length = u16FromBe c e := by
          rw [hvalue, u16OrMax, if_pos hlen, UInt16.ofNat_toNat]
        refine ⟨by rw [hvalue]; exact hlen, ?_⟩
        rw [encodeItem, hwidth, u16ToBe_fromBe, u16ToBe_fromBe]
        simp
      · cases h
    · cases h
  · rintro ⟨hfit, rfl⟩
    exact takeItem_encodeItem hfit rest

def itemFraming : Framing Item UInt8 where
  encode := encodeItem
  Fits it := it.2.length < 65536
  read := takeItem
  read_iff := takeItem_eq_some_iff
  encode_ne_nil _ := List.cons_ne_nil _ _

theorem takeItems_eq_readN (n : Nat) (d : Bytes) : takeItems n d = itemFraming.readN n d := by
  induction n generalizing d with
  | zero => rfl
  | succ n ih =>
    have hread : itemFraming.read d = takeItem d := rfl
    rw [takeItems, Framing.readN, hread]
    cases takeItem d with
    | none => rfl
    | some r => exact congrArg (r.1 :: ·) (ih r.2)

/-- **A list that was written is read back**, and the bytes after it are left alone. -/
theorem takeItems_encodeItems {items : List Item} (h : ∀ it ∈ items, it.2.length < 65536) (n : Nat)
    (hn : n ≤ items.length) (rest : Bytes) :
    takeItems n (encodeItems items ++ rest) = items.take n := by
  have hlen : (items.take n).length = n := List.length_take_of_le hn
  rw [takeItems_eq_readN, Framing.readN_eq_iff]
  refine ⟨encodeItems (items.drop n) ++ rest, ?_, fun it hit => h it (List.mem_of_mem_take hit),
    Nat.le_of_eq hlen, fun hlt => absurd hlt (by omega)⟩
  show encodeItems items ++ rest = encodeItems (items.take n) ++ (encodeItems (items.drop n) ++ rest)
  rw [← List.append_assoc, encodeItems, encodeItems, encodeItems, ← List.flatMap_append,
    List.take_append_drop]

/-- The items of a buffer, with what is left behind them. -/
theorem takeItems_spec (n : Nat) (d : Bytes) : ∃ rest, d = encodeItems (takeItems n d) ++ rest ∧
    (∀ it ∈ takeItems n d, it.2.length < 65536) ∧ (takeItems n d).length ≤ n ∧
      ((takeItems n d).length < n → takeItem rest = none) := by
  rw [takeItems_eq_readN]
  exact itemFraming.readN_spec n d

/-- A cut buffer holds a prefix of the items. -/
theorem takeItems_take (n k : Nat) (d : Bytes) : takeItems n (d.take k) <+: takeItems n d := by
  rw [takeItems_eq_readN, takeItems_eq_readN]
  exact itemFraming.readN_take n k d

end Infra
