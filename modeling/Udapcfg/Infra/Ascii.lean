import Mathlib.Data.String.Basic
import Udapcfg.Infra.Bytes

/-!
# ASCII

The UTF-8 of an ASCII text is its characters, one byte each.

* `strBytes_ofList` — the bytes of a text of ASCII characters
* `eq_asciiText` — a text is known from its bytes if they are ASCII
-/

namespace Infra

/-- The byte of an ASCII character. -/
def asciiByte (c : Char) : UInt8 := UInt8.ofNat c.toNat

/-- The character of an ASCII byte. -/
def asciiChar (b : UInt8) : Char := Char.ofNat b.toNat

/-- The text of ASCII bytes. -/
def asciiText (v : Bytes) : String := String.ofList (v.map asciiChar)

theorem toNat_asciiChar {b : UInt8} (h : b < 0x80) : (asciiChar b).toNat = b.toNat := by
  have hb : b.toNat < 128 := UInt8.lt_iff_toNat_lt.mp h
  rw [asciiChar, Char.ofNat, dif_pos (Or.inl (by omega))]
  rfl

theorem asciiByte_asciiChar {b : UInt8} (h : b < 0x80) : asciiByte (asciiChar b) = b := by
  rw [asciiByte, toNat_asciiChar h, UInt8.ofNat_toNat]

theorem utf8EncodeChar_ascii {c : Char} (h : c.toNat < 0x80) :
    String.utf8EncodeChar c = [asciiByte c] :=
  if_pos (Nat.le_of_lt_succ h)

theorem strBytes_eq_flatMap (s : String) : strBytes s = s.toList.flatMap String.utf8EncodeChar := by
  rw [strBytes, ← String.utf8Encode_toList, List.utf8Encode]
  simp

theorem strBytes_append (s t : String) : strBytes (s ++ t) = strBytes s ++ strBytes t := by
  rw [strBytes_eq_flatMap, String.toList_append, List.flatMap_append, ← strBytes_eq_flatMap,
    ← strBytes_eq_flatMap]

/-- **The bytes of ASCII characters.** -/
theorem strBytes_ofList {l : List Char} (h : ∀ c ∈ l, c.toNat < 0x80) :
    strBytes (String.ofList l) = l.map asciiByte := by
  rw [strBytes_eq_flatMap, String.toList_ofList, ← List.flatMap_pure_eq_map]
  exact List.flatMap_congr fun c hc => utf8EncodeChar_ascii (h c hc)

theorem strBytes_asciiText {v : Bytes} (h : ∀ b ∈ v, b < 0x80) : strBytes (asciiText v) = v := by
  rw [asciiText, strBytes_ofList, List.map_map]
  · exact (List.map_congr_left fun b hb => asciiByte_asciiChar (h b hb)).trans (List.map_id v)
  · intro c hc
    obtain ⟨b, hb, rfl⟩ := List.mem_map.mp hc
    rw [toNat_asciiChar (h b hb)]
    exact UInt8.lt_iff_toNat_lt.mp (h b hb)

/-- **A text of ASCII bytes** is the text of these bytes. -/
theorem eq_asciiText {s : String} (h : ∀ b ∈ strBytes s, b < 0x80) :
    s = asciiText (strBytes s) :=
  strBytes_injective (strBytes_asciiText h).symm

end Infra
