import Mathlib.Data.String.Basic
import Udapcfg.Infra.Framing

/-!
# Lines of text

* `unlines` — lines written one after another, each with its end
* `lines` — the lines of a text, as far as they are complete
* `lines_unlines`, `lines_of_cut` — they are read back, and from a text that is cut off a prefix of
  them
-/

namespace Infra

/-- What stands before the first end of a line, and what after it. -/
theorem cut_line {line : List Char} (h : '\n' ∉ line) (rest : List Char) :
    (line ++ '\n' :: rest).takeWhile (· ≠ '\n') = line ∧
      ((line ++ '\n' :: rest).dropWhile (· ≠ '\n')).tail = rest := by
  have hall : ∀ c ∈ line, decide (c ≠ '\n') = true := by
    intro c hc
    refine decide_eq_true ?_
    rintro rfl
    exact h hc
  rw [List.takeWhile_append_of_pos hall, List.dropWhile_append_of_pos hall]
  simp

/-- A line and its end. -/
def lineFraming : Framing (List Char) Char where
  encode line := line ++ ['\n']
  Fits line := '\n' ∉ line
  read text :=
    if '\n' ∈ text then some (text.takeWhile (· ≠ '\n'), (text.dropWhile (· ≠ '\n')).tail) else none
  read_iff {text line rest} := by
    constructor
    · intro h
      split at h
      · next hend =>
        obtain ⟨line', rest', rfl, hfits⟩ := List.eq_append_cons_of_mem hend
        obtain ⟨htake, hdrop⟩ := cut_line hfits rest'
        rw [htake, hdrop] at h
        cases h
        exact ⟨hfits, List.append_cons ..⟩
      · cases h
    · rintro ⟨hfits, rfl⟩
      obtain ⟨htake, hdrop⟩ := cut_line hfits rest
      rw [if_pos (by simp), List.append_assoc, List.singleton_append, htake, hdrop]
  encode_ne_nil line := by simp

/-- Lines one after another. -/
def unlines (ls : List String) : String := String.join (ls.map (· ++ "\n"))

/-- The lines of a text. What comes after the last end is not one. -/
def lines (text : String) : List String := (lineFraming.readAll text.toList).map String.ofList

variable {ls : List String}

theorem toList_unlines (ls : List String) :
    (unlines ls).toList = lineFraming.encodeAll (ls.map String.toList) := by
  induction ls with
  | nil => rfl
  | cons l ls ih =>
    rw [unlines, List.map_cons, String.join_cons, ← unlines, String.toList_append, ih,
      String.toList_append, List.map_cons, Framing.encodeAll_cons]
    rfl

/-- **Lines are read back.** -/
theorem lines_unlines (h : ∀ l ∈ ls, '\n' ∉ l.toList) : lines (unlines ls) = ls := by
  have hread := Framing.readAll_encodeAll_append (F := lineFraming)
    (List.forall_mem_map.mpr h) []
  rw [List.append_nil, show lineFraming.readAll [] = [] from rfl, List.append_nil] at hread
  rw [lines, toList_unlines, hread, List.map_map]
  simp [Function.comp_def]

/-- **A text that is cut off** has the first of the lines. -/
theorem lines_of_cut {text cut : String} (h : cut.toList <+: text.toList) : lines cut <+: lines text := by
  rw [List.prefix_iff_eq_take] at h
  rw [lines, lines, h]
  exact (Framing.readAll_take _ _).map _

end Infra
