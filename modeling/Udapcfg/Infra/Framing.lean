import Mathlib.Data.List.Basic

/-!
# Self-delimiting formats

Elements are written one after another, each as a nonempty word, and a reader takes one element off
the front of a buffer. That the reader accepts exactly the words (`Framing.read_iff`) is all the
results here need.

* `readN` reads up to `n` elements, `readAll` as many as there are
* `readN_eq_iff`, `readAll_eq_iff` — a buffer can be cut into elements and a rest in one way only
* `readN_take`, `readAll_take` — a truncated buffer is read as a prefix of the whole one
-/

namespace Infra

/-- Words over `β` for the elements of `α`, and a reader that takes one off the front. -/
structure Framing (α β : Type*) where
  encode : α → List β
  /-- The elements whose word can be read back. -/
  Fits : α → Prop
  read : List β → Option (α × List β)
  read_iff : ∀ {d : List β} {a : α} {rest : List β},
    read d = some (a, rest) ↔ Fits a ∧ d = encode a ++ rest
  encode_ne_nil : ∀ a, encode a ≠ []

namespace Framing

variable {α β : Type*} (F : Framing α β)

def encodeAll (as : List α) : List β := as.flatMap F.encode

/-- Reads up to `n` elements and stops at the first that is not complete. -/
def readN : Nat → List β → List α
  | 0, _ => []
  | n + 1, d =>
    match F.read d with
    | none => []
    | some (a, rest) => a :: readN n rest

/-- Reads until no element is left. There are at most as many as the buffer is long. -/
def readAll (d : List β) : List α := F.readN d.length d

variable {F} {d rest : List β} {a : α} {as : List α}

@[simp] theorem encodeAll_nil : F.encodeAll [] = [] := rfl

theorem encodeAll_append (as as' : List α) :
    F.encodeAll (as ++ as') = F.encodeAll as ++ F.encodeAll as' := List.flatMap_append

@[simp] theorem encodeAll_cons : F.encodeAll (a :: as) = F.encode a ++ F.encodeAll as :=
  List.flatMap_cons

theorem read_encode (h : F.Fits a) (rest : List β) : F.read (F.encode a ++ rest) = some (a, rest) :=
  F.read_iff.mpr ⟨h, rfl⟩

/-- An empty buffer holds nothing. -/
theorem read_nil : F.read [] = none := by
  rw [Option.eq_none_iff_forall_ne_some]
  rintro ⟨a, rest⟩ h
  obtain ⟨_, hd⟩ := F.read_iff.mp h
  exact F.encode_ne_nil a (List.append_eq_nil_iff.mp hd.symm).1

theorem length_le_length_encodeAll (as : List α) : as.length ≤ (F.encodeAll as).length := by
  induction as with
  | nil => exact Nat.le_refl _
  | cons a as ih =>
    have hpos := List.length_pos_iff.mpr (F.encode_ne_nil a)
    rw [encodeAll_cons, List.length_append, List.length_cons]
    omega

/-! ## Up to `n` elements -/

/-- Elements that were written are read back, and reading goes on behind them. -/
theorem readN_encodeAll_append (n : Nat) (rest : List β) (hfits : ∀ a ∈ as, F.Fits a) :
    F.readN (as.length + n) (F.encodeAll as ++ rest) = as ++ F.readN n rest := by
  induction as with
  | nil =>
    show F.readN (0 + n) rest = F.readN n rest
    rw [Nat.zero_add]
  | cons a as ih =>
    rw [List.length_cons, Nat.add_right_comm, readN, encodeAll_cons, List.append_assoc,
      read_encode (hfits a List.mem_cons_self)]
    exact congrArg (a :: ·) (ih fun x hx => hfits x (List.mem_cons_of_mem a hx))

/-- What was read stands in front, and it ends early only where no element starts. -/
theorem readN_spec (n : Nat) (d : List β) : ∃ rest, d = F.encodeAll (F.readN n d) ++ rest ∧
    (∀ a ∈ F.readN n d, F.Fits a) ∧ (F.readN n d).length ≤ n ∧
      ((F.readN n d).length < n → F.read rest = none) := by
  induction n generalizing d with
  | zero => exact ⟨d, rfl, by simp [readN], Nat.le_refl _, fun h => absurd h (Nat.lt_irrefl _)⟩
  | succ n ih =>
    unfold readN
    cases hread : F.read d with
    | none => exact ⟨d, rfl, by simp, Nat.zero_le _, fun _ => hread⟩
    | some r =>
      obtain ⟨a, rest⟩ := r
      obtain ⟨hfit, hd⟩ := F.read_iff.mp hread
      obtain ⟨rest', hrest, hfits, hle, hstop⟩ := ih rest
      refine ⟨rest', ?_, ?_, Nat.succ_le_succ hle, fun h => hstop (Nat.lt_of_succ_lt_succ h)⟩
      · show d = F.encodeAll (a :: F.readN n rest) ++ rest'
        rw [encodeAll_cons, List.append_assoc, ← hrest, hd]
      · intro x hx
        rcases List.mem_cons.mp hx with rfl | hx
        · exact hfit
        · exact hfits x hx

theorem readN_of_read_eq_none {n : Nat} (h : F.read d = none) : F.readN n d = [] := by
  cases n with
  | zero => rfl
  | succ n => rw [readN, h]

/-- **Unique decodability**: there is one way to cut up to `n` elements off a buffer. -/
theorem readN_eq_iff {n : Nat} : F.readN n d = as ↔ ∃ rest, d = F.encodeAll as ++ rest ∧
    (∀ a ∈ as, F.Fits a) ∧ as.length ≤ n ∧ (as.length < n → F.read rest = none) := by
  constructor
  · rintro rfl
    exact readN_spec n d
  · rintro ⟨rest, rfl, hfits, hle, hstop⟩
    obtain ⟨m, rfl⟩ := Nat.exists_eq_add_of_le hle
    rw [readN_encodeAll_append m rest hfits]
    cases m with
    | zero => exact List.append_nil as
    | succ m => rw [readN_of_read_eq_none (hstop (by omega)), List.append_nil]

/-- **Truncation**: what is read of a cut buffer is a prefix of what is read of the whole. -/
theorem readN_take (n k : Nat) (d : List β) : F.readN n (d.take k) <+: F.readN n d := by
  obtain ⟨rest, hd, hfits, hle, _⟩ := F.readN_spec n (d.take k)
  obtain ⟨m, hm⟩ := Nat.exists_eq_add_of_le hle
  have hwhole : d = F.encodeAll (F.readN n (d.take k)) ++ (rest ++ d.drop k) := by
    rw [← List.append_assoc, ← hd, List.take_append_drop]
  refine ⟨F.readN m (rest ++ d.drop k), ?_⟩
  rw [← readN_encodeAll_append m _ hfits, ← hm, ← hwhole]

/-! ## All elements -/

/-- **Unique decodability** of a whole buffer. -/
theorem readAll_eq_iff : F.readAll d = as ↔
    ∃ rest, d = F.encodeAll as ++ rest ∧ (∀ a ∈ as, F.Fits a) ∧ F.read rest = none := by
  have hlen : ∀ rest, d = F.encodeAll as ++ rest → as.length + rest.length ≤ d.length := by
    rintro rest rfl
    have := F.length_le_length_encodeAll as
    rw [List.length_append]
    omega
  rw [readAll, readN_eq_iff]
  refine exists_congr fun rest => and_congr_right fun hd => and_congr_right fun _ => ?_
  have hle := hlen rest hd
  constructor
  · rintro ⟨_, hstop⟩
    cases rest with
    | nil => exact read_nil
    | cons b rest => exact hstop (by rw [List.length_cons] at hle; omega)
  · intro hnone
    exact ⟨by omega, fun _ => hnone⟩

theorem readAll_encodeAll_append (hfits : ∀ a ∈ as, F.Fits a) (rest : List β) :
    F.readAll (F.encodeAll as ++ rest) = as ++ F.readAll rest := by
  obtain ⟨rest', hrest, hfits', hnone⟩ := readAll_eq_iff.mp (rfl : F.readAll rest = _)
  refine readAll_eq_iff.mpr ⟨rest', ?_, ?_, hnone⟩
  · rw [encodeAll_append, List.append_assoc, ← hrest]
  · intro a ha
    rcases List.mem_append.mp ha with ha | ha
    · exact hfits a ha
    · exact hfits' a ha

/-- **Truncation** of a whole buffer. -/
theorem readAll_take (k : Nat) (d : List β) : F.readAll (d.take k) <+: F.readAll d := by
  obtain ⟨rest, hd, hfits, _⟩ := readAll_eq_iff.mp (rfl : F.readAll (d.take k) = _)
  have hwhole : d = F.encodeAll (F.readAll (d.take k)) ++ (rest ++ d.drop k) := by
    rw [← List.append_assoc, ← hd, List.take_append_drop]
  refine ⟨F.readAll (rest ++ d.drop k), ?_⟩
  rw [← readAll_encodeAll_append hfits, ← hwhole]

end Framing

end Infra
