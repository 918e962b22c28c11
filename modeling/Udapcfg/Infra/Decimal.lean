import Mathlib.Algebra.Group.Nat.Defs
import Mathlib.Data.List.Induction
import Udapcfg.Infra.Bytes

/-!
# Decimal text

Numbers as ASCII digits, and the readers of the standard library: `FromStr` of the unsigned
integers (`parseUnsigned`) and of `Ipv4Addr` (`Ipv4Addr.parse`).

Both grammars are made of ASCII bytes only. Bytes that are not valid UTF-8 are therefore no number
and no address, and the readers work on bytes directly.
-/

namespace Infra

/-! ## Digits -/

/-- `u8::is_ascii_digit`. -/
def isDigit (b : UInt8) : Bool := 48 ≤ b && b ≤ 57

/-- The number a digit string spells. -/
def digitsValue (ds : Bytes) : Nat := ds.foldl (fun acc b => 10 * acc + (b.toNat - 48)) 0

/-- `to_string` of an unsigned integer, as bytes. -/
def decimal (n : Nat) : Bytes := (Nat.toDigits 10 n).map (fun c => UInt8.ofNat c.toNat)

theorem isDigit_iff {b : UInt8} : isDigit b = true ↔ 48 ≤ b.toNat ∧ b.toNat ≤ 57 := by
  simp only [isDigit, Bool.and_eq_true, decide_eq_true_eq, UInt8.le_iff_toNat_le]
  exact Iff.rfl

theorem decimal_ne_nil (n : Nat) : decimal n ≠ [] := by
  rw [decimal, ne_eq, List.map_eq_nil_iff]
  exact Nat.toDigits_ne_nil

theorem toNat_ofNat_digit {c : Char} (h : c.isDigit = true) :
    (UInt8.ofNat c.toNat).toNat = c.toNat ∧ 48 ≤ c.toNat ∧ c.toNat ≤ 57 := by
  simp only [Char.isDigit, Bool.and_eq_true, decide_eq_true_eq, ge_iff_le, UInt32.le_iff_toNat_le]
    at h
  have h48 : 48 ≤ c.toNat := h.1
  have h57 : c.toNat ≤ 57 := h.2
  refine ⟨?_, h48, h57⟩
  rw [UInt8.toNat_ofNat']
  omega

theorem isDigit_of_mem_decimal {n : Nat} {b : UInt8} (h : b ∈ decimal n) : isDigit b = true := by
  obtain ⟨c, hc, rfl⟩ := List.mem_map.mp h
  have hd : c.isDigit = true := Nat.isDigit_of_mem_toDigits (by decide) (by decide) hc
  obtain ⟨heq, h48, h57⟩ := toNat_ofNat_digit hd
  rw [isDigit_iff, heq]
  exact ⟨h48, h57⟩

/-- The digits of `n` spell `n`. -/
theorem digitsValue_decimal (n : Nat) : digitsValue (decimal n) = n := by
  -- the fold over the bytes is the one over the characters they come from
  have hfold : ∀ (cs : List Char) (acc : Nat), (∀ c ∈ cs, c.isDigit = true) →
      (cs.map (fun c => UInt8.ofNat c.toNat)).foldl (fun acc b => 10 * acc + (b.toNat - 48)) acc
        = Nat.ofDigitChars 10 cs acc := by
    intro cs
    induction cs with
    | nil => intro acc _; simp
    | cons c rest ih =>
      intro acc h
      obtain ⟨heq, _⟩ := toNat_ofNat_digit (h c List.mem_cons_self)
      rw [List.map_cons, List.foldl_cons, heq, Nat.ofDigitChars_cons,
        ih _ (fun x hx => h x (List.mem_cons_of_mem _ hx))]
      rfl
  rw [digitsValue, decimal,
    hfold _ _ (fun c hc => Nat.isDigit_of_mem_toDigits (by decide) (by decide) hc)]
  exact Nat.ofDigitChars_ten_toDigits

theorem decimal_injective : Function.Injective decimal := by
  intro m n h
  rw [← digitsValue_decimal m, h, digitsValue_decimal]

theorem length_decimal_le {n k : Nat} (hk : 0 < k) (hn : n < 10 ^ k) : (decimal n).length ≤ k := by
  rw [decimal, List.length_map]
  exact (Nat.length_toDigits_le_iff (by decide) hk).mpr hn

theorem digitsValue_append_singleton (ds : Bytes) (b : UInt8) :
    digitsValue (ds ++ [b]) = 10 * digitsValue ds + (b.toNat - 48) := by
  rw [digitsValue, digitsValue, List.foldl_append]
  rfl

theorem decimal_of_lt_ten {d : Nat} (h : d < 10) : decimal d = [UInt8.ofNat (48 + d)] := by
  rw [decimal, Nat.toDigits_of_lt_base h, List.map_cons, Nat.toNat_digitChar_of_lt_ten h, List.map_nil]

/-- One more digit at the end. -/
theorem decimal_snoc {n d : Nat} (hn : 0 < n) (hd : d < 10) :
    decimal (10 * n + d) = decimal n ++ [UInt8.ofNat (48 + d)] := by
  rw [← decimal_of_lt_ten hd, decimal, ← Nat.toDigits_append_toDigits (by decide) hn hd,
    List.map_append]
  rfl

/-- **A digit string without leading zeros** is how its number is written. -/
theorem decimal_digitsValue {ds : Bytes} (hne : ds ≠ []) (hall : ds.all isDigit = true)
    (hzero : ds.head? = some 48 → ds.length ≤ 1) : decimal (digitsValue ds) = ds := by
  induction ds using List.reverseRecOn with
  | nil => exact absurd rfl hne
  | append_singleton ds b ih =>
    rw [List.all_append, Bool.and_eq_true, List.all_cons, List.all_nil, Bool.and_true, isDigit_iff]
      at hall
    obtain ⟨hall, h48, h57⟩ := hall
    have hdigit : UInt8.ofNat (48 + (b.toNat - 48)) = b := by
      rw [Nat.add_sub_cancel' h48, UInt8.ofNat_toNat]
    rw [digitsValue_append_singleton]
    cases hds : ds with
    | nil =>
      show decimal (10 * 0 + (b.toNat - 48)) = [b]
      rw [Nat.mul_zero, Nat.zero_add, decimal_of_lt_ten (by omega), hdigit]
    | cons c cs =>
      rw [← hds]
      have hcons : ds ≠ [] := by simp [hds]
      -- a number is in front of the last digit, and it is not zero
      have hfirst : ds.head? ≠ some 48 := by
        intro hhead
        have hlen := hzero (by rw [List.head?_append_of_ne_nil _ hcons, hhead])
        simp [hds] at hlen
      have hwritten := ih hcons hall (fun hhead => absurd hhead hfirst)
      have hpos : 0 < digitsValue ds := by
        rw [Nat.pos_iff_ne_zero]
        intro hvalue
        rw [hvalue] at hwritten
        exact hfirst (by rw [← hwritten]; rfl)
      rw [decimal_snoc hpos (by omega), hwritten, hdigit]

/-! ## Comparing digit strings -/

theorem digitsValue_cons (d : UInt8) (ds : Bytes) :
    digitsValue (d :: ds) = (d.toNat - 48) * 10 ^ ds.length + digitsValue ds := by
  induction ds using List.reverseRecOn with
  | nil =>
    show 10 * 0 + (d.toNat - 48) = (d.toNat - 48) * 1 + 0
    omega
  | append_singleton ds b ih =>
    have hpow : (d.toNat - 48) * 10 ^ (ds.length + 1) = 10 * ((d.toNat - 48) * 10 ^ ds.length) := by
      rw [Nat.pow_succ, ← Nat.mul_assoc, Nat.mul_comm]
    rw [← List.cons_append, digitsValue_append_singleton, ih, digitsValue_append_singleton,
      List.length_append, List.length_singleton, hpow]
    omega

theorem digitsValue_lt {ds : Bytes} (h : ds.all isDigit = true) :
    digitsValue ds < 10 ^ ds.length := by
  induction ds with
  | nil => exact Nat.one_pos
  | cons d ds ih =>
    rw [List.all_cons, Bool.and_eq_true, isDigit_iff] at h
    have hrest := ih h.2
    have hdigit : (d.toNat - 48) * 10 ^ ds.length ≤ 9 * 10 ^ ds.length :=
      Nat.mul_le_mul_right _ (by omega)
    rw [digitsValue_cons, List.length_cons, Nat.pow_succ]
    omega

/-- A digit in front that is not zero counts for more than all that follow. -/
theorem le_digitsValue {d : UInt8} (h : 48 < d.toNat) (ds : Bytes) :
    10 ^ ds.length ≤ digitsValue (d :: ds) := by
  rw [digitsValue_cons]
  exact Nat.le_add_right_of_le (Nat.le_mul_of_pos_left _ (by omega))

/-- **Digit strings of one length** compare as the numbers they spell. -/
theorem compare_digitsValue {x y : Bytes} (hlen : x.length = y.length)
    (hx : x.all isDigit = true) (hy : y.all isDigit = true) :
    compare (digitsValue x) (digitsValue y)
      = List.compareLex compare (x.map UInt8.toNat) (y.map UInt8.toNat) := by
  induction x generalizing y with
  | nil =>
    rw [List.length_nil, eq_comm, List.length_eq_zero_iff] at hlen
    rw [hlen]
    rfl
  | cons a x ih =>
    cases y with
    | nil => cases hlen
    | cons b y =>
      have hlen' : x.length = y.length := Nat.succ.inj hlen
      rw [List.all_cons, Bool.and_eq_true, isDigit_iff] at hx hy
      have hxlt := digitsValue_lt hx.2
      have hylt := digitsValue_lt hy.2
      rw [List.map_cons, List.map_cons, List.compareLex_cons_cons, ← ih hlen' hx.2 hy.2,
        digitsValue_cons, digitsValue_cons, hlen']
      rw [hlen'] at hxlt
      rcases Nat.lt_trichotomy a.toNat b.toNat with hlt | heq | hgt
      · -- the greater first digit makes up for all that follow
        have hstep : (a.toNat - 48 + 1) * 10 ^ y.length ≤ (b.toNat - 48) * 10 ^ y.length :=
          Nat.mul_le_mul_right _ (by omega)
        rw [Nat.add_mul, Nat.one_mul] at hstep
        rw [Nat.compare_eq_lt.mpr hlt, Nat.compare_eq_lt.mpr (by omega)]
        rfl
      · rw [Nat.compare_eq_eq.mpr heq, heq, Ordering.eq_then]
        simp only [Nat.compare_eq_ite_lt, Nat.add_lt_add_iff_left]
      · have hstep : (b.toNat - 48 + 1) * 10 ^ y.length ≤ (a.toNat - 48) * 10 ^ y.length :=
          Nat.mul_le_mul_right _ (by omega)
        rw [Nat.add_mul, Nat.one_mul] at hstep
        rw [Nat.compare_eq_gt.mpr hgt, Nat.compare_eq_gt.mpr (by omega)]
        rfl

/-! ## Unsigned integers -/

/-- Drops the sign `FromStr` allows. -/
def stripPlus : Bytes → Bytes
  | [] => []
  | b :: rest => if b = 0x2B then rest else b :: rest

/--
`FromStr` of an unsigned integer with largest value `max`: an optional `+`, then digits only, at
least one, spelling a number in range. Leading zeros are fine.
-/
def parseUnsigned (max : Nat) (v : Bytes) : Option Nat :=
  let digits := stripPlus v
  if digits = [] ∨ digits.all isDigit = false then none
  else if digitsValue digits ≤ max then some (digitsValue digits) else none

theorem stripPlus_decimal (n : Nat) : stripPlus (decimal n) = decimal n := by
  cases h : decimal n with
  | nil => rfl
  | cons b rest =>
    have hd : isDigit b = true := isDigit_of_mem_decimal (by rw [h]; exact List.mem_cons_self)
    have hb : b ≠ 0x2B := by
      intro he
      rw [he] at hd
      revert hd
      decide
    rw [stripPlus, if_neg hb]

theorem all_isDigit_decimal (n : Nat) : (decimal n).all isDigit = true :=
  List.all_eq_true.mpr fun _ hb => isDigit_of_mem_decimal hb

/-- **Printing then parsing gives the number back.** -/
theorem parseUnsigned_decimal {max n : Nat} (h : n ≤ max) :
    parseUnsigned max (decimal n) = some n := by
  simp [parseUnsigned, stripPlus_decimal, decimal_ne_nil, all_isDigit_decimal,
    digitsValue_decimal, h]

/-! ## Dotted quads -/

/-- `std::net::Ipv4Addr`. -/
structure Ipv4Addr where
  a : UInt8
  b : UInt8
  c : UInt8
  d : UInt8
deriving DecidableEq

namespace Ipv4Addr

def octets (ip : Ipv4Addr) : Bytes := [ip.a, ip.b, ip.c, ip.d]

/-- `Display`: four decimal numbers with dots between them. -/
def format (ip : Ipv4Addr) : Bytes :=
  decimal ip.a.toNat ++ 0x2E :: (decimal ip.b.toNat ++ 0x2E :: (decimal ip.c.toNat ++
    0x2E :: decimal ip.d.toNat))

/-- One octet: one to three digits, no leading zero unless it is the only digit, at most 255. -/
def readOctet (v : Bytes) : Option (UInt8 × Bytes) :=
  let digits := v.takeWhile isDigit
  if digits = [] ∨ 3 < digits.length ∨ (digits.head? = some 48 ∧ 1 < digits.length)
      ∨ 255 < digitsValue digits then none
  else some (UInt8.ofNat (digitsValue digits), v.dropWhile isDigit)

/-- The separator before an octet. -/
def readDot : Bytes → Option Bytes
  | [] => none
  | b :: rest => if b = 0x2E then some rest else none

/-- `FromStr`: four octets with dots between them and nothing after. -/
def parse (v : Bytes) : Option Ipv4Addr := do
  let (a, v) ← readOctet v
  let v ← readDot v
  let (b, v) ← readOctet v
  let v ← readDot v
  let (c, v) ← readOctet v
  let v ← readDot v
  let (d, v) ← readOctet v
  if v = [] then some ⟨a, b, c, d⟩ else none

theorem takeWhile_decimal_append {n : Nat} {rest : Bytes}
    (h : ∀ b ∈ rest.head?, isDigit b = false) :
    (decimal n ++ rest).takeWhile isDigit = decimal n ∧
      (decimal n ++ rest).dropWhile isDigit = rest := by
  have hall : ∀ b ∈ decimal n, isDigit b = true := fun _ hb => isDigit_of_mem_decimal hb
  rw [List.takeWhile_append_of_pos hall, List.dropWhile_append_of_pos hall]
  cases rest with
  | nil => simp
  | cons b rest =>
    have hb : isDigit b = false := h b rfl
    simp [hb]

theorem decimal_head_zero : ∀ n < 256, (decimal n).head? = some 48 → (decimal n).length ≤ 1 := by
  decide +kernel

/-- An octet is read back, whatever non-digit follows. -/
theorem readOctet_decimal (x : UInt8) {rest : Bytes} (h : ∀ b ∈ rest.head?, isDigit b = false) :
    readOctet (decimal x.toNat ++ rest) = some (x, rest) := by
  have hx : x.toNat < 256 := x.toNat_lt
  obtain ⟨htake, hdrop⟩ := takeWhile_decimal_append (n := x.toNat) h
  have hlen : (decimal x.toNat).length ≤ 3 := length_decimal_le (by decide) (by omega)
  simp only [readOctet, htake, hdrop, digitsValue_decimal]
  rw [if_neg, UInt8.ofNat_toNat]
  rintro (hnil | hlong | ⟨hzero, hlong⟩ | hbig)
  · exact decimal_ne_nil _ hnil
  · omega
  · have := decimal_head_zero x.toNat hx hzero
    omega
  · omega

/-- **Printing then parsing gives the address back.** -/
theorem parse_format (ip : Ipv4Addr) : parse ip.format = some ip := by
  have hdot : ∀ (rest : Bytes), ∀ b ∈ ((0x2E : UInt8) :: rest).head?, isDigit b = false := by
    intro rest b hb
    cases hb
    rfl
  have hend : readOctet (decimal ip.d.toNat) = some (ip.d, []) := by
    have h := @readOctet_decimal ip.d [] (by simp)
    rwa [List.append_nil] at h
  simp [parse, format, readOctet_decimal _ (hdot _), readDot, hend]

theorem eq_of_readOctet {v rest : Bytes} {x : UInt8} (h : readOctet v = some (x, rest)) :
    v = decimal x.toNat ++ rest := by
  unfold readOctet at h
  simp only at h
  split at h
  · cases h
  · next hok =>
    simp only [not_or, not_and] at hok
    obtain ⟨hne, _, hzero, hbig⟩ := hok
    obtain ⟨rfl, rfl⟩ := Prod.mk.inj (Option.some.inj h)
    have hvalue : (UInt8.ofNat (digitsValue (v.takeWhile isDigit))).toNat
        = digitsValue (v.takeWhile isDigit) := by
      rw [UInt8.toNat_ofNat']
      omega
    have hall : (v.takeWhile isDigit).all isDigit = true := List.all_takeWhile
    rw [hvalue, decimal_digitsValue hne hall fun hhead => Nat.not_lt.mp (hzero hhead),
      List.takeWhile_append_dropWhile]

theorem eq_of_readDot {v rest : Bytes} (h : readDot v = some rest) : v = 0x2E :: rest := by
  cases v with
  | nil => cases h
  | cons b v =>
    rw [readDot] at h
    by_cases hb : b = 0x2E
    · rw [if_pos hb] at h
      rw [hb, Option.some.inj h]
    · rw [if_neg hb] at h
      cases h

/-- **There is one way to write an address.** -/
theorem eq_format_of_parse {v : Bytes} {ip : Ipv4Addr} (h : parse v = some ip) : v = ip.format := by
  simp only [parse, Option.bind_eq_bind, Option.bind_eq_some_iff] at h
  obtain ⟨⟨a, v₁⟩, ha, v₂, hdot, ⟨b, v₃⟩, hb, v₄, hdot', ⟨c, v₅⟩, hc, v₆, hdot'', ⟨d, v₇⟩, hd, h⟩ := h
  split at h
  · next hend =>
    cases h
    simp only at hend hdot hdot' hdot'' hb hc hd
    rw [eq_of_readOctet ha, eq_of_readDot hdot, eq_of_readOctet hb, eq_of_readDot hdot',
      eq_of_readOctet hc, eq_of_readDot hdot'', eq_of_readOctet hd, hend, List.append_nil]
    rfl
  · cases h

end Ipv4Addr

end Infra
