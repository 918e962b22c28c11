import Udapcfg.Infra.Bytes

/-!
# Lossy UTF-8 decoding

`String::from_utf8_lossy`: well-formed sequences become their character, every maximal ill-formed
piece becomes one U+FFFD. Used for text that is only ever shown.
-/

namespace Infra

/-- The replacement character. -/
def replacement : Char := Char.ofNat 0xFFFD

def isContinuation (b : UInt8) : Bool := 0x80 ≤ b && b ≤ 0xBF

/-- Second byte of a three-byte sequence: no overlong forms, no surrogates. -/
def isSecondOfThree (b0 b1 : UInt8) : Bool :=
  if b0 = 0xE0 then 0xA0 ≤ b1 && b1 ≤ 0xBF
  else if b0 = 0xED then 0x80 ≤ b1 && b1 ≤ 0x9F
  else isContinuation b1

/-- Second byte of a four-byte sequence: no overlong forms, nothing above U+10FFFF. -/
def isSecondOfFour (b0 b1 : UInt8) : Bool :=
  if b0 = 0xF0 then 0x90 ≤ b1 && b1 ≤ 0xBF
  else if b0 = 0xF4 then 0x80 ≤ b1 && b1 ≤ 0x8F
  else isContinuation b1

/-- One character, and how many bytes after `b0` it used up. Past the end reads as `0`. -/
def lossyStep (b0 : UInt8) (rest : Bytes) : Char × Nat :=
  let b1 := rest.getD 0 0
  let b2 := rest.getD 1 0
  let b3 := rest.getD 2 0
  if b0 < 0x80 then (Char.ofNat b0.toNat, 0)
  else if 0xC2 ≤ b0 && b0 ≤ 0xDF then
    if !isContinuation b1 then (replacement, 0)
    else (Char.ofNat (b0.toNat % 32 * 64 + b1.toNat % 64), 1)
  else if 0xE0 ≤ b0 && b0 ≤ 0xEF then
    if !isSecondOfThree b0 b1 then (replacement, 0)
    else if !isContinuation b2 then (replacement, 1)
    else (Char.ofNat ((b0.toNat % 16 * 64 + b1.toNat % 64) * 64 + b2.toNat % 64), 2)
  else if 0xF0 ≤ b0 && b0 ≤ 0xF4 then
    if !isSecondOfFour b0 b1 then (replacement, 0)
    else if !isContinuation b2 then (replacement, 1)
    else if !isContinuation b3 then (replacement, 2)
    else (Char.ofNat (((b0.toNat % 8 * 64 + b1.toNat % 64) * 64 + b2.toNat % 64) * 64
      + b3.toNat % 64), 3)
  else (replacement, 0)

/-- The characters of `data`, after skipping the bytes the character before used up. -/
def lossyChars : Nat → Bytes → List Char
  | _, [] => []
  | skip + 1, _ :: rest => lossyChars skip rest
  | 0, b0 :: rest => (lossyStep b0 rest).1 :: lossyChars (lossyStep b0 rest).2 rest

/-- `String::from_utf8_lossy(value).into_owned()`. -/
def fromUtf8Lossy (value : Bytes) : String := String.ofList (lossyChars 0 value)

example : fromUtf8Lossy [0x62, 0xC3, 0xA9, 0xFF, 0xE2, 0x82, 0x41]
    = String.ofList ['b', Char.ofNat 0xE9, replacement, replacement, 'A'] := by decide

end Infra
