import Aivpn.Lib.Bytes

/-!
# Signed bytes and words

On the JVM a byte is signed and is widened to a signed 32-bit word before it is shifted or
masked. The operations of such a program are given on `Int32`, with a byte array still a list
of `UInt8`, and each is related to the operation on unsigned words that has the same bits.
-/

set_option autoImplicit false

namespace Aivpn.Lib.Signed

/-- A byte widened to a word, with its sign. -/
def toInt (b : UInt8) : Int32 := b.toInt8.toInt32

/-- The lowest byte of a word. -/
def toByte (x : Int32) : UInt8 := x.toInt8.toUInt8

/-- The shift to the right that fills with zeros. -/
def ushr (x : Int32) (n : Nat) : Int32 := (x.toUInt32 >>> UInt32.ofNat n).toInt32

/-- The shift to the right that fills with the sign. -/
def shr (x : Int32) (n : Nat) : Int32 := .ofBitVec (x.toBitVec.sshiftRight n)

/-- The shift to the left. -/
def shl (x : Int32) (n : Nat) : Int32 := (x.toUInt32 <<< UInt32.ofNat n).toInt32

@[simp] theorem toUInt32_ushr (x : Int32) (n : Nat) :
    (ushr x n).toUInt32 = x.toUInt32 >>> UInt32.ofNat n := rfl

@[simp] theorem toUInt32_shl (x : Int32) (n : Nat) :
    (shl x n).toUInt32 = x.toUInt32 <<< UInt32.ofNat n := rfl

theorem toUInt32_injective {x y : Int32} (h : x.toUInt32 = y.toUInt32) : x = y := by
  rw [← Int32.toInt32_toUInt32 x, h, Int32.toInt32_toUInt32]

theorem toBitVec_toByte (x : Int32) : (toByte x).toBitVec = x.toBitVec.setWidth 8 := by
  show x.toBitVec.signExtend 8 = x.toBitVec.setWidth 8
  exact BitVec.signExtend_eq_setWidth_of_le _ (by decide)

theorem toByte_and (x y : Int32) : toByte (x &&& y) = toByte x &&& toByte y := by
  apply UInt8.toBitVec_inj.mp
  rw [UInt8.toBitVec_and, toBitVec_toByte, toBitVec_toByte, toBitVec_toByte,
    Int32.toBitVec_and, BitVec.setWidth_and]

theorem toByte_or (x y : Int32) : toByte (x ||| y) = toByte x ||| toByte y := by
  apply UInt8.toBitVec_inj.mp
  rw [UInt8.toBitVec_or, toBitVec_toByte, toBitVec_toByte, toBitVec_toByte,
    Int32.toBitVec_or, BitVec.setWidth_or]

theorem toByte_xor (x y : Int32) : toByte (x ^^^ y) = toByte x ^^^ toByte y := by
  apply UInt8.toBitVec_inj.mp
  rw [UInt8.toBitVec_xor, toBitVec_toByte, toBitVec_toByte, toBitVec_toByte,
    Int32.toBitVec_xor, BitVec.setWidth_xor]

theorem toBitVec_toInt (b : UInt8) : (toInt b).toBitVec = b.toBitVec.signExtend 32 := rfl

@[simp] theorem toByte_toInt (b : UInt8) : toByte (toInt b) = b := by
  apply UInt8.toBitVec_inj.mp
  rw [toBitVec_toByte, toBitVec_toInt]
  apply BitVec.eq_of_getLsbD_eq
  intro i hi
  have hi' : i < 32 := by omega
  rw [BitVec.getLsbD_setWidth, BitVec.getLsbD_signExtend]
  simp only [hi, hi', decide_true, Bool.true_and, if_true]

/-- The low bits of a widened byte are the bits of the byte: the sign is above them. -/
theorem getLsbD_toInt {b : UInt8} {n : Nat} (hn : n < 8) :
    (toInt b).toBitVec.getLsbD n = b.toNat.testBit n := by
  have hn' : n < 32 := by omega
  rw [toBitVec_toInt, BitVec.getLsbD_signExtend]
  simp only [hn, hn', decide_true, Bool.true_and, if_true]
  rfl

theorem toNat_and_mask (x : UInt32) : (x &&& 0xFF).toNat = x.toNat % 2 ^ 8 := by
  rw [UInt32.toNat_and]
  exact Nat.and_two_pow_sub_one_eq_mod x.toNat 8

/-- Masking a widened byte removes the sign. -/
@[simp] theorem toUInt32_toInt_and_mask (b : UInt8) :
    (toInt b &&& 0xFF).toUInt32 = b.toUInt32 := by
  apply UInt32.toNat_inj.mp
  have hbyte : (toByte (toInt b)).toBitVec = b.toBitVec := by rw [toByte_toInt]
  rw [toBitVec_toByte] at hbyte
  have hmod : (toInt b).toUInt32.toNat % 2 ^ 8 = b.toNat := by
    have := congrArg BitVec.toNat hbyte
    rwa [BitVec.toNat_setWidth] at this
  rw [Int32.toUInt32_and, Int32.toUInt32_ofNat, toNat_and_mask, hmod, UInt8.toNat_toUInt32]

/-- The bit at position `n` of a widened byte, shifted down and masked. -/
theorem ushr_toInt_and_one {b : UInt8} {n : Nat} (hn : n < 8) :
    ushr (toInt b) n &&& 1 = if b.toNat.testBit n then 1 else 0 := by
  have hn' : n % 2 ^ 32 % 32 = n := by omega
  have hbit : (toInt b).toUInt32.toNat.testBit n = b.toNat.testBit n := getLsbD_toInt hn
  apply toUInt32_injective
  apply UInt32.toNat_inj.mp
  rw [Nat.testBit_eq_decide_div_mod_eq] at hbit
  rw [Int32.toUInt32_and, toUInt32_ushr, Int32.toUInt32_ofNat, UInt32.toNat_and,
    UInt32.toNat_shiftRight, UInt32.toNat_ofNat', hn', Nat.shiftRight_eq_div_pow, ← hbit]
  show (toInt b).toUInt32.toNat / 2 ^ n &&& 1 = _
  rw [Nat.and_one_is_mod]
  rcases Nat.mod_two_eq_zero_or_one ((toInt b).toUInt32.toNat / 2 ^ n) with h | h
  · rw [h]
    rfl
  · rw [h]
    rfl

/-! ## Words and their four bytes -/

/-- A byte shifted above the bits of a word is added to it. -/
theorem toNat_or_shiftLeft {x b : UInt32} {i : Nat} (hi : i + 8 ≤ 32) (hx : x.toNat < 2 ^ i)
    (hb : b.toNat < 256) :
    (x ||| b <<< UInt32.ofNat i).toNat = x.toNat + 2 ^ i * b.toNat := by
  have hi' : i % 2 ^ 32 % 32 = i := by omega
  have hlt : b.toNat <<< i < 2 ^ 32 := by
    rw [Nat.shiftLeft_eq]
    calc b.toNat * 2 ^ i < 2 ^ 8 * 2 ^ i := Nat.mul_lt_mul_of_pos_right hb (Nat.two_pow_pos i)
      _ = 2 ^ (8 + i) := (pow_add 2 8 i).symm
      _ ≤ 2 ^ 32 := Nat.pow_le_pow_right (by decide) (by omega)
  rw [UInt32.toNat_or, UInt32.toNat_shiftLeft, UInt32.toNat_ofNat', hi', Nat.mod_eq_of_lt hlt,
    Nat.or_comm, ← Nat.shiftLeft_add_eq_or_of_lt hx, Nat.shiftLeft_eq, Nat.add_comm, Nat.mul_comm]

/-- Four masked bytes shifted into place are the word with these bytes. -/
theorem toUInt32_word (b0 b1 b2 b3 : UInt8) :
    ((toInt b0 &&& 0xFF) ||| shl (toInt b1 &&& 0xFF) 8 ||| shl (toInt b2 &&& 0xFF) 16 |||
      shl (toInt b3 &&& 0xFF) 24).toUInt32 = UInt32.ofNat (leNat [b0, b1, b2, b3]) := by
  have h0 := b0.toNat_lt
  have h1 := b1.toNat_lt
  have h2 := b2.toNat_lt
  have h3 := b3.toNat_lt
  -- the bytes do not overlap, so that each `or` is a sum
  have e1 := toNat_or_shiftLeft (x := b0.toUInt32) (b := b1.toUInt32) (i := 8) (by decide) h0 h1
  rw [UInt8.toNat_toUInt32, UInt8.toNat_toUInt32] at e1
  have e2 := toNat_or_shiftLeft (x := b0.toUInt32 ||| b1.toUInt32 <<< UInt32.ofNat 8)
    (b := b2.toUInt32) (i := 16) (by decide) (by omega) h2
  rw [e1, UInt8.toNat_toUInt32] at e2
  have e3 := toNat_or_shiftLeft
    (x := b0.toUInt32 ||| b1.toUInt32 <<< UInt32.ofNat 8 ||| b2.toUInt32 <<< UInt32.ofNat 16)
    (b := b3.toUInt32) (i := 24) (by decide) (by omega) h3
  rw [e2, UInt8.toNat_toUInt32] at e3
  apply UInt32.toNat_inj.mp
  simp only [Int32.toUInt32_or, toUInt32_shl, toUInt32_toInt_and_mask, e3, leNat,
    UInt32.toNat_ofNat']
  omega

/-- A byte of a word, shifted down with the sign and masked. -/
theorem toByte_shr_and_mask (w : Int32) {n : Nat} (hn : n + 8 ≤ 32) :
    toByte (shr w n &&& 0xFF) = UInt8.ofNat (w.toUInt32.toNat / 2 ^ n % 256) := by
  have hmask : toByte (shr w n &&& 0xFF) = toByte (shr w n) := by
    have h255 : toByte 0xFF = -1 := by decide
    rw [toByte_and, h255, UInt8.and_neg_one]
  rw [hmask]
  -- below bit 32 the sign does not come into the byte
  apply UInt8.toBitVec_inj.mp
  apply BitVec.eq_of_getLsbD_eq
  intro i hi
  have hlt : n + i < 32 := by omega
  have hi' : i < 32 := by omega
  rw [toBitVec_toByte, BitVec.getLsbD_setWidth]
  show (decide (i < 8) && (w.toBitVec.sshiftRight n).getLsbD i) =
    (BitVec.ofNat 8 (w.toUInt32.toNat / 2 ^ n % 256)).getLsbD i
  have hpow : 256 = 2 ^ 8 := rfl
  rw [BitVec.getLsbD_sshiftRight, BitVec.getLsbD_ofNat, hpow, Nat.testBit_mod_two_pow,
    Nat.testBit_div_two_pow, Nat.add_comm i n]
  simp only [hi, hlt, Nat.not_le.mpr hi', decide_true, decide_false, Bool.not_false,
    Bool.true_and, if_true]
  rfl

/-- The four bytes taken out of a word are its bytes. -/
theorem bytes_eq_leBytes (w : Int32) :
    [toByte (w &&& 0xFF), toByte (shr w 8 &&& 0xFF), toByte (shr w 16 &&& 0xFF),
      toByte (shr w 24 &&& 0xFF)] = leBytes 4 w.toUInt32.toNat := by
  have hzero : shr w 0 = w := by
    rw [shr, BitVec.sshiftRight_zero]
    rfl
  have h0 : toByte (w &&& 0xFF) = UInt8.ofNat (w.toUInt32.toNat / 2 ^ 0 % 256) := by
    rw [← toByte_shr_and_mask w (by decide), hzero]
  rw [h0, toByte_shr_and_mask w (by decide), toByte_shr_and_mask w (by decide),
    toByte_shr_and_mask w (by decide)]
  simp only [leBytes, Nat.div_div_eq_div_mul, Nat.reduceMul, Nat.reducePow, Nat.div_one]

end Aivpn.Lib.Signed
