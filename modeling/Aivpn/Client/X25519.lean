import Aivpn.Client.AivpnCrypto
import Aivpn.Common.Rfc7748
import Aivpn.Lib.SignedWords
import Mathlib.Data.Nat.Size
import Mathlib.FieldTheory.Finite.Basic

/-!
# X25519 of the Kotlin client

`AivpnCrypto.kt` multiplies with `java.math.BigInteger`: a ladder whose variables are signed
integers reduced after every operation, a scalar whose bits are taken from sign-extended bytes,
and a result that is converted through the big-endian two's complement of `toByteArray`, which
has as many bytes as the number needs. A `BigInteger` is an `Int` here, and an exception leaves the
function with `none`.

`Holds` relates the variables of this ladder to those of the ladder in the field of
`2 ^ 255 - 19` elements. Each pass through the loop keeps it (`Holds.ladderStep`), so the two
ladders agree, and what is left is the encoding of the quotient (`toLittleEndian_eq`).
-/

set_option autoImplicit false

namespace Aivpn

open Aivpn.Lib Aivpn.Lib.Signed

/-! ## `java.math.BigInteger` -/

namespace BigInteger

/-- `BigInteger(1, magnitude)`: the number whose bytes are given highest first. -/
def ofMagnitude (magnitude : Bytes) : Int :=
  magnitude.foldl (fun n b => n * 256 + b.toNat) 0

/-- `modPow` with an exponent that is not negative. -/
def modPow (x : Int) (e : Nat) (m : Int) : Int := x ^ e % m

/-- `modInverse`, which throws when there is no inverse. -/
def modInverse (x m : Int) : Option Int :=
  if Int.gcd x m = 1 then some (Int.gcdA x m % m) else none

/-- `bitLength`. -/
def bitLength : Int → Nat
  | .ofNat n => n.size
  | .negSucc n => n.size

/-- `toByteArray`: the two's complement, highest byte first, with room for the sign. -/
def toByteArray (x : Int) : Bytes :=
  let size := bitLength x / 8 + 1
  (leBytes size (x % 256 ^ size).toNat).reverse

end BigInteger

namespace X25519

/-- `FIELD_P`. -/
def fieldP : Int := 2 ^ 255 - 19

/-- `A24`. -/
def a24 : Int := 121665

/-- `BI_TWO`. -/
def biTwo : Nat := 2

/-- `fromLittleEndian`. -/
def fromLittleEndian (b : Bytes) : Int := BigInteger.ofMagnitude b.reverse

/-- `toLittleEndian`. -/
def toLittleEndian (n : Int) : Key :=
  let be := BigInteger.toByteArray n
  ⟨fill (fun i => be.getD (be.length - 1 - i) 0) (min be.length 32) (List.replicate 32 0),
    by simp⟩

/-- The variables of the loop. -/
structure Vars where
  x2 : Int
  z2 : Int
  x3 : Int
  z3 : Int
  swap : Int32

/-- The exchange of both coordinates when `swap` is not zero. -/
def Vars.exchange (s : Vars) : Vars :=
  if s.swap ≠ 0 then { s with x2 := s.x3, x3 := s.x2, z2 := s.z3, z3 := s.z2 } else s

/-- The body of the loop on the clamped scalar `e` and the u-coordinate `u`. -/
def ladderStep (e : Bytes) (u : Int) (s : Vars) (t : Nat) : Vars :=
  let bit := ushr (toInt (e.getD (t / 8) 0)) (t % 8) &&& 1
  let s := { s with swap := s.swap ^^^ bit }.exchange
  let a := (s.x2 + s.z2) % fieldP
  let aa := a * a % fieldP
  let b := (s.x2 - s.z2) % fieldP
  let bb := b * b % fieldP
  let eVal := (aa - bb) % fieldP
  let c := (s.x3 + s.z3) % fieldP
  let d := (s.x3 - s.z3) % fieldP
  let da := d * a % fieldP
  let cb := c * b % fieldP
  { x3 := BigInteger.modPow ((da + cb) % fieldP) biTwo fieldP
    z3 := u * BigInteger.modPow ((da - cb) % fieldP) biTwo fieldP % fieldP
    x2 := aa * bb % fieldP
    z2 := eVal * ((aa + a24 * eVal) % fieldP) % fieldP
    swap := bit }

/-- The copy of the scalar that is clamped. -/
def clampedScalar (scalar : Key) : Bytes :=
  ((scalar.toList.modify 0 fun b => toByte (toInt b &&& 248)).modify 31
    fun b => toByte (toInt b &&& 127)).modify 31 fun b => toByte (toInt b ||| 64)

/-- The u-coordinate: the bytes of the point without the top bit. -/
def uCoordinate (point : Key) : Int :=
  fromLittleEndian (point.toList.modify 31 fun b => toByte (toInt b &&& 0x7F))

/-- The loop over `254 downTo 0` and the exchange after it. -/
def runLadder (scalar point : Key) : Vars :=
  let e := clampedScalar scalar
  let u := uCoordinate point
  ((List.range 255).reverse.foldl (ladderStep e u)
    { x2 := 1, z2 := 0, x3 := u, z3 := 1, swap := 0 }).exchange

/-- `x25519ScalarMult`. -/
def x25519ScalarMult (scalar point : Key) : Option Key :=
  let s := runLadder scalar point
  (BigInteger.modInverse s.z2 fieldP).map fun inverse => toLittleEndian (s.x2 * inverse % fieldP)

/-- `x25519ScalarMultBase`. -/
def x25519ScalarMultBase (scalar : Key) : Option Key := x25519ScalarMult scalar basepoint

/-! ## The bytes of the arguments -/

theorem clampedScalar_eq (scalar : Key) : clampedScalar scalar = (clamp scalar).toList := by
  have h248 : toByte 248 = 248 := by decide
  have h127 : toByte 127 = 127 := by decide
  have h64 : toByte 64 = 64 := by decide
  simp only [clampedScalar, clamp, toByte_and, toByte_or, toByte_toInt, h248, h127, h64]

theorem ofMagnitude_reverse (b : Bytes) : BigInteger.ofMagnitude b.reverse = (leNat b : Nat) := by
  rw [BigInteger.ofMagnitude, List.foldl_reverse]
  induction b with
  | nil => rfl
  | cons b bs ih =>
      rw [List.foldr_cons, ih, leNat]
      push_cast
      ring

theorem uCoordinate_eq (point : Key) :
    uCoordinate point = (leNat (point.toList.modify 31 (· &&& 127)) : Nat) := by
  have h127 : toByte 0x7F = 127 := by decide
  rw [uCoordinate, fromLittleEndian, ofMagnitude_reverse]
  simp only [toByte_and, toByte_toInt, h127]

/-- The bit of the loop is the bit of the decoded scalar. -/
theorem bit_eq (scalar : Key) (t : Nat) :
    ushr (toInt ((clampedScalar scalar).getD (t / 8) 0)) (t % 8) &&& 1 =
      if (Rfc7748.decodeScalar25519 scalar).testBit t then 1 else 0 := by
  have hlt : t % 8 < 8 := Nat.mod_lt _ (by decide)
  rw [ushr_toInt_and_one hlt, clampedScalar_eq, Rfc7748.decodeScalar25519, testBit_leNat]

/-! ## The ladder in the field -/

/-- The coordinates stand for the field elements of `l`. -/
structure SameCoordinates (s : Vars) (l : Rfc7748.Ladder (ZMod Aivpn.fieldP)) : Prop where
  x2 : (s.x2 : ZMod Aivpn.fieldP) = l.x2
  z2 : (s.z2 : ZMod Aivpn.fieldP) = l.z2
  x3 : (s.x3 : ZMod Aivpn.fieldP) = l.x3
  z3 : (s.z3 : ZMod Aivpn.fieldP) = l.z3

/-- The variables stand for those of `l`, the word `swap` for its Boolean. -/
structure Holds (s : Vars) (l : Rfc7748.Ladder (ZMod Aivpn.fieldP)) : Prop
    extends SameCoordinates s l where
  swap : s.swap = if l.swap then 1 else 0

theorem fieldP_eq : fieldP = (Aivpn.fieldP : Nat) := by decide +kernel

/-- Reduction does not change the field element. -/
@[simp] theorem cast_mod (x : Int) : ((x % fieldP : Int) : ZMod Aivpn.fieldP) = x := by
  rw [fieldP_eq]
  exact ZMod.intCast_mod x Aivpn.fieldP

theorem SameCoordinates.exchange {s : Vars} {l : Rfc7748.Ladder (ZMod Aivpn.fieldP)} {b : Bool}
    (h : SameCoordinates s l) (hswap : s.swap = if b then 1 else 0) :
    SameCoordinates s.exchange (l.cswap b) := by
  rw [Vars.exchange, Rfc7748.Ladder.cswap]
  cases b with
  | true =>
      have hne : s.swap ≠ 0 := by
        rw [hswap]
        decide
      rw [if_pos hne, if_pos rfl]
      exact { x2 := h.x3, z2 := h.z3, x3 := h.x2, z3 := h.z2 }
  | false =>
      have heq : s.swap = 0 := by
        rw [hswap]
        decide
      rw [if_neg (not_not_intro heq), if_neg (by decide)]
      exact h

/-- A pass through the loop on the bit `kt` is a step of the ladder in the field. -/
theorem Holds.ladderStep {e : Bytes} {u : Int} {s : Vars}
    {l : Rfc7748.Ladder (ZMod Aivpn.fieldP)} {t : Nat} {kt : Bool} (h : Holds s l)
    (hbit : ushr (toInt (e.getD (t / 8) 0)) (t % 8) &&& 1 = if kt then 1 else 0) :
    Holds (ladderStep e u s t) (Rfc7748.ladderStep (u : ZMod Aivpn.fieldP) kt l) := by
  have hxor : (s.swap ^^^ if kt then 1 else 0) = if l.swap ^^ kt then 1 else 0 := by
    rw [h.swap]
    cases l.swap <;> cases kt <;> decide
  have hsame : SameCoordinates { s with swap := s.swap ^^^ if kt then 1 else 0 } l :=
    { x2 := h.x2, z2 := h.z2, x3 := h.x3, z3 := h.z3 }
  have hc := hsame.exchange hxor
  -- the coordinates after the exchange are all that the arithmetic reads
  rw [X25519.ladderStep, Rfc7748.ladderStep, hbit]
  generalize Vars.exchange _ = s' at hc ⊢
  generalize l.cswap _ = l' at hc ⊢
  constructor
  · constructor
    · push_cast [cast_mod, hc.x2, hc.z2]
      ring
    · push_cast [cast_mod, hc.x2, hc.z2, a24]
      ring
    · push_cast [cast_mod, BigInteger.modPow, biTwo, hc.x2, hc.z2, hc.x3, hc.z3]
      ring
    · push_cast [cast_mod, BigInteger.modPow, biTwo, hc.x2, hc.z2, hc.x3, hc.z3]
      ring
  · rfl

/-- The two ladders end with the same coordinates. -/
theorem sameCoordinates_runLadder (scalar point : Key) :
    SameCoordinates (runLadder scalar point) (Rfc7748.finalLadder scalar point) := by
  have hu : (uCoordinate point : ZMod Aivpn.fieldP) = Rfc7748.decodeUCoordinate point := by
    rw [uCoordinate_eq, Rfc7748.decodeUCoordinate, Int.cast_natCast]
  have hinit : Holds { x2 := 1, z2 := 0, x3 := uCoordinate point, z3 := 1, swap := 0 }
      { x2 := 1, z2 := 0, x3 := Rfc7748.decodeUCoordinate point, z3 := 1, swap := false } :=
    { x2 := Int.cast_one, z2 := Int.cast_zero, x3 := hu, z3 := Int.cast_one, swap := rfl }
  have hloop := List.foldl_rel (l := (List.range 255).reverse)
    (f := ladderStep (clampedScalar scalar) (uCoordinate point))
    (g := fun l t => Rfc7748.ladderStep (Rfc7748.decodeUCoordinate point)
      ((Rfc7748.decodeScalar25519 scalar).testBit t) l) (r := Holds) hinit (by
    intro t ht s l h
    rw [← hu]
    exact h.ladderStep (bit_eq scalar t))
  exact hloop.toSameCoordinates.exchange hloop.swap

/-! ## The quotient and its bytes -/

/-- `modInverse` returns exactly for a number that is not zero in the field. -/
theorem modInverse_eq_none_iff (z : Int) :
    BigInteger.modInverse z fieldP = none ↔ (z : ZMod Aivpn.fieldP) = 0 := by
  have hcoprime : Int.gcd z fieldP = 1 ↔ ¬ Aivpn.fieldP ∣ z.natAbs := by
    rw [fieldP_eq, Int.gcd, Int.natAbs_natCast, Nat.gcd_comm]
    exact prime_fieldP.coprime_iff_not_dvd
  rw [ZMod.intCast_zmod_eq_zero_iff_dvd, Int.natCast_dvd, BigInteger.modInverse]
  by_cases hdvd : Aivpn.fieldP ∣ z.natAbs
  · have hgcd : ¬ Int.gcd z fieldP = 1 := fun h => hcoprime.mp h hdvd
    rw [if_neg hgcd]
    exact ⟨fun _ => hdvd, fun _ => rfl⟩
  · rw [if_pos (hcoprime.mpr hdvd)]
    exact ⟨(by intro h; cases h), fun h => absurd h hdvd⟩

/-- What `modInverse` returns is the power of Fermat's theorem. -/
theorem cast_modInverse {z inverse : Int} (h : BigInteger.modInverse z fieldP = some inverse) :
    (inverse : ZMod Aivpn.fieldP) = (z : ZMod Aivpn.fieldP) ^ (Aivpn.fieldP - 2) := by
  rw [BigInteger.modInverse] at h
  split at h
  case isFalse => cases h
  case isTrue hgcd =>
      cases h
      -- Bézout's coefficient is an inverse, and so is the power of RFC 7748; a field has one
      have hmul : (z : ZMod Aivpn.fieldP) * (Int.gcdA z fieldP : Int) = 1 := by
        have hbezout := Int.gcd_eq_gcd_ab z fieldP
        rw [hgcd, fieldP_eq] at hbezout
        have hcast := congrArg (Int.cast : Int → ZMod Aivpn.fieldP) hbezout
        push_cast at hcast
        rw [ZMod.natCast_self, zero_mul, add_zero] at hcast
        rw [fieldP_eq]
        exact hcast.symm
      have hz : (z : ZMod Aivpn.fieldP) ≠ 0 := left_ne_zero_of_mul_eq_one hmul
      have hfermat :
          (z : ZMod Aivpn.fieldP) * (z : ZMod Aivpn.fieldP) ^ (Aivpn.fieldP - 2) = 1 := by
        rw [← pow_succ']
        exact ZMod.pow_card_sub_one_eq_one hz
      rw [cast_mod]
      exact mul_left_cancel₀ hz (hmul.trans hfermat.symm)

/-- The two's complement of a number that is not negative has all its bytes. -/
theorem toByteArray_natCast (n : Nat) :
    BigInteger.toByteArray (n : Int) = (leBytes (n.size / 8 + 1) n).reverse := by
  have hmod : ((n : Int) % 256 ^ (n.size / 8 + 1)).toNat = n % 256 ^ (n.size / 8 + 1) := by
    rw [← Int.toNat_natCast (n % 256 ^ (n.size / 8 + 1))]
    push_cast
    rfl
  have hlength : BigInteger.bitLength (n : Int) = n.size := rfl
  rw [BigInteger.toByteArray, hlength]
  simp only [hmod, leBytes_mod]

theorem lt_pow_size (n : Nat) : n < 256 ^ (n.size / 8 + 1) := by
  have hpow : 256 ^ (n.size / 8 + 1) = 2 ^ (8 * (n.size / 8 + 1)) := by
    rw [pow_mul]
    rfl
  rw [hpow]
  exact lt_of_lt_of_le (Nat.lt_size_self n) (Nat.pow_le_pow_right (by decide) (by omega))

/-- The result has the lowest 32 bytes of the number, with zeros where the two's complement
is shorter. -/
theorem toLittleEndian_natCast (n : Nat) : (toLittleEndian (n : Int)).toList = leBytes 32 n := by
  rw [toLittleEndian]
  simp only [toByteArray_natCast, List.length_reverse, length_leBytes]
  apply List.ext_getElem?
  intro i
  rw [getElem?_fill, getElem?_leBytes, List.length_replicate]
  -- the copy takes the low bytes of the reversed magnitude, and zeros above it
  by_cases hi : i < 32
  · by_cases hsize : i < n.size / 8 + 1
    · have hread : n.size / 8 + 1 - 1 - (n.size / 8 + 1 - 1 - i) = i := by omega
      rw [if_pos ⟨lt_min hsize hi, hi⟩, if_pos hi, List.getD_eq_getElem?_getD,
        List.getElem?_reverse (by rw [length_leBytes]; omega), length_leBytes, hread,
        getElem?_leBytes, if_pos hsize]
      rfl
    · have hle : 256 ^ (n.size / 8 + 1) ≤ 256 ^ i := Nat.pow_le_pow_right (by decide) (by omega)
      have hzero : n / 256 ^ i = 0 := Nat.div_eq_of_lt (lt_of_lt_of_le (lt_pow_size n) hle)
      have hmin : ¬ (i < min (n.size / 8 + 1) 32 ∧ i < 32) := by omega
      rw [if_neg hmin, if_pos hi, hzero, List.getElem?_replicate, if_pos hi]
      rfl
  · have hmin : ¬ (i < min (n.size / 8 + 1) 32 ∧ i < 32) := by omega
    rw [if_neg hmin, if_neg hi, List.getElem?_replicate, if_neg hi]

/-- The bytes of a reduced number are the encoding of its field element. -/
theorem toLittleEndian_mod (x : Int) :
    toLittleEndian (x % fieldP) = Rfc7748.encodeUCoordinate (x : ZMod Aivpn.fieldP) := by
  have hval : x % fieldP = ((x : ZMod Aivpn.fieldP).val : Int) := by
    rw [ZMod.val_intCast, fieldP_eq]
  apply ByteArr.ext
  rw [hval, toLittleEndian_natCast]
  rfl

/-- The multiplication throws when the last `z2` is zero in the field. -/
theorem x25519ScalarMult_eq_none_iff (scalar point : Key) :
    x25519ScalarMult scalar point = none ↔ (Rfc7748.finalLadder scalar point).z2 = 0 := by
  rw [x25519ScalarMult, Option.map_eq_none_iff, modInverse_eq_none_iff,
    (sameCoordinates_runLadder scalar point).z2]

/-- The multiplication throws or returns the output of X25519. -/
theorem x25519ScalarMult_eq (scalar point : Key) :
    x25519ScalarMult scalar point =
      if (Rfc7748.finalLadder scalar point).z2 = 0 then none
      else some (Rfc7748.x25519 scalar point) := by
  have hsame := sameCoordinates_runLadder scalar point
  split
  case isTrue hz => exact (x25519ScalarMult_eq_none_iff scalar point).mpr hz
  case isFalse hz =>
      have hinverse : BigInteger.modInverse (runLadder scalar point).z2 fieldP ≠ none := by
        rw [ne_eq, modInverse_eq_none_iff, hsame.z2]
        exact hz
      obtain ⟨inverse, hsome⟩ := Option.ne_none_iff_exists'.mp hinverse
      rw [x25519ScalarMult, hsome, Option.map_some, toLittleEndian_mod, Rfc7748.x25519,
        Int.cast_mul, cast_modInverse hsome, hsame.x2, hsame.z2]

/-- Where the last `z2` is not zero in the field, the multiplication returns the 32 bytes that
X25519 gives for the same scalar and point. -/
theorem x25519ScalarMult_eq_rfc7748 {scalar point : Key}
    (hz : (Rfc7748.finalLadder scalar point).z2 ≠ 0) :
    x25519ScalarMult scalar point = some (Rfc7748.x25519 scalar point) := by
  rw [x25519ScalarMult_eq, if_neg hz]

/-- The condition holds of the all-zero scalar, which is clamped to `2 ^ 254`, on the base point. -/
theorem x25519ScalarMult_basepoint :
    x25519ScalarMult (ByteArr.replicate 32 0) basepoint =
      some (Rfc7748.x25519 (ByteArr.replicate 32 0) basepoint) := by
  apply x25519ScalarMult_eq_rfc7748
  have hreturns : x25519ScalarMult (ByteArr.replicate 32 0) basepoint ≠ none := by decide +kernel
  rw [ne_eq, ← x25519ScalarMult_eq_none_iff]
  exact hreturns

/-- The key pair of RFC 7748 that the Android tests check. -/
example : x25519ScalarMultBase
      ⟨leBytes 32 0x2a2cb91da5fb77b12a99c0eb872f4cdf4566b25172c1163c7da518730a6d0777, by simp⟩ =
    some ⟨leBytes 32 0x6a4e9baa8ea9a4ebf41a38260d3abf0d5af73eb4dc7d8b7454a7308909f02085, by simp⟩ := by
  decide +kernel

/-- Over X25519 as the primitive, what the client's multiplication is taken to return is what the
ladder returns. -/
theorem x25519ScalarMult_of_primitives {P : Primitives} (hP : P.x25519 = Rfc7748.x25519)
    {scalar point key : Key} (h : AivpnCrypto.x25519ScalarMult P scalar point = some key) :
    x25519ScalarMult scalar point = some key := by
  rw [AivpnCrypto.x25519ScalarMult, hP] at h
  split at h
  case isTrue => cases h
  case isFalse hne =>
      cases h
      rw [x25519ScalarMult_eq, if_neg]
      intro hz
      -- the power of zero makes the whole output zero
      have hexponent : Aivpn.fieldP - 2 ≠ 0 := by decide +kernel
      have hzero : Rfc7748.encodeUCoordinate 0 = ByteArr.replicate 32 0 := by
        apply ByteArr.ext
        show leBytes 32 (0 : ZMod Aivpn.fieldP).val = _
        rw [ZMod.val_zero]
        rfl
      apply hne
      rw [Rfc7748.x25519, hz, zero_pow hexponent, mul_zero, hzero]

end X25519

end Aivpn
