import Aivpn.Lib.Bytes
import Mathlib.Data.Nat.Bitwise

/-!
# Numbers as strings of bits

A number of `w` bits is a list of `w` bits, the highest first. A list of such numbers is the string of
all its bits, and the numbers are found again by cutting the string into pieces of `w`
(`groups_bitsOf`), whatever follows them. Two lists of different widths hold the same data when their
strings agree.
-/

set_option autoImplicit false

namespace Aivpn.Lib

/-! ## One number -/

/-- The `w` low bits of a number, the highest first. -/
def toBits : Nat → Nat → List Bool
  | 0, _ => []
  | w + 1, n => n.testBit w :: toBits w n

/-- The number with these bits, the highest first. -/
def ofBits : List Bool → Nat
  | [] => 0
  | b :: bits => 2 ^ bits.length * b.toNat + ofBits bits

section

variable {m n v w : Nat}

@[simp] theorem length_toBits (w n : Nat) : (toBits w n).length = w := by
  induction w with
  | zero => rfl
  | succ w ih => rw [toBits, List.length_cons, ih]

theorem toBits_congr (h : ∀ i < w, m.testBit i = n.testBit i) : toBits w m = toBits w n := by
  induction w with
  | zero => rfl
  | succ w ih => rw [toBits, toBits, h w (Nat.lt_succ_self w), ih fun i hi => h i (by omega)]

/-- The high bits stand in front of the low ones. -/
theorem toBits_add (v w n : Nat) : toBits (v + w) n = toBits v (n >>> w) ++ toBits w n := by
  induction v with
  | zero => rw [Nat.zero_add, toBits, List.nil_append]
  | succ v ih =>
      rw [Nat.add_right_comm, toBits, toBits, ih, Nat.testBit_shiftRight, Nat.add_comm w v,
        List.cons_append]

/-- A mask of `w` bits changes nothing. -/
theorem toBits_and_mask (w n : Nat) : toBits w (n &&& (2 ^ w - 1)) = toBits w n := by
  apply toBits_congr
  intro i hi
  rw [Nat.testBit_and, Nat.testBit_two_pow_sub_one, decide_eq_true hi, Bool.and_true]

/-- Bits shifted in front of a number of `w` bits. -/
theorem toBits_shiftLeft_or (v : Nat) (hn : n < 2 ^ w) :
    toBits (v + w) (m <<< w ||| n) = toBits v m ++ toBits w n := by
  have hhigh : toBits v ((m <<< w ||| n) >>> w) = toBits v m := by
    apply toBits_congr
    intro i _
    have hsmall : n.testBit (w + i) = false :=
      Nat.testBit_lt_two_pow (Nat.lt_of_lt_of_le hn (Nat.pow_le_pow_right (by decide) (by omega)))
    rw [Nat.testBit_shiftRight, Nat.testBit_or, hsmall, Bool.or_false, Nat.testBit_shiftLeft,
      decide_eq_true (Nat.le_add_right w i), Bool.true_and, Nat.add_sub_cancel_left]
  have hlow : toBits w (m <<< w ||| n) = toBits w n := by
    apply toBits_congr
    intro i hi
    rw [Nat.testBit_or, Nat.testBit_shiftLeft, decide_eq_false (Nat.not_le.2 hi), Bool.false_and,
      Bool.false_or]
  rw [toBits_add, hhigh, hlow]

theorem ofBits_toBits (w n : Nat) : ofBits (toBits w n) = n % 2 ^ w := by
  induction w with
  | zero => rw [toBits, ofBits, Nat.pow_zero, Nat.mod_one]
  | succ w ih =>
      rw [toBits, ofBits, length_toBits, ih, Nat.toNat_testBit, Nat.pow_succ, Nat.mod_mul,
        Nat.add_comm]

theorem ofBits_lt (bits : List Bool) : ofBits bits < 2 ^ bits.length := by
  induction bits with
  | nil => exact Nat.one_pos
  | cons b bits ih =>
      have hb := b.toNat_le
      have hmul := Nat.mul_le_mul_left (2 ^ bits.length) hb
      rw [ofBits, List.length_cons, Nat.pow_succ]
      omega

theorem toBits_ofBits (bits : List Bool) : toBits bits.length (ofBits bits) = bits := by
  induction bits with
  | nil => rfl
  | cons b bits ih =>
      have hlt := ofBits_lt bits
      have hhead : (ofBits (b :: bits)).testBit bits.length = b := by
        rw [ofBits, Nat.testBit_two_pow_mul_add _ hlt, if_neg (Nat.lt_irrefl _), Nat.sub_self,
          Nat.testBit_zero]
        cases b <;> rfl
      have htail : toBits bits.length (ofBits (b :: bits)) = toBits bits.length (ofBits bits) := by
        apply toBits_congr
        intro i hi
        rw [ofBits, Nat.testBit_two_pow_mul_add _ hlt, if_pos hi]
      rw [List.length_cons, toBits, hhead, htail, ih]

end

/-! ## Many numbers -/

/-- The bits of numbers of `w` bits, one number behind the other. -/
def bitsOf (w : Nat) (ns : List Nat) : List Bool := ns.flatMap (toBits w)

/-- The first `k` pieces of `w` bits. -/
def groups (w : Nat) : Nat → List Bool → List Nat
  | 0, _ => []
  | k + 1, bits => ofBits (bits.take w) :: groups w k (bits.drop w)

@[simp] theorem bitsOf_nil (w : Nat) : bitsOf w [] = [] := rfl

@[simp] theorem bitsOf_cons (w n : Nat) (ns : List Nat) :
    bitsOf w (n :: ns) = toBits w n ++ bitsOf w ns := rfl

theorem length_bitsOf (w : Nat) (ns : List Nat) : (bitsOf w ns).length = w * ns.length := by
  induction ns with
  | nil => rfl
  | cons n ns ih =>
      rw [bitsOf_cons, List.length_append, length_toBits, ih, List.length_cons, Nat.mul_succ,
        Nat.add_comm]

theorem groups_lt (w k : Nat) (bits : List Bool) : ∀ n ∈ groups w k bits, n < 2 ^ w := by
  induction k generalizing bits with
  | zero => exact fun n hn => nomatch hn
  | succ k ih =>
      refine List.forall_mem_cons.2 ⟨?_, ih _⟩
      apply Nat.lt_of_lt_of_le (ofBits_lt _)
      exact Nat.pow_le_pow_right (by decide) (List.length_take_le w bits)

/-- Numbers of `w` bits are found again in their string. -/
theorem groups_bitsOf {w : Nat} {ns : List Nat} (h : ∀ n ∈ ns, n < 2 ^ w) (rest : List Bool) :
    groups w ns.length (bitsOf w ns ++ rest) = ns := by
  induction ns with
  | nil => rfl
  | cons n ns ih =>
      obtain ⟨hn, hns⟩ := List.forall_mem_cons.1 h
      rw [List.length_cons, groups, bitsOf_cons, List.append_assoc,
        List.take_left' (length_toBits w n), List.drop_left' (length_toBits w n), ih hns,
        ofBits_toBits, Nat.mod_eq_of_lt hn]

/-- The string of the pieces is the part that they were cut from. -/
theorem bitsOf_groups {w k : Nat} {bits : List Bool} (h : w * k ≤ bits.length) :
    bitsOf w (groups w k bits) = bits.take (w * k) := by
  induction k generalizing bits with
  | zero => rw [groups, bitsOf_nil, Nat.mul_zero, List.take_zero]
  | succ k ih =>
      rw [Nat.mul_succ] at h
      have hfirst : (bits.take w).length = w := by
        rw [List.length_take]
        omega
      have hrest : w * k ≤ (bits.drop w).length := by
        rw [List.length_drop]
        omega
      have hbits : toBits w (ofBits (bits.take w)) = bits.take w := by
        have hround := toBits_ofBits (bits.take w)
        rwa [hfirst] at hround
      rw [groups, bitsOf_cons, hbits, ih hrest, Nat.mul_succ, Nat.add_comm, List.take_add]

end Aivpn.Lib
