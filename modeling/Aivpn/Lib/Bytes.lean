import Mathlib.Data.List.Basic
import Mathlib.Data.Nat.Bitwise
import Mathlib.Tactic.Common

/-!
# Byte strings with checked access

Byte strings are lists of `UInt8`, fixed-size byte arrays carry their length. Reading a
slice or an index outside a byte string ends the computation in a panic, which is
kept apart from an error value that the caller can handle (`Fault`). The lemmas
say when a checked read succeeds and what it returns, so that a decoder is
analysed through its length checks alone.

Little-endian encodings are given once for every width (`leBytes`, `leNat`).
-/

set_option autoImplicit false

namespace Aivpn.Lib

universe u v

/-- A byte string of any length. -/
abbrev Bytes := List UInt8

/-- A byte array whose length is part of its type. -/
@[ext] structure ByteArr (n : Nat) where
  toList : Bytes
  length_toList : toList.length = n
deriving DecidableEq, Repr

namespace ByteArr

/-- `[b; n]`. -/
def replicate (n : Nat) (b : UInt8) : ByteArr n := ⟨List.replicate n b, List.length_replicate⟩

instance (n : Nat) : Inhabited (ByteArr n) := ⟨replicate n 0⟩

attribute [simp] length_toList

/-- The array of the values of `f` on the bytes of two arrays at the same position. -/
def zipWith {n : Nat} (f : UInt8 → UInt8 → UInt8) (a b : ByteArr n) : ByteArr n :=
  ⟨List.zipWith f a.toList b.toList, by simp⟩

theorem zipWith_xor_xor {n : Nat} (a b : ByteArr n) :
    (a.zipWith (· ^^^ ·) b).zipWith (· ^^^ ·) b = a := by
  apply ByteArr.ext
  apply List.ext_getElem
  · simp [zipWith]
  · intro i h1 h2
    simp only [zipWith, List.getElem_zipWith, UInt8.xor_assoc, UInt8.xor_self, UInt8.xor_zero]

/-- Arrays with the same exclusive or over `a` are equal. -/
theorem zipWith_xor_right_injective {n : Nat} {a b c : ByteArr n}
    (h : a.zipWith (· ^^^ ·) b = a.zipWith (· ^^^ ·) c) : b = c := by
  have hcomm : ∀ d : ByteArr n, d.zipWith (· ^^^ ·) a = a.zipWith (· ^^^ ·) d := by
    intro d
    apply ByteArr.ext
    exact List.zipWith_comm_of_comm UInt8.xor_comm
  calc b = (b.zipWith (· ^^^ ·) a).zipWith (· ^^^ ·) a := (zipWith_xor_xor b a).symm
    _ = (c.zipWith (· ^^^ ·) a).zipWith (· ^^^ ·) a := by rw [hcomm b, hcomm c, h]
    _ = c := zipWith_xor_xor c a

end ByteArr

/-- How a call ends when it returns no value: with an error value, or in a panic. -/
inductive Fault (ε : Type u) where
  | error (e : ε)
  | panic
deriving DecidableEq, Repr

/-- A computation that returns, fails with an error value, or panics. -/
abbrev Exec (ε : Type u) (α : Type v) := Except (Fault ε) α

section Checked

variable {ε : Type u} {α : Type v}

/-- The computation returns a value or an error value: it does not panic. -/
def Returns (x : Exec ε α) : Prop := (∃ a, x = .ok a) ∨ ∃ e, x = .error (.error e)

theorem returns_ok (a : α) : Returns (.ok a : Exec ε α) := Or.inl ⟨a, rfl⟩

theorem returns_error (e : ε) : Returns (.error (.error e) : Exec ε α) := Or.inr ⟨e, rfl⟩

theorem not_returns_panic : ¬ Returns (.error .panic : Exec ε α) := by
  rintro (⟨a, h⟩ | ⟨e, h⟩) <;> cases h

/-- A checked read that lies inside the input continues with a value. -/
theorem ok_bind {α β : Type v} (a : α) (f : α → Exec ε β) : ((.ok a : Exec ε α) >>= f) = f a := rfl

/-- `data[i]`, with a panic when `i` is out of range. -/
def index (data : List α) (i : Nat) : Exec ε α :=
  match data[i]? with
  | some a => .ok a
  | none => .error .panic

/-- `data[lo..hi]`, with a panic when the range does not lie inside `data`. -/
def slice (data : List α) (lo hi : Nat) : Exec ε (List α) :=
  if lo ≤ hi ∧ hi ≤ data.length then .ok ((data.drop lo).take (hi - lo)) else .error .panic

/-- An array filled from a slice, with a panic when the lengths differ. -/
def copyFromSlice (n : Nat) (data : Bytes) : Exec ε (ByteArr n) :=
  if h : data.length = n then .ok ⟨data, h⟩ else .error .panic

theorem index_of_lt {data : List α} {i : Nat} (h : i < data.length) :
    index (ε := ε) data i = .ok data[i] := by
  simp [index, List.getElem?_eq_getElem h]

theorem slice_of_le {data : List α} {lo hi : Nat} (h : lo ≤ hi) (h' : hi ≤ data.length) :
    slice (ε := ε) data lo hi = .ok ((data.drop lo).take (hi - lo)) := by
  simp [slice, h, h']

theorem slice_of_length_lt {data : List α} {lo hi : Nat} (h : data.length < hi) :
    slice (ε := ε) data lo hi = .error .panic := by
  have hn : ¬ (lo ≤ hi ∧ hi ≤ data.length) := by omega
  simp [slice, hn]

theorem length_of_slice {data : List α} {lo hi : Nat} (h' : hi ≤ data.length) :
    ((data.drop lo).take (hi - lo)).length = hi - lo := by
  rw [List.length_take, List.length_drop]
  omega

theorem copyFromSlice_of_length {n : Nat} {data : Bytes} (h : data.length = n) :
    copyFromSlice (ε := ε) n data = .ok ⟨data, h⟩ := by
  simp [copyFromSlice, h]

end Checked

/-! ## Arrays read at a position that a length check has covered -/

/-- The `n` bytes of `data` from position `off`. Positions past the end read zero; every use is
guarded by a length check. -/
def readArray (n off : Nat) (data : Bytes) : ByteArr n :=
  ⟨(List.range n).map fun i => data.getD (off + i) 0, by simp⟩

theorem readArray_append_toList {n off : Nat} (pre : Bytes) (a : ByteArr n) (post : Bytes)
    (h : pre.length = off) : readArray n off (pre ++ a.toList ++ post) = a := by
  apply ByteArr.ext
  apply List.ext_getElem
  · simp [readArray]
  · intro i h1 h2
    have hpre : pre.length ≤ off + i := by omega
    have hread : (pre ++ a.toList ++ post)[off + i]? = some a.toList[i] := by
      rw [List.append_assoc, List.getElem?_append_right hpre, h, Nat.add_sub_cancel_left,
        List.getElem?_append_left h2, List.getElem?_eq_getElem h2]
    simp only [readArray, List.getElem_map, List.getElem_range, List.getD_eq_getElem?_getD, hread,
      Option.getD_some]

theorem readArray_toList {n : Nat} (a : ByteArr n) : readArray n 0 a.toList = a := by
  have happend := readArray_append_toList [] a [] rfl
  rw [List.nil_append, List.append_nil] at happend
  exact happend

/-! ## Little-endian numbers -/

/-- The `k` lowest bytes of `n`, lowest first. -/
def leBytes : Nat → Nat → Bytes
  | 0, _ => []
  | k + 1, n => UInt8.ofNat (n % 256) :: leBytes k (n / 256)

/-- The number whose bytes are given lowest first. -/
def leNat : Bytes → Nat
  | [] => 0
  | b :: bs => b.toNat + 256 * leNat bs

@[simp] theorem length_leBytes (k n : Nat) : (leBytes k n).length = k := by
  induction k generalizing n with
  | zero => rfl
  | succ k ih => simp [leBytes, ih]

theorem leNat_leBytes (k n : Nat) : leNat (leBytes k n) = n % 256 ^ k := by
  induction k generalizing n with
  | zero => simp [leBytes, leNat, Nat.mod_one]
  | succ k ih =>
      have hb : (UInt8.ofNat (n % 256)).toNat = n % 256 := by
        simp
      rw [leBytes, leNat, hb, ih, Nat.pow_succ, Nat.mul_comm (256 ^ k) 256,
        Nat.mod_mul]

/-- Only the `k` lowest bytes are encoded. -/
theorem leBytes_mod (k n : Nat) : leBytes k (n % 256 ^ k) = leBytes k n := by
  induction k generalizing n with
  | zero => rfl
  | succ k ih =>
      rw [leBytes, leBytes, Nat.pow_succ, Nat.mul_comm (256 ^ k) 256, Nat.mod_mul_right_mod,
        Nat.mod_mul_right_div_self, ih]

/-- Below `256 ^ k` the encoding determines the number. -/
theorem leBytes_inj {k m n : Nat} (hm : m < 256 ^ k) (hn : n < 256 ^ k)
    (h : leBytes k m = leBytes k n) : m = n := by
  have h' := congrArg leNat h
  rwa [leNat_leBytes, leNat_leBytes, Nat.mod_eq_of_lt hm, Nat.mod_eq_of_lt hn] at h'

theorem getElem?_leBytes (k n i : Nat) :
    (leBytes k n)[i]? = if i < k then some (UInt8.ofNat (n / 256 ^ i % 256)) else none := by
  induction k generalizing n i with
  | zero => simp [leBytes]
  | succ k ih =>
      cases i with
      | zero => simp [leBytes]
      | succ i =>
          rw [leBytes, List.getElem?_cons_succ, ih, pow_succ', Nat.div_div_eq_div_mul]
          simp only [Nat.add_lt_add_iff_right]

/-- The bits of a little-endian number are the bits of its bytes. -/
theorem testBit_leNat (bs : Bytes) (t : Nat) :
    (leNat bs).testBit t = (bs.getD (t / 8) 0).toNat.testBit (t % 8) := by
  induction bs generalizing t with
  | nil => simp [leNat]
  | cons b bs ih =>
      have hb : b.toNat < 2 ^ 8 := b.toNat_lt
      rw [leNat, Nat.add_comm, Nat.testBit_two_pow_mul_add (leNat bs) hb t]
      split
      case isTrue ht =>
          rw [Nat.div_eq_of_lt ht, Nat.mod_eq_of_lt ht]
          rfl
      case isFalse ht =>
          have hdiv : t / 8 = (t - 8) / 8 + 1 := by omega
          have hmod : t % 8 = (t - 8) % 8 := by omega
          rw [ih, hdiv, hmod, List.getD_cons_succ]

/-! ## Arrays written position by position -/

/-- The list after `out[i] = f i` for every `i` below `n`. -/
def fill {α : Type} (f : Nat → α) (n : Nat) (out : List α) : List α :=
  (List.range n).foldl (fun out i => out.set i (f i)) out

theorem fill_succ {α : Type} (f : Nat → α) (n : Nat) (out : List α) :
    fill f (n + 1) out = (fill f n out).set n (f n) := by
  simp [fill, List.range_succ]

@[simp] theorem length_fill {α : Type} (f : Nat → α) (n : Nat) (out : List α) :
    (fill f n out).length = out.length := by
  induction n with
  | zero => rfl
  | succ n ih => rw [fill_succ, List.length_set, ih]

theorem getElem?_fill {α : Type} (f : Nat → α) (n : Nat) (out : List α) (i : Nat) :
    (fill f n out)[i]? = if i < n ∧ i < out.length then some (f i) else out[i]? := by
  induction n with
  | zero => simp [fill]
  | succ n ih =>
      rw [fill_succ, List.getElem?_set, length_fill, ih]
      grind

end Aivpn.Lib
