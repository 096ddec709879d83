import Aivpn.Lib.PaddedText
import Mathlib.Data.List.DropRight

/-!
# Writing bytes as text, with and without padding

`Alphabet.encode` writes the text that `Alphabet.Encodes` allows, and so `Alphabet.decode` reads it
back (`decode_encode`). The padding can be left out: the length of the text says how much of it
there was, and `repad` puts it back.

Alphabets of the same width write the same digits. A text in one of them is that in the other with
the characters replaced (`map_unpadded`).
-/

set_option autoImplicit false

namespace Aivpn.Lib.Alphabet

variable (A : Alphabet)

/-- How many digits hold `n` bits. -/
def digitCount (n : Nat) : Nat := (n + (A.width - 1)) / A.width

/-- The digits of bytes. The last one is filled up with zeros. -/
def digits (data : Bytes) : List Nat :=
  let bits := byteBits data
  let count := A.digitCount bits.length
  groups A.width count (bits ++ List.replicate (A.width * count - bits.length) false)

/-- How many characters a text of length `n` lacks to whole quanta. -/
def missing (n : Nat) : Nat := (A.quantum - n % A.quantum) % A.quantum

/-- The text of bytes, without padding. -/
def unpadded (data : Bytes) : Text := (A.digits data).map A.char

/-- A text padded to whole quanta. -/
def repad (text : Text) : Text := text ++ List.replicate (A.missing text.length) '='

/-- The text of bytes. -/
def encode (data : Bytes) : Text := A.repad (A.unpadded data)

/-! ## Digits -/

section

variable {A} {data : Bytes}

theorem digits_lt (data : Bytes) : ∀ d ∈ A.digits data, d < 2 ^ A.width := by
  intro d hd
  apply groups_lt A.width _ _ d hd

/-- The digits hold all bits, and less than one digit is filled up. -/
theorem digitCount_bounds (n : Nat) :
    n ≤ A.width * A.digitCount n ∧ A.width * A.digitCount n < n + A.width := by
  have hpos := A.width_pos
  have hdiv := Nat.div_add_mod (n + (A.width - 1)) A.width
  have hmod := Nat.mod_lt (n + (A.width - 1)) hpos
  unfold digitCount
  constructor <;> omega

theorem bitsOf_digits (data : Bytes) :
    ∃ fill, fill < A.width ∧
      bitsOf A.width (A.digits data) = byteBits data ++ List.replicate fill false := by
  obtain ⟨hall, hfill⟩ := A.digitCount_bounds (byteBits data).length
  refine ⟨A.width * A.digitCount (byteBits data).length - (byteBits data).length, by omega, ?_⟩
  have hlength : (byteBits data ++ List.replicate
      (A.width * A.digitCount (byteBits data).length - (byteBits data).length) false).length =
        A.width * A.digitCount (byteBits data).length := by
    rw [List.length_append, List.length_replicate]
    omega
  unfold digits
  simp only
  rw [bitsOf_groups (Nat.le_of_eq hlength.symm)]
  apply List.take_of_length_le
  exact Nat.le_of_eq hlength

theorem pad_not_mem_unpadded (data : Bytes) : '=' ∉ A.unpadded data := by
  intro hmem
  obtain ⟨d, hd, hchar⟩ := List.mem_map.1 hmem
  apply A.pad_not_mem
  rw [← hchar]
  exact char_mem (digits_lt data d hd)

theorem mem_chars_of_mem_unpadded {c : Char} (h : c ∈ A.unpadded data) : c ∈ A.chars := by
  obtain ⟨d, hd, rfl⟩ := List.mem_map.1 h
  exact char_mem (digits_lt data d hd)

end

/-! ## Padding -/

section

variable {A} (hquantum : 0 < A.quantum)

include hquantum

theorem missing_lt (n : Nat) : A.missing n < A.quantum := Nat.mod_lt _ hquantum

theorem quantum_dvd_missing (n : Nat) : A.quantum ∣ n + A.missing n := by
  have hmod := Nat.mod_lt n hquantum
  apply Nat.dvd_of_mod_eq_zero
  unfold missing
  rw [Nat.add_mod, Nat.mod_mod]
  by_cases hzero : n % A.quantum = 0
  · rw [hzero, Nat.sub_zero, Nat.mod_self, Nat.zero_add, Nat.zero_mod]
  · rw [Nat.mod_eq_of_lt (a := A.quantum - n % A.quantum) (by omega)]
    have hsum : n % A.quantum + (A.quantum - n % A.quantum) = A.quantum := by omega
    rw [hsum, Nat.mod_self]

/-- What is written is the text of the bytes. -/
theorem encodes_encode (data : Bytes) : A.Encodes data (A.encode data) := by
  obtain ⟨fill, hfill, hbits⟩ := A.bitsOf_digits data
  refine ⟨A.digits data, fill, _, digits_lt data, hbits, hfill, rfl, missing_lt hquantum _, ?_⟩
  unfold encode repad
  rw [List.length_append, List.length_replicate]
  exact quantum_dvd_missing hquantum _

theorem decode_encode (data : Bytes) : A.decode (A.encode data) = some data :=
  decode_eq_some_iff.2 (encodes_encode hquantum data)

end

/-- Without the padding at its end, the text of bytes is the unpadded one. -/
theorem rdropWhile_encode (data : Bytes) :
    (A.encode data).rdropWhile (· = '=') = A.unpadded data := by
  unfold encode repad
  induction A.missing (A.unpadded data).length with
  | zero =>
      rw [List.replicate_zero, List.append_nil]
      apply List.rdropWhile_eq_self_iff.2
      intro hne hlast
      apply A.pad_not_mem_unpadded data
      rw [← of_decide_eq_true hlast]
      exact List.getLast_mem hne
  | succ n ih =>
      rw [List.replicate_succ', ← List.append_assoc, List.rdropWhile_concat_pos _ _ _ rfl, ih]

/-- Alphabets of the same width write the same digits. -/
theorem map_unpadded {A B : Alphabet} {f : Char → Char} (hwidth : A.width = B.width)
    (hf : ∀ d < 2 ^ A.width, f (A.char d) = B.char d) (data : Bytes) :
    (A.unpadded data).map f = B.unpadded data := by
  have hdigits : A.digits data = B.digits data := by
    unfold digits digitCount
    rw [hwidth]
  unfold unpadded
  rw [List.map_map, ← hdigits]
  apply List.map_congr_left
  intro d hd
  exact hf d (digits_lt data d hd)

end Aivpn.Lib.Alphabet
