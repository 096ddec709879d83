import Aivpn.Lib.Bytes

/-!
# One's complement arithmetic

Words below a base `B` are added with the carry brought around to the low end. The sum of many words
is that of their plain sum, `reduce B n`: zero for zero, and otherwise the representative of `n` modulo
`B - 1` among `1, …, B - 1` (`sum_eq_reduce`). Folding the carries of a plain sum does not change it
(`reduce_fold`), and a word of the complement brings it to `B - 1` (`reduce_add_complement`).
-/

set_option autoImplicit false

namespace Aivpn.Lib.OnesComplement

variable {B : Nat}

/-- The carry of a number added to its low word. -/
def fold (B n : Nat) : Nat := n % B + n / B

/-- One's complement addition. -/
def add (B a b : Nat) : Nat := fold B (a + b)

/-- The one's complement sum. -/
def sum (B : Nat) (ws : List Nat) : Nat := ws.foldl (add B) 0

/-- The word that a plain sum stands for. -/
def reduce (B n : Nat) : Nat := if n = 0 then 0 else (n - 1) % (B - 1) + 1

theorem reduce_of_lt {n : Nat} (h : n < B) : reduce B n = n := by
  unfold reduce
  split_ifs with hzero
  · exact hzero.symm
  · rw [Nat.mod_eq_of_lt (by omega)]
    omega

theorem reduce_add_mul {n : Nat} (hpos : 0 < n) (k : Nat) :
    reduce B (n + k * (B - 1)) = reduce B n := by
  have hshift : n + k * (B - 1) - 1 = n - 1 + k * (B - 1) := by omega
  unfold reduce
  rw [if_neg (by omega), if_neg (by omega), hshift, Nat.add_mul_mod_self_right]

theorem eq_fold_add (hB : 0 < B) (n : Nat) : n = fold B n + n / B * (B - 1) := by
  have hdiv := Nat.mod_add_div n B
  have hmul : n / B * (B - 1) + n / B = B * (n / B) := by
    obtain ⟨b, rfl⟩ := Nat.exists_eq_succ_of_ne_zero (Nat.pos_iff_ne_zero.1 hB)
    rw [Nat.succ_sub_one, Nat.mul_comm (Nat.succ b), Nat.mul_succ]
  unfold fold
  omega

theorem fold_pos (hB : 0 < B) {n : Nat} (hpos : 0 < n) : 0 < fold B n := by
  rcases Nat.eq_zero_or_pos (fold B n) with hzero | h
  · have hsplit := eq_fold_add hB n
    have hdiv : n / B = 0 := (Nat.add_eq_zero_iff.1 hzero).2
    rw [hzero, hdiv, Nat.zero_mul] at hsplit
    omega
  · exact h

/-- Folding the carries keeps the word. -/
theorem reduce_fold (hB : 0 < B) (n : Nat) : reduce B (fold B n) = reduce B n := by
  rcases Nat.eq_zero_or_pos n with rfl | hpos
  · unfold fold
    rw [Nat.zero_mod, Nat.zero_div]
  · calc reduce B (fold B n) = reduce B (fold B n + n / B * (B - 1)) :=
          (reduce_add_mul (fold_pos hB hpos) _).symm
      _ = reduce B n := by rw [← eq_fold_add hB n]

/-- Adding two words carries at most once. -/
theorem add_lt {a b : Nat} (ha : a < B) (hb : b < B) : add B a b < B := by
  unfold add fold
  by_cases h : a + b < B
  · rw [Nat.mod_eq_of_lt h, Nat.div_eq_of_lt h]
    omega
  · have hdiv : (a + b) / B = 1 := by
      rw [Nat.div_eq_iff (by omega)]
      omega
    have hmod := Nat.mod_add_div (a + b) B
    rw [hdiv, Nat.mul_one] at hmod
    omega

theorem foldl_add_eq_reduce (hB : 0 < B) {ws : List Nat} (hws : ∀ w ∈ ws, w < B) {a : Nat}
    (ha : a < B) : ws.foldl (add B) a = reduce B (a + ws.sum) := by
  induction ws generalizing a with
  | nil => exact (reduce_of_lt ha).symm
  | cons w ws ih =>
      have hw : w < B := hws w List.mem_cons_self
      rw [List.foldl_cons, ih (fun x hx => hws x (List.mem_cons_of_mem _ hx)) (add_lt ha hw),
        List.sum_cons, ← Nat.add_assoc]
      -- the carry that was brought around is a multiple of `B - 1`
      rcases Nat.eq_zero_or_pos (a + w) with hzero | hpos
      · rw [hzero]
        unfold add fold
        rw [hzero, Nat.zero_mod, Nat.zero_div]
      · have hsplit := eq_fold_add hB (a + w)
        have hfold : 0 < add B a w := fold_pos hB hpos
        calc reduce B (add B a w + ws.sum)
            = reduce B (add B a w + ws.sum + (a + w) / B * (B - 1)) :=
              (reduce_add_mul (by omega) _).symm
          _ = reduce B (a + w + ws.sum) := by
              congr 1
              unfold add
              omega

/-- The one's complement sum of words, from their plain sum. -/
theorem sum_eq_reduce (hB : 0 < B) {ws : List Nat} (hws : ∀ w ∈ ws, w < B) :
    sum B ws = reduce B ws.sum := by
  unfold sum
  rw [foldl_add_eq_reduce hB hws hB, Nat.zero_add]

/-- The complement of a sum brings it to the word of ones. -/
theorem reduce_add_complement (hB : 2 ≤ B) (n : Nat) :
    reduce B (n + (B - 1 - reduce B n)) = B - 1 := by
  rcases Nat.eq_zero_or_pos n with rfl | hpos
  · have hzero : reduce B 0 = 0 := if_pos rfl
    rw [hzero, Nat.zero_add, Nat.sub_zero, reduce_of_lt (by omega)]
  · have hreduce : reduce B n = (n - 1) % (B - 1) + 1 := if_neg (by omega)
    have hlt : (n - 1) % (B - 1) < B - 1 := Nat.mod_lt _ (by omega)
    have hdiv := Nat.mod_add_div (n - 1) (B - 1)
    have hsum : n + (B - 1 - reduce B n) = B - 1 + (n - 1) / (B - 1) * (B - 1) := by
      rw [hreduce, Nat.mul_comm ((n - 1) / (B - 1))]
      omega
    rw [hsum, reduce_add_mul (by omega), reduce_of_lt (by omega)]

/-! ## Words of bytes -/

/-- The big-endian words of a byte string; an odd one is filled up with a zero. -/
def words : Bytes → List Nat
  | b0 :: b1 :: rest => (b0.toNat * 256 + b1.toNat) :: words rest
  | [b0] => [b0.toNat * 256]
  | [] => []

theorem lt_of_mem_words {data : Bytes} : ∀ w ∈ words data, w < 65536 := by
  induction data using words.induct with
  | case1 b0 b1 rest ih =>
      intro w hw
      rcases List.mem_cons.1 hw with rfl | hrest
      · have h0 := b0.toNat_lt
        have h1 := b1.toNat_lt
        omega
      · exact ih w hrest
  | case2 b0 =>
      intro w hw
      have h0 := b0.toNat_lt
      rw [words, List.mem_singleton] at hw
      omega
  | case3 => exact fun w hw => absurd hw List.not_mem_nil

/-- Every two bytes add one word at most. -/
theorem sum_words_le (data : Bytes) : 2 * (words data).sum ≤ (data.length + 1) * 65535 := by
  induction data using words.induct with
  | case1 b0 b1 rest ih =>
      have h0 := b0.toNat_lt
      have h1 := b1.toNat_lt
      simp only [words, List.sum_cons, List.length_cons]
      omega
  | case2 b0 =>
      have h0 := b0.toNat_lt
      simp only [words, List.sum_cons, List.sum_nil, List.length_cons, List.length_nil]
      omega
  | case3 => decide

end Aivpn.Lib.OnesComplement
