import Aivpn.Lib.SlidingWindow
import Mathlib.Data.Set.Insert
import Mathlib.Tactic.Common

/-!
# Sliding receive windows over a two-word bitmap

A bitmap of `2 * w` bits is stored in two words of `w` bits. `shl` moves every bit
up by a distance of any size; bits that leave the top are dropped. Over it stands
the notion a receive window needs: `Tracks bits highest seen` says that, relative
to the highest counter, the bits record exactly which of the last `2 * w` counters
have been seen. Advancing the window (`Tracks.advance`) and marking inside it
(`Tracks.mark`) keep the relation for every jump distance.
-/

set_option autoImplicit false

namespace Aivpn.Lib

variable {w : Nat}

/-- A bitmap of `2 * w` bits in two words, the low word first. -/
structure WideBits (w : Nat) where
  lo : BitVec w
  hi : BitVec w
deriving DecidableEq, Repr

namespace WideBits

/-- No bit set. -/
def zero : WideBits w := ⟨0#w, 0#w⟩

/-- Bit `i` of the bitmap. -/
def test (b : WideBits w) (i : Nat) : Bool :=
  if i < w then b.lo.getLsbD i else b.hi.getLsbD (i - w)

/-- The bitmap with bit `i` set. -/
def setAt (b : WideBits w) (i : Nat) : WideBits w :=
  if i < w then ⟨b.lo ||| (1#w <<< i), b.hi⟩ else ⟨b.lo, b.hi ||| (1#w <<< (i - w))⟩

/-- Every bit moved up by `k`; bits moved past the top are dropped. -/
def shl (b : WideBits w) (k : Nat) : WideBits w :=
  if 2 * w ≤ k then zero
  else if w ≤ k then ⟨0#w, b.lo <<< (k - w)⟩
  else ⟨b.lo <<< k, (b.hi <<< k) ||| (b.lo >>> (w - k))⟩

@[simp] theorem test_zero (i : Nat) : (zero : WideBits w).test i = false := by
  simp [test, zero]

theorem getLsbD_one_shiftLeft (i j : Nat) :
    (1#w <<< i).getLsbD j = (decide (j < w) && decide (i = j)) := by
  rw [← BitVec.twoPow_eq, BitVec.getLsbD_twoPow]
  by_cases hij : i = j
  · subst hij
    simp
  · simp [hij]

theorem test_setAt (b : WideBits w) (i : Nat) {j : Nat} (hj : j < 2 * w) :
    (b.setAt i).test j = (decide (i = j) || b.test j) := by
  by_cases hiw : i < w <;> by_cases hjw : j < w
  · simp only [setAt, test, hiw, hjw, if_true, BitVec.getLsbD_or, getLsbD_one_shiftLeft,
      decide_true, Bool.true_and, Bool.or_comm]
  · have hne : i ≠ j := by omega
    simp [setAt, test, hiw, hjw, hne]
  · have hne : i ≠ j := by omega
    simp [setAt, test, hiw, hjw, hne]
  · have hlt : j - w < w := by omega
    have heq : (i - w = j - w) ↔ i = j := by omega
    simp only [setAt, test, hiw, hjw, if_false, BitVec.getLsbD_or, getLsbD_one_shiftLeft, hlt, heq,
      decide_true, Bool.true_and, Bool.or_comm]

/-- A shifted bitmap holds bit `j` exactly when the original held bit `j - k`. -/
theorem test_shl (b : WideBits w) (k : Nat) {j : Nat} (hj : j < 2 * w) :
    (b.shl k).test j = (decide (k ≤ j) && b.test (j - k)) := by
  by_cases hbig : 2 * w ≤ k
  · have hk : ¬ k ≤ j := by omega
    simp [shl, hbig, hk]
  by_cases hmid : w ≤ k
  · by_cases hjw : j < w
    · have hk : ¬ k ≤ j := by omega
      simp [shl, hbig, hmid, test, hjw, hk]
    · have hlt : j - w < w := by omega
      by_cases hk : k ≤ j
      · have h1 : ¬ j - w < k - w := by omega
        have h2 : j - w - (k - w) = j - k := by omega
        have h3 : j - k < w := by omega
        simp [shl, hbig, hmid, test, hjw, hk, hlt, h1, h2, h3]
      · have h1 : j - w < k - w := by omega
        simp [shl, hbig, hmid, test, hjw, hk, h1]
  · by_cases hjw : j < w
    · by_cases hk : k ≤ j
      · have h1 : ¬ j < k := by omega
        have h2 : j - k < w := by omega
        simp [shl, hbig, hmid, test, hjw, hk, h1, h2]
      · have h1 : j < k := by omega
        simp [shl, hbig, hmid, test, hjw, hk, h1]
    · -- bit `j` comes from the high word, or crosses over from the low word
      have hk : k ≤ j := by omega
      have hlt : j - w < w := by omega
      by_cases hcross : j - k < w
      · have h1 : j - w < k := by omega
        have h2 : w - k + (j - w) = j - k := by omega
        simp [shl, hbig, hmid, test, hjw, hk, h1, h2, hcross]
      · have h1 : ¬ j - w < k := by omega
        have h2 : j - w - k = j - k - w := by omega
        have h3 : w ≤ w - k + (j - w) := by omega
        have h4 : b.lo.getLsbD (w - k + (j - w)) = false := BitVec.getLsbD_of_ge _ _ h3
        simp only [shl, hbig, hmid, test, hjw, if_false, BitVec.getLsbD_or, BitVec.getLsbD_shiftLeft,
          BitVec.getLsbD_ushiftRight, h1, h2, h4, hcross, hlt, hk, decide_true, decide_false,
          Bool.not_false, Bool.true_and, Bool.or_false]

/-! ## Tracking the counters seen so far -/

/-- Relative to `highest`, the bits record which of the last `2 * w` counters are in `seen`. -/
def Tracks (b : WideBits w) (highest : Nat) (seen : Set Nat) : Prop :=
  ∀ i, i < 2 * w → i ≤ highest → (b.test i = true ↔ highest - i ∈ seen)

theorem tracks_zero (highest : Nat) : Tracks (zero : WideBits w) highest ∅ :=
  SlidingWindow.tracks_empty (fun _ _ => by simp) highest

/-- A counter above the highest one moves the window up and sets its lowest bit. -/
theorem Tracks.advance {b : WideBits w} {highest c : Nat} {seen : Set Nat}
    (h : Tracks b highest seen) (hle : ∀ x ∈ seen, x ≤ highest) (hlt : highest < c) :
    Tracks ((b.shl (c - highest)).setAt 0) c (insert c seen) := by
  apply SlidingWindow.Tracks.advance h hle hlt
  intro i hi
  rw [test_setAt _ _ hi, test_shl _ _ hi]

/-- A counter inside the window sets its own bit. -/
theorem Tracks.mark {b : WideBits w} {highest c : Nat} {seen : Set Nat}
    (h : Tracks b highest seen) (hc : c ≤ highest) :
    Tracks (b.setAt (highest - c)) highest (insert c seen) :=
  SlidingWindow.Tracks.mark h hc fun _ hi => test_setAt _ _ hi

/-- A counter below the window changes no bit. -/
theorem Tracks.mark_below {b : WideBits w} {highest c : Nat} {seen : Set Nat}
    (h : Tracks b highest seen) (hout : 2 * w ≤ highest - c) :
    Tracks b highest (insert c seen) := SlidingWindow.Tracks.mark_below h hout

end WideBits

end Aivpn.Lib
