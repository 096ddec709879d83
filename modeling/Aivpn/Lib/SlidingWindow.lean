import Mathlib.Data.Set.Insert

/-!
# Sliding windows

A bitmap of `size` bits below a highest counter: bit `i` says whether the counter `highest - i` has
been seen. `Tracks` is about the bits as a function, so that it fits any representation of them;
`Tracks.advance` moves the window up to a new highest counter, `Tracks.mark` sets a bit inside it.
-/

set_option autoImplicit false

namespace Aivpn.Lib.SlidingWindow

variable {bits bits' : Nat → Bool} {size highest c : Nat} {seen : Set Nat}

/-- Relative to `highest`, the bits record which of the last `size` counters are in `seen`. -/
def Tracks (bits : Nat → Bool) (size highest : Nat) (seen : Set Nat) : Prop :=
  ∀ i, i < size → i ≤ highest → (bits i = true ↔ highest - i ∈ seen)

theorem tracks_empty (h : ∀ i < size, bits i = false) (highest : Nat) :
    Tracks bits size highest ∅ := by
  intro i hi _
  simp [h i hi]

/-- A counter above the highest one moves the bits up and sets the lowest one. -/
theorem Tracks.advance (h : Tracks bits size highest seen) (hle : ∀ x ∈ seen, x ≤ highest)
    (hlt : highest < c)
    (hbits : ∀ i < size,
      bits' i = (decide (0 = i) || (decide (c - highest ≤ i) && bits (i - (c - highest))))) :
    Tracks bits' size c (insert c seen) := by
  intro i hi hic
  rw [hbits i hi]
  by_cases h0 : 0 = i
  · subst h0
    simp
  · have hne : c - i ≠ c := by omega
    by_cases hk : c - highest ≤ i
    · have harg : highest - (i - (c - highest)) = c - i := by omega
      have hbit := h (i - (c - highest)) (by omega) (by omega)
      rw [harg] at hbit
      simp [h0, hk, hne, hbit]
    · -- between the old and the new highest counter nothing has been seen
      have hnot : c - i ∉ seen := fun hmem => by
        have := hle _ hmem
        omega
      simp [h0, hk, hne, hnot]

/-- A counter inside the window sets its own bit. -/
theorem Tracks.mark (h : Tracks bits size highest seen) (hc : c ≤ highest)
    (hbits : ∀ i < size, bits' i = (decide (highest - c = i) || bits i)) :
    Tracks bits' size highest (insert c seen) := by
  intro i hi hih
  rw [hbits i hi]
  by_cases heq : highest - c = i
  · have hci : highest - i = c := by omega
    simp [heq, hci]
  · have hne : highest - i ≠ c := by omega
    simp [heq, hne, h i hi hih]

/-- A counter below the window changes no bit. -/
theorem Tracks.mark_below (h : Tracks bits size highest seen) (hout : size ≤ highest - c) :
    Tracks bits size highest (insert c seen) := by
  intro i hi hih
  have hne : highest - i ≠ c := by omega
  simp [hne, h i hi hih]

end Aivpn.Lib.SlidingWindow
