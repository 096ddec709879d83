import Aivpn.Lib.Bytes

/-!
# Machine words of a build

Sums and differences of `usize` values are exact as long as they stay in range. Outside the range a
build with overflow checks panics and any other build wraps around. A byte string in memory takes up
at most half of the range (`Build.Holds`).
-/

set_option autoImplicit false

namespace Aivpn.Lib

/-- A build: how many values a `usize` has, and whether arithmetic is checked. -/
structure Build where
  size : Nat
  overflowChecks : Bool
  large : 65536 ≤ size

namespace Build

variable {ε : Type} (b : Build) {x y : Nat}

/-- `x + y`. -/
def add (x y : Nat) : Exec ε Nat :=
  if x + y < b.size then .ok (x + y)
  else if b.overflowChecks then .error .panic
  else .ok ((x + y) % b.size)

/-- `x - y`. -/
def sub (x y : Nat) : Exec ε Nat :=
  if y ≤ x then .ok (x - y)
  else if b.overflowChecks then .error .panic
  else .ok ((x + (b.size - y)) % b.size)

theorem add_of_lt (h : x + y < b.size) : b.add (ε := ε) x y = .ok (x + y) := if_pos h

theorem add_of_le (h : b.size ≤ x + y) (hx : x < b.size) (hy : y < b.size) :
    b.add (ε := ε) x y =
      if b.overflowChecks then .error .panic else .ok (x + y - b.size) := by
  have hmod : (x + y) % b.size = x + y - b.size := by
    rw [Nat.mod_eq_sub_mod h, Nat.mod_eq_of_lt (by omega)]
  rw [add, if_neg (by omega), hmod]

theorem sub_of_le (h : y ≤ x) : b.sub (ε := ε) x y = .ok (x - y) := if_pos h

theorem sub_of_lt (h : x < y) (hy : y ≤ b.size) :
    b.sub (ε := ε) x y =
      if b.overflowChecks then .error .panic else .ok (x + (b.size - y)) := by
  rw [sub, if_neg (by omega), Nat.mod_eq_of_lt (by omega)]

/-- The bytes fit into one allocation. -/
def Holds (data : Bytes) : Prop := data.length < b.size / 2

instance (data : Bytes) : Decidable (b.Holds data) :=
  inferInstanceAs (Decidable (data.length < b.size / 2))

/-- A byte string in memory. -/
abbrev Slice : Type := {data : Bytes // b.Holds data}

end Build

end Aivpn.Lib
