import Mathlib.Data.List.Prime
import Mathlib.NumberTheory.LucasPrimality

/-!
# Primes by certificate

A certificate of primality is a list of lines. A line names a number `p`, an element `a`
and the prime factors of `p - 1` with their multiplicity; it is accepted after lines for
these factors when `a` has order `p - 1` modulo `p`, which Lucas's test (`lucas_primality`)
turns into the primality of `p`. `accepts` is computed with one squaring for each bit of an
exponent, so that `decide` evaluates it on the certificate of a large prime
(`prime_of_accepts`).
-/

set_option autoImplicit false

namespace Aivpn.Lib.Pratt

/-- `acc * a ^ e` modulo `m`, from the lowest `bits` bits of `e`. -/
def mulPowMod (m : Nat) : Nat → Nat → Nat → Nat → Nat
  | 0, acc, _, _ => acc % m
  | bits + 1, acc, a, e =>
      mulPowMod m bits (if e % 2 = 1 then acc * a % m else acc) (a * a % m) (e / 2)

/-- A number, an element of full order and the prime factors of its predecessor. -/
structure Line where
  p : Nat
  a : Nat
  factors : List Nat

/-- Lucas's test for a line whose factors are among the `known` primes. -/
def Line.accepted (bits : Nat) (known : List Nat) (l : Line) : Bool :=
  decide (1 < l.p) && decide (l.p < 2 ^ bits) && decide (l.factors.prod = l.p - 1) &&
    l.factors.all (known.contains ·) &&
    decide (mulPowMod l.p bits 1 l.a (l.p - 1) = 1) &&
    l.factors.all fun q => decide (mulPowMod l.p bits 1 l.a ((l.p - 1) / q) ≠ 1)

/-- Every line is accepted after the lines before it. -/
def accepts (bits : Nat) : List Nat → List Line → Bool
  | _, [] => true
  | known, l :: ls => l.accepted bits known && accepts bits (l.p :: known) ls

theorem mulPowMod_eq {m bits acc a e : Nat} (h : e < 2 ^ bits) :
    mulPowMod m bits acc a e = acc * a ^ e % m := by
  induction bits generalizing acc a e with
  | zero =>
      have he : e = 0 := by simpa using h
      rw [he, mulPowMod, pow_zero, mul_one]
  | succ bits ih =>
      have hhalf : e / 2 < 2 ^ bits := by
        rw [pow_succ] at h
        omega
      -- the exponent is halved, and the square takes its place
      have hsquare : (a * a % m) ^ (e / 2) ≡ a ^ (2 * (e / 2)) [MOD m] := by
        rw [pow_mul, sq]
        exact (Nat.mod_modEq _ _).pow _
      have hsplit : 2 * (e / 2) + e % 2 = e := Nat.div_add_mod e 2
      rw [mulPowMod, ih hhalf]
      split
      -- an odd exponent leaves one factor for the accumulator
      case isTrue hodd =>
          rw [hodd] at hsplit
          have hacc : acc * a % m ≡ acc * a [MOD m] := Nat.mod_modEq _ _
          have hmul := hacc.mul hsquare
          rw [mul_assoc, ← pow_succ', hsplit] at hmul
          exact hmul
      case isFalse heven =>
          have hzero : e % 2 = 0 := by omega
          rw [hzero, Nat.add_zero] at hsplit
          have hmul := hsquare.mul_left acc
          rw [hsplit] at hmul
          exact hmul

/-- The power in `ZMod p` is one when the power of numbers leaves the remainder one. -/
theorem pow_eq_one_iff {p bits a e : Nat} (hp : 1 < p) (he : e < 2 ^ bits) :
    ((a : ZMod p) ^ e = 1) ↔ mulPowMod p bits 1 a e = 1 := by
  rw [mulPowMod_eq he, one_mul, ← Nat.cast_pow, ← Nat.cast_one, ZMod.natCast_eq_natCast_iff',
    Nat.mod_eq_of_lt hp]

/-- An accepted line names a prime when the known numbers are primes. -/
theorem Line.prime_of_accepted {bits : Nat} {known : List Nat} {l : Line}
    (hknown : ∀ q ∈ known, q.Prime) (h : l.accepted bits known = true) : l.p.Prime := by
  simp only [Line.accepted, Bool.and_eq_true, decide_eq_true_eq, List.all_eq_true,
    List.contains_iff_mem] at h
  obtain ⟨⟨⟨⟨⟨hone, hbits⟩, hprod⟩, hmem⟩, hfull⟩, hpart⟩ := h
  have hlt : ∀ e, e ≤ l.p - 1 → e < 2 ^ bits := by
    intro e he
    omega
  apply lucas_primality l.p (l.a : ZMod l.p)
  · exact (pow_eq_one_iff hone (hlt _ (le_refl _))).mpr hfull
  · intro q hq hdvd hpow
    -- a prime divisor of the product is one of the factors
    rw [← hprod] at hdvd
    obtain ⟨r, hr, hqr⟩ := (Prime.dvd_prod_iff hq.prime).mp hdvd
    have heq : q = r := (Nat.prime_dvd_prime_iff_eq hq (hknown r (hmem r hr))).mp hqr
    subst heq
    exact hpart q hr ((pow_eq_one_iff hone (hlt _ (Nat.div_le_self _ _))).mp hpow)

/-- The numbers of an accepted list of lines are primes. -/
theorem prime_of_accepts {bits : Nat} {known : List Nat} {ls : List Line}
    (hknown : ∀ q ∈ known, q.Prime) (h : accepts bits known ls = true) :
    ∀ l ∈ ls, l.p.Prime := by
  induction ls generalizing known with
  | nil => simp
  | cons l ls ih =>
      rw [accepts, Bool.and_eq_true] at h
      have hl : l.p.Prime := l.prime_of_accepted hknown h.1
      have htail := ih (List.forall_mem_cons.mpr ⟨hl, hknown⟩) h.2
      exact List.forall_mem_cons.mpr ⟨hl, htail⟩

end Aivpn.Lib.Pratt
