import Aivpn.Lib.Text

/-!
# Numerals in text

Numbers are written in decimal and read off the front of a text in any radix. What a reader takes
does not depend on the text behind it, as long as that does not go on with a digit
(`readNumber_append`), and reading gives back what was written (`readNumber_decimal`).
-/

set_option autoImplicit false

namespace Aivpn.Lib

/-- `char::to_digit`. -/
def toDigit (radix : Nat) (c : Char) : Option Nat :=
  let n := c.toNat
  let digit := if 48 ≤ n ∧ n ≤ 57 then some (n - 48)
    else if 97 ≤ n ∧ n ≤ 122 then some (n - 87)
    else if 65 ≤ n ∧ n ≤ 90 then some (n - 55)
    else none
  digit.filter (· < radix)

/-- The digits in front, and the text behind them. -/
def readDigits (radix : Nat) : Text → List Nat × Text
  | [] => ([], [])
  | c :: s => match toDigit radix c with
    | some d => (d :: (readDigits radix s).1, (readDigits radix s).2)
    | none => ([], c :: s)

/-- The number that the digits denote. -/
def digitsValue (radix : Nat) (digits : List Nat) : Nat :=
  digits.foldl (fun n d => radix * n + d) 0

/-- `Parser::read_number` of the standard library: a number below `limit` without a sign, with at most
`maxDigits` digits, and without leading zeros unless they are allowed. -/
def readNumber (radix : Nat) (maxDigits : Option Nat) (allowZeroPrefix : Bool) (limit : Nat)
    (s : Text) : Option (Nat × Text) :=
  let digits := (readDigits radix s).1
  if maxDigits.any (· < digits.length) then none
  else if digits = [] then none
  else if allowZeroPrefix = false ∧ s.head? = some '0' ∧ 1 < digits.length then none
  else if digitsValue radix digits < limit then
    some (digitsValue radix digits, (readDigits radix s).2)
  else none

/-- A number as `Display` writes it. -/
def decimal (n : Nat) : Text := Nat.toDigits 10 n

section

variable {radix : Nat} {rest : Text}

theorem readDigits_of_head (hrest : rest.head?.bind (toDigit radix) = none) :
    readDigits radix rest = ([], rest) := by
  cases rest with
  | nil => rfl
  | cons c rest =>
      have hc : toDigit radix c = none := hrest
      simp only [readDigits, hc]

theorem readDigits_append (hrest : rest.head?.bind (toDigit radix) = none) (s : Text) :
    readDigits radix (s ++ rest) = ((readDigits radix s).1, (readDigits radix s).2 ++ rest) := by
  induction s with
  | nil => exact readDigits_of_head hrest
  | cons c s ih =>
      rw [List.cons_append]
      simp only [readDigits]
      cases toDigit radix c with
      | none => rfl
      | some d => rw [ih]

/-- What is read does not depend on what follows, if that is no digit. -/
theorem readNumber_append (hrest : rest.head?.bind (toDigit radix) = none) (maxDigits : Option Nat)
    (allowZeroPrefix : Bool) (limit : Nat) (s : Text) :
    readNumber radix maxDigits allowZeroPrefix limit (s ++ rest) =
      (readNumber radix maxDigits allowZeroPrefix limit s).map fun p => (p.1, p.2 ++ rest) := by
  cases s with
  | nil =>
      rw [List.nil_append]
      unfold readNumber
      rw [readDigits_of_head hrest]
      simp only [readDigits, List.length_nil, if_true]
      split_ifs <;> rfl
  | cons c s =>
      unfold readNumber
      rw [readDigits_append hrest, List.cons_append, List.head?_cons, List.head?_cons]
      simp only
      split_ifs <;> rfl

end

theorem toDigit_of_isDigit {c : Char} (h : c.isDigit) : toDigit 10 c = some (c.toNat - 48) := by
  have hrange : 48 ≤ c.toNat ∧ c.toNat ≤ 57 := by
    rw [Char.isDigit, Bool.and_eq_true, decide_eq_true_iff, decide_eq_true_iff] at h
    exact h
  unfold toDigit
  simp only [hrange, and_self, if_true]
  rw [Option.filter_some, if_pos (decide_eq_true (by omega))]

theorem readDigits_of_isDigit {s : Text} (h : ∀ c ∈ s, c.isDigit) :
    readDigits 10 s = (s.map fun c => c.toNat - 48, []) := by
  induction s with
  | nil => rfl
  | cons c s ih =>
      have hrest := ih fun c' hc' => h c' (List.mem_cons_of_mem _ hc')
      simp only [readDigits, toDigit_of_isDigit (h c List.mem_cons_self), hrest, List.map_cons]

theorem isDigit_of_mem_decimal {n : Nat} {c : Char} (h : c ∈ decimal n) : c.isDigit :=
  Nat.isDigit_of_mem_toDigits (by decide) (by decide) h

theorem decimal_ne_nil (n : Nat) : decimal n ≠ [] := Nat.toDigits_ne_nil

theorem digitsValue_decimal (n : Nat) :
    digitsValue 10 ((decimal n).map fun c => c.toNat - 48) = n := by
  unfold digitsValue
  rw [List.foldl_map]
  exact Nat.ofDigitChars_ten_toDigits

/-- A written number is read back. -/
theorem readNumber_decimal {n limit : Nat} (h : n < limit) :
    readNumber 10 none true limit (decimal n) = some (n, []) := by
  have hne : (decimal n).map (fun c => c.toNat - 48) ≠ [] := by
    rw [Ne, List.map_eq_nil_iff]
    exact decimal_ne_nil n
  unfold readNumber
  rw [readDigits_of_isDigit fun c hc => isDigit_of_mem_decimal hc]
  simp only [digitsValue_decimal, h, hne, Option.any_none, Bool.false_eq_true, Bool.true_eq_false,
    false_and, if_false, if_true]

end Aivpn.Lib
