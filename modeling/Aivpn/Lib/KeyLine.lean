import Mathlib.Data.List.Nodup
import Mathlib.Data.List.Count

/-!
# Senders that count

A sender has one key at a time and numbers the packets under a key from zero. `InOrder ν keys n used`
is the history of such a sender: the keys it has had, the number of packets under the current one,
and the pairs of key and nonce it has used, all newest first. When the keys are distinct, the pairs
under a key are the first ones, as many as there are (`InOrder.mem_iff`). Hence two senders share a
pair exactly when both have sent enough packets under its key (`InOrder.shared_iff`).

Keys that are derived one from the other form a chain (`Linked`), and a chain does not repeat
(`Linked.nodup`).
-/

set_option autoImplicit false

namespace Aivpn.Lib

universe u v

variable {K : Type u} {N : Type v} (ν : Nat → N)

/-- The history of a sender. -/
inductive InOrder : List K → Nat → List (K × N) → Prop where
  | start : InOrder [] 0 []
  | rekey {keys : List K} {n : Nat} {used : List (K × N)} (h : InOrder keys n used) (key : K) :
      InOrder (key :: keys) 0 used
  | send {key : K} {keys : List K} {n : Nat} {used : List (K × N)}
      (h : InOrder (key :: keys) n used) : InOrder (key :: keys) (n + 1) ((key, ν n) :: used)

/-- The number of pairs under a key. -/
def usedUnder [DecidableEq K] (key : K) (used : List (K × N)) : Nat :=
  used.countP fun pair => pair.1 = key

variable {ν} {keys : List K} {n : Nat} {used : List (K × N)}

/-- Every pair is under one of the keys. -/
theorem InOrder.key_mem (h : InOrder ν keys n used) : ∀ pair ∈ used, pair.1 ∈ keys := by
  induction h with
  | start => simp
  | rekey h key ih => exact fun pair hpair => List.mem_cons_of_mem _ (ih pair hpair)
  | send h ih =>
      intro pair hpair
      rcases List.mem_cons.1 hpair with rfl | hold
      · exact List.mem_cons_self
      · exact ih pair hold

variable [DecidableEq K]

theorem usedUnder_cons_self (key : K) (x : N) (used : List (K × N)) :
    usedUnder key ((key, x) :: used) = usedUnder key used + 1 := by
  simp [usedUnder]

theorem usedUnder_cons_of_ne {key key' : K} (hne : key' ≠ key) (x : N) (used : List (K × N)) :
    usedUnder key ((key', x) :: used) = usedUnder key used := by
  simp [usedUnder, hne]

/-- The packets under the current key are counted by `n`. -/
theorem InOrder.usedUnder_current (h : InOrder ν keys n used) (hkeys : keys.Nodup) {key : K}
    (hhead : keys.head? = some key) : usedUnder key used = n := by
  induction h with
  | start => cases hhead
  | rekey h key' ih =>
      obtain rfl : key' = key := Option.some.inj hhead
      rw [usedUnder, List.countP_eq_zero]
      intro pair hpair
      have hold := h.key_mem pair hpair
      rw [decide_eq_true_eq]
      rintro rfl
      exact (List.nodup_cons.1 hkeys).1 hold
  | send h ih =>
      obtain rfl := Option.some.inj hhead
      rw [usedUnder_cons_self, ih hkeys hhead]

/-- With distinct keys, the pairs under a key have the first nonces. -/
theorem InOrder.mem_iff (h : InOrder ν keys n used) (hkeys : keys.Nodup) (key : K) (x : N) :
    (key, x) ∈ used ↔ ∃ i < usedUnder key used, x = ν i := by
  induction h with
  | start => simp [usedUnder]
  | rekey h key' ih => exact ih (List.nodup_cons.1 hkeys).2
  | @send key' keys n used h ih =>
      by_cases heq : key' = key
      · subst heq
        have hcount := h.usedUnder_current hkeys rfl
        rw [List.mem_cons, ih hkeys, usedUnder_cons_self, hcount]
        constructor
        · rintro (hlast | ⟨i, hi, hx⟩)
          · exact ⟨n, Nat.lt_succ_self n, (Prod.mk.inj hlast).2⟩
          · exact ⟨i, Nat.lt_succ_of_lt hi, hx⟩
        · rintro ⟨i, hi, rfl⟩
          rcases Nat.lt_succ_iff_lt_or_eq.1 hi with hlt | rfl
          · exact Or.inr ⟨i, hlt, rfl⟩
          · exact Or.inl rfl
      · rw [List.mem_cons, ih hkeys, usedUnder_cons_of_ne heq]
        simp [Ne.symm heq]

theorem usedUnder_cons (key key' : K) (x : N) (used : List (K × N)) :
    usedUnder key ((key', x) :: used) = usedUnder key used + if key' = key then 1 else 0 := by
  by_cases heq : key' = key
  · subst heq
    simp [usedUnder_cons_self]
  · simp [usedUnder_cons_of_ne heq, heq]

/-- With distinct keys and nonces that repeat with period `m`, no pair is used twice as long as no
key is used for more than `m` packets, and not any longer. -/
theorem InOrder.nodup_iff {m : Nat} (hm : 0 < m) (hν : ∀ i j, ν i = ν j ↔ i % m = j % m)
    (h : InOrder ν keys n used) (hkeys : keys.Nodup) :
    used.Nodup ↔ ∀ key, usedUnder key used ≤ m := by
  induction h with
  | start => simp [usedUnder]
  | rekey h key ih => exact ih (List.nodup_cons.1 hkeys).2
  | @send key keys n used h ih =>
      have hcount := h.usedUnder_current hkeys rfl
      -- the number `n` has been taken before exactly when it has wrapped around
      have hfresh : (key, ν n) ∉ used ↔ n < m := by
        rw [h.mem_iff hkeys, hcount]
        constructor
        · intro hnot
          by_contra hle
          exact hnot ⟨n - m, by omega, (hν _ _).2 (Nat.mod_eq_sub_mod (by omega))⟩
        · rintro hlt ⟨i, hi, heq⟩
          rw [hν, Nat.mod_eq_of_lt hlt, Nat.mod_eq_of_lt (by omega)] at heq
          omega
      rw [List.nodup_cons, hfresh, ih hkeys]
      constructor
      · rintro ⟨hlt, hall⟩ key'
        rw [usedUnder_cons]
        split_ifs with heq
        · subst heq
          omega
        · exact hall key'
      · intro hall
        constructor
        · have hself := hall key
          rw [usedUnder_cons_self] at hself
          omega
        · intro key'
          have hkey := hall key'
          rw [usedUnder_cons] at hkey
          omega

/-- Two senders share a pair exactly when both have sent more packets under its key than the number
of its nonce. -/
theorem InOrder.shared_iff {keys' : List K} {n' : Nat} {used' : List (K × N)}
    (h : InOrder ν keys n used) (hkeys : keys.Nodup) (h' : InOrder ν keys' n' used')
    (hkeys' : keys'.Nodup) (key : K) (x : N) :
    ((key, x) ∈ used ∧ (key, x) ∈ used') ↔
      ∃ i, x = ν i ∧ i < usedUnder key used ∧ i < usedUnder key used' := by
  rw [h.mem_iff hkeys, h'.mem_iff hkeys']
  constructor
  · rintro ⟨⟨i, hi, rfl⟩, ⟨j, hj, hx⟩⟩
    -- of the two numbers of the nonce, the smaller one counts on both sides
    rcases Nat.le_total i j with hle | hle
    · exact ⟨i, rfl, hi, Nat.lt_of_le_of_lt hle hj⟩
    · exact ⟨j, hx, Nat.lt_of_le_of_lt hle hi, hj⟩
  · rintro ⟨i, rfl, hi, hj⟩
    exact ⟨⟨i, hi, rfl⟩, ⟨i, hj, rfl⟩⟩

/-! ## Chains of derived keys -/

section Chain

variable {ι : Type u} {κ : Type v} (key : ι → κ) (previous : ι → Option κ) (seed : Option κ)

/-- The inputs of a chain of keys, newest first: each one takes up the key derived before it, and the
first one the seed. -/
def Linked : List ι → Prop
  | [] => True
  | [i] => previous i = seed
  | i :: j :: rest => previous i = some (key j) ∧ Linked (j :: rest)

variable {key previous seed}

theorem linked_cons {i : ι} {inputs : List ι} (h : Linked key previous seed inputs)
    (hi : previous i = (inputs.head?.map key).or seed) :
    Linked key previous seed (i :: inputs) := by
  cases inputs with
  | nil => exact hi
  | cons j rest => exact ⟨hi, h⟩

theorem Linked.tail {i : ι} {inputs : List ι} (h : Linked key previous seed (i :: inputs)) :
    Linked key previous seed inputs := by
  cases inputs with
  | nil => trivial
  | cons j rest => exact h.2

/-- What an input takes up: the key of a later place in the list, or the seed. -/
theorem Linked.previous_of_mem {i : ι} {inputs : List ι} (h : Linked key previous seed inputs)
    (hi : i ∈ inputs) : previous i = seed ∨ ∃ j ∈ inputs.tail, previous i = some (key j) := by
  induction inputs with
  | nil => cases hi
  | cons k rest ih =>
      rcases List.mem_cons.1 hi with rfl | hrest
      · cases rest with
        | nil => exact Or.inl h
        | cons j rest => exact Or.inr ⟨j, List.mem_cons_self, h.1⟩
      · rcases ih h.tail hrest with hseed | ⟨j, hj, hkey⟩
        · exact Or.inl hseed
        · exact Or.inr ⟨j, List.mem_of_mem_tail hj, hkey⟩

/-- A chain never comes back to an input, when distinct inputs give distinct keys and none of them is
the seed. -/
theorem Linked.nodup {inputs : List ι} (h : Linked key previous seed inputs)
    (hinj : ∀ i ∈ inputs, ∀ j ∈ inputs, key i = key j → i = j)
    (hseed : ∀ i ∈ inputs, seed ≠ some (key i)) : inputs.Nodup := by
  induction inputs with
  | nil => exact List.nodup_nil
  | cons i rest ih =>
      have hrest : rest.Nodup := ih h.tail
        (fun j hj k hk => hinj j (List.mem_cons_of_mem _ hj) k (List.mem_cons_of_mem _ hk))
        (fun j hj => hseed j (List.mem_cons_of_mem _ hj))
      refine List.nodup_cons.2 ⟨fun hi => ?_, hrest⟩
      cases rest with
      | nil => cases hi
      | cons j rest =>
          -- `i` takes up the key of `j`; its other occurrence takes up the seed or a key below `j`
          rcases h.tail.previous_of_mem hi with hprev | ⟨k, hk, hprev⟩
          · exact hseed j (by simp) (hprev.symm.trans h.1)
          · have hkey : key k = key j := Option.some.inj (hprev.symm.trans h.1)
            have hkj := hinj k (List.mem_cons_of_mem _ (List.mem_cons_of_mem _ hk)) j (by simp) hkey
            rw [hkj] at hk
            exact (List.nodup_cons.1 hrest).1 hk

end Chain

end Aivpn.Lib
