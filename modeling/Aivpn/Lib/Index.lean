import Mathlib.Data.List.Basic
import Mathlib.Tactic.Common

/-!
# Indexes from keys to owners

An index maps a key to the one owner that has it. It is kept by hand beside the owners: keys are
entered when an owner gets them and taken out when it loses them, key by key or all of an owner at
once. `Index.Exact` says that nothing is missing and nothing is left over; the lemmas say how the
operations keep it when the keys of one owner are replaced, and what that needs of the new keys.
-/

set_option autoImplicit false

universe u v

namespace Aivpn.Lib

namespace Index

variable {κ : Type u} {ι : Type v}

/-! ## Exactness -/

/-- A key is indexed for `i` exactly when `i` is live and has the key. -/
def Exact (live : ι → Prop) (keys : ι → List κ) (f : κ → Option ι) : Prop :=
  ∀ k i, f k = some i ↔ live i ∧ k ∈ keys i

variable {live : ι → Prop} {keys keys' : ι → List κ} {f : κ → Option ι} {i : ι}

theorem Exact.congr {live' : ι → Prop} (h : Exact live keys f) (hlive : ∀ j, live' j ↔ live j)
    (hkeys : ∀ j, live j → keys' j = keys j) : Exact live' keys' f := by
  intro k j
  rw [h k j, hlive j]
  constructor
  · rintro ⟨hj, hk⟩
    exact ⟨hj, by rwa [hkeys j hj]⟩
  · rintro ⟨hj, hk⟩
    exact ⟨hj, by rwa [← hkeys j hj]⟩

/-- Live owners share no key. -/
theorem Exact.eq_of_mem (h : Exact live keys f) {j : ι} {k : κ} (hi : live i) (hj : live j)
    (hki : k ∈ keys i) (hkj : k ∈ keys j) : i = j :=
  Option.some.inj (((h k i).2 ⟨hi, hki⟩).symm.trans ((h k j).2 ⟨hj, hkj⟩))

/-- The index without the keys of `i`. -/
def dropOwner [DecidableEq ι] (i : ι) (f : κ → Option ι) : κ → Option ι :=
  fun k => if f k = some i then none else f k

theorem dropOwner_eq_some [DecidableEq ι] (f : κ → Option ι) (i : ι) (k : κ) (j : ι) :
    dropOwner i f k = some j ↔ j ≠ i ∧ f k = some j := by
  unfold dropOwner
  split_ifs with hk
  · constructor
    · intro hnone
      cases hnone
    · rintro ⟨hne, hkj⟩
      exact absurd (Option.some.inj (hkj.symm.trans hk)) hne
  · constructor
    · intro hkj
      refine ⟨?_, hkj⟩
      rintro rfl
      exact hk hkj
    · exact And.right

/-! ## Several keys at once -/

variable [DecidableEq κ]

/-- The index with every key of `keys` entered for `i`. -/
def insertAll (keys : List κ) (i : ι) (f : κ → Option ι) : κ → Option ι :=
  fun k => if k ∈ keys then some i else f k

/-- The index without the keys of `keys`. -/
def removeAll (keys : List κ) (f : κ → Option ι) : κ → Option ι :=
  fun k => if k ∈ keys then none else f k

/-! ## Composition -/

theorem insertAll_insertAll (ks ks' : List κ) (i : ι) (f : κ → Option ι) :
    insertAll ks' i (insertAll ks i f) = insertAll (ks ++ ks') i f := by
  funext k
  by_cases h : k ∈ ks'
  · simp [insertAll, h]
  · simp [insertAll, h]

theorem removeAll_removeAll (ks ks' : List κ) (f : κ → Option ι) :
    removeAll ks' (removeAll ks f) = removeAll (ks ++ ks') f := by
  funext k
  by_cases h : k ∈ ks'
  · simp [removeAll, h]
  · simp [removeAll, h]

/-- Keys may be taken out before others are entered. -/
theorem removeAll_insertAll {ks ks' : List κ} (h : ks.Disjoint ks') (i : ι) (f : κ → Option ι) :
    removeAll ks' (insertAll ks i f) = insertAll ks i (removeAll ks' f) := by
  funext k
  by_cases hk : k ∈ ks
  · have hk' : k ∉ ks' := fun hmem => h hk hmem
    simp [removeAll, insertAll, hk, hk']
  · simp [removeAll, insertAll, hk]

/-- Keys that are entered need not be taken out before. -/
theorem insertAll_removeAll (ks ks' : List κ) (i : ι) (f : κ → Option ι) :
    insertAll ks' i (removeAll (ks ++ ks') f) = insertAll ks' i (removeAll ks f) := by
  funext k
  by_cases h : k ∈ ks'
  · simp [insertAll, h]
  · simp [insertAll, removeAll, h]

/-- The keys of one owner go out and its new ones come in. -/
theorem Exact.replace (h : Exact live keys f) (hi : live i) (hsame : ∀ j, j ≠ i → keys' j = keys j)
    (hnew : ∀ j, live j → j ≠ i → (keys' i).Disjoint (keys' j)) {g : κ → Option ι}
    (hg : ∀ k j, g k = some j ↔ j ≠ i ∧ f k = some j) :
    Exact live keys' (insertAll (keys' i) i g) := by
  intro k j
  by_cases hk : k ∈ keys' i
  · have hentry : insertAll (keys' i) i g k = some i := if_pos hk
    rw [hentry]
    constructor
    · intro heq
      cases heq
      exact ⟨hi, hk⟩
    · rintro ⟨hj, hkj⟩
      by_cases heq : j = i
      · rw [heq]
      · exact absurd hkj (hnew j hj heq hk)
  · have hentry : insertAll (keys' i) i g k = g k := if_neg hk
    rw [hentry, hg, h k j]
    constructor
    · rintro ⟨hne, hj, hkj⟩
      exact ⟨hj, by rwa [hsame j hne]⟩
    · rintro ⟨hj, hkj⟩
      have hne : j ≠ i := by
        rintro rfl
        exact hk hkj
      exact ⟨hne, hj, by rwa [← hsame j hne]⟩

theorem Exact.removeAll_eq_some (h : Exact live keys f) (hi : live i) (k : κ) (j : ι) :
    removeAll (keys i) f k = some j ↔ j ≠ i ∧ f k = some j := by
  unfold removeAll
  split_ifs with hk
  · constructor
    · intro hnone
      cases hnone
    · rintro ⟨hne, hkj⟩
      obtain ⟨hj, hmem⟩ := (h k j).1 hkj
      exact absurd (h.eq_of_mem hj hi hmem hk) hne
  · constructor
    · intro hkj
      refine ⟨?_, hkj⟩
      rintro rfl
      exact hk ((h k j).1 hkj).2
    · exact And.right

/-- An owner goes, and its keys with it. -/
theorem Exact.remove (h : Exact live keys f) (hi : live i) :
    Exact (fun j => live j ∧ j ≠ i) keys (removeAll (keys i) f) := by
  intro k j
  rw [h.removeAll_eq_some hi, h k j]
  constructor
  · rintro ⟨hne, hj, hk⟩
    exact ⟨⟨hj, hne⟩, hk⟩
  · rintro ⟨⟨hj, hne⟩, hk⟩
    exact ⟨hne, hj, hk⟩

/-- A new owner comes, and its keys with it. -/
theorem Exact.insert (h : Exact live keys f) (hi : ¬ live i)
    (hsame : ∀ j, j ≠ i → keys' j = keys j)
    (hnew : ∀ j, live j → (keys' i).Disjoint (keys' j)) :
    Exact (fun j => live j ∨ j = i) keys' (insertAll (keys' i) i f) := by
  intro k j
  -- the new keys are those of no other live index
  by_cases hk : k ∈ keys' i
  · have hentry : insertAll (keys' i) i f k = some i := if_pos hk
    rw [hentry]
    constructor
    · intro heq
      cases heq
      exact ⟨Or.inr rfl, hk⟩
    · rintro ⟨hj | rfl, hkj⟩
      · exact absurd hkj (hnew j hj hk)
      · rfl
  · have hentry : insertAll (keys' i) i f k = f k := if_neg hk
    rw [hentry, h k j]
    constructor
    · rintro ⟨hj, hkj⟩
      have hne : j ≠ i := by
        rintro rfl
        exact hi hj
      exact ⟨Or.inl hj, by rwa [hsame j hne]⟩
    · rintro ⟨hj | rfl, hkj⟩
      · have hne : j ≠ i := by
          rintro rfl
          exact hi hj
        exact ⟨hj, by rwa [← hsame j hne]⟩
      · exact absurd hkj hk

end Index

end Aivpn.Lib
