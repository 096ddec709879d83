import Mathlib.Data.List.Count
import Mathlib.Logic.Function.Basic
import Aivpn.Lib.Runs

/-!
# Fixed-window limiters

A fixed-window limiter keeps for each key how many arrivals it has counted and when it began to count.
It begins anew when more than a period has passed, and it admits an arrival as long as the count is
at most the limit. The clock is read twice for an arrival: before the entry is looked up and when its
age is taken.

The arrivals of one key are decided as if there were no others (`decided_filter`). In any interval of
one period at most twice the limit is admitted (`admittedIn_le`): the arrivals in it belong to at most
two windows. An arrival is refused only behind as many admitted ones as the limit within the last
period (`limit_le_of_refused`).
-/

set_option autoImplicit false

namespace Aivpn.Lib

universe u

/-- An arrival with the two readings of the clock. -/
structure Arrival (κ : Type u) where
  key : κ
  now : Nat
  later : Nat
deriving DecidableEq, Repr

namespace FixedWindow

variable {κ : Type u}

/-- The entry of a key behind an arrival: the count and the start of the window. -/
def enter (period : Nat) (entry : Option (Nat × Nat)) (a : Arrival κ) : Nat × Nat :=
  let e := entry.getD (0, a.now)
  let e := if period < a.later - e.2 then (0, a.now) else e
  (e.1 + 1, e.2)

/-- The entries of all keys, and the arrivals decided so far, newest first. -/
structure Limiter (κ : Type u) where
  entries : κ → Option (Nat × Nat)
  decided : List (Arrival κ × Bool)

/-- Nothing has arrived. -/
def start : Limiter κ := ⟨fun _ => none, []⟩

/-- The clock does not go back, neither between two arrivals nor between the readings for one. -/
def Monotone : List (Arrival κ) → Prop
  | [] => True
  | a :: as => a.now ≤ a.later ∧ (∀ b ∈ as, a.later ≤ b.now) ∧ Monotone as

instance decidableMonotone : ∀ as : List (Arrival κ), Decidable (Monotone as)
  | [] => isTrue trivial
  | a :: as =>
      have := decidableMonotone as
      inferInstanceAs (Decidable (a.now ≤ a.later ∧ (∀ b ∈ as, a.later ≤ b.now) ∧ Monotone as))

/-- How many are admitted from `t` until `t + period`. -/
def admittedIn (period : Nat) (seen : List (Arrival κ × Bool)) (t : Nat) : Nat :=
  seen.countP fun d => d.2 && decide (t ≤ d.1.later ∧ d.1.later ≤ t + period)

/-- How many there are from `t` until `t + period`, admitted or not. -/
def offeredIn (period : Nat) (seen : List (Arrival κ × Bool)) (t : Nat) : Nat :=
  seen.countP fun d => decide (t ≤ d.1.later ∧ d.1.later ≤ t + period)

section

variable [DecidableEq κ]

/-- One arrival. -/
def step (period limit : Nat) (l : Limiter κ) (a : Arrival κ) : Limiter κ :=
  let e := enter period (l.entries a.key) a
  ⟨Function.update l.entries a.key (some e), (a, decide (e.1 ≤ limit)) :: l.decided⟩

/-- The arrivals, one after the other. -/
def run (period limit : Nat) (as : List (Arrival κ)) : Limiter κ :=
  runFrom (step period limit) start as

/-- What has been decided for a key, newest first. -/
def seenFor (l : Limiter κ) (k : κ) : List (Arrival κ × Bool) :=
  l.decided.filter fun d => d.1.key = k

end

/-! ## The windows of one key -/

section

variable {period limit : Nat} {seen current previous older : List (Arrival κ × Bool)}
  {entry : Nat × Nat} {a : Arrival κ}

/-- What a key has seen, newest first, by windows: the arrivals of the current one, those of the one
before, and older ones. -/
structure Windows (period limit : Nat) (seen : List (Arrival κ × Bool)) (entry : Nat × Nat)
    (current previous older : List (Arrival κ × Bool)) : Prop where
  split : seen = current ++ (previous ++ older)
  count : current.length = entry.1
  nonempty : current ≠ []
  admitted : current.countP Prod.snd = min entry.1 limit
  bound : previous.countP Prod.snd ≤ limit
  began : ∀ d ∈ current, entry.2 ≤ d.1.later
  before : ∀ d ∈ previous ++ older, d.1.later ≤ entry.2
  apart : ∀ d ∈ older, ∀ c ∈ current, d.1.later + period < c.1.later

/-- The clock at an arrival: not before what has been seen. -/
def OnTime (seen : List (Arrival κ × Bool)) (a : Arrival κ) : Prop :=
  a.now ≤ a.later ∧ ∀ d ∈ seen, d.1.later ≤ a.now

theorem countP_singleton (a : Arrival κ) (limit : Nat) :
    [(a, decide (1 ≤ limit))].countP Prod.snd = min 1 limit := by
  cases limit with
  | zero => rfl
  | succ n =>
      rw [decide_eq_true (Nat.le_add_left 1 n), Nat.min_eq_left (Nat.le_add_left 1 n)]
      rfl

/-- The first arrival of a key. -/
theorem Windows.first (hnow : a.now ≤ a.later) :
    Windows period limit [(a, decide (1 ≤ limit))] (1, a.now) [(a, decide (1 ≤ limit))] [] [] where
  split := rfl
  count := rfl
  nonempty := List.cons_ne_nil _ _
  admitted := countP_singleton a limit
  bound := Nat.zero_le _
  began := by
    intro d hd
    obtain rfl := List.mem_singleton.1 hd
    exact hnow
  before := fun d hd => absurd hd List.not_mem_nil
  apart := fun d hd => absurd hd List.not_mem_nil

/-- The first arrival of a later window. What was the current window lies before its start, and so
what came earlier is more than a period away. -/
theorem Windows.next (h : Windows period limit seen entry current previous older)
    (htime : OnTime seen a) (hlate : period < a.later - entry.2) :
    Windows period limit ((a, decide (1 ≤ limit)) :: seen) (1, a.now) [(a, decide (1 ≤ limit))]
      current (previous ++ older) where
  split := by rw [h.split, List.singleton_append]
  count := rfl
  nonempty := List.cons_ne_nil _ _
  admitted := countP_singleton a limit
  bound := h.admitted ▸ Nat.min_le_right _ _
  began := by
    intro d hd
    obtain rfl := List.mem_singleton.1 hd
    exact htime.1
  before := fun d hd => htime.2 d (h.split ▸ hd)
  apart := by
    intro d hd c hc
    obtain rfl := List.mem_singleton.1 hc
    have hbefore := h.before d hd
    show d.1.later + period < a.later
    omega

/-- A further arrival of the current window. -/
theorem Windows.again (h : Windows period limit seen entry current previous older)
    (htime : OnTime seen a) :
    Windows period limit ((a, decide (entry.1 + 1 ≤ limit)) :: seen) (entry.1 + 1, entry.2)
      ((a, decide (entry.1 + 1 ≤ limit)) :: current) previous older where
  split := by rw [h.split, List.cons_append]
  count := by rw [List.length_cons, h.count]
  nonempty := List.cons_ne_nil _ _
  admitted := by
    rw [List.countP_cons, h.admitted]
    by_cases hlimit : entry.1 + 1 ≤ limit
    · rw [decide_eq_true hlimit, if_pos rfl]
      omega
    · rw [decide_eq_false hlimit, if_neg Bool.false_ne_true]
      omega
  bound := h.bound
  began := by
    intro d hd
    rcases List.mem_cons.1 hd with rfl | hd
    · obtain ⟨c, hc⟩ := List.exists_mem_of_ne_nil _ h.nonempty
      have hbegan := h.began c hc
      have hseen := htime.2 c (h.split ▸ List.mem_append_left _ hc)
      have hnow := htime.1
      show entry.2 ≤ a.later
      omega
    · exact h.began d hd
  before := h.before
  apart := by
    intro d hd c hc
    rcases List.mem_cons.1 hc with rfl | hc
    · obtain ⟨c, hc⟩ := List.exists_mem_of_ne_nil _ h.nonempty
      have hapart := h.apart d hd c hc
      have hseen := htime.2 c (h.split ▸ List.mem_append_left _ hc)
      have hnow := htime.1
      show d.1.later + period < a.later
      omega
    · exact h.apart d hd c hc

theorem admittedIn_append (before after : List (Arrival κ × Bool)) (t : Nat) :
    admittedIn period (before ++ after) t = admittedIn period before t + admittedIn period after t :=
  List.countP_append

theorem admittedIn_le_countP (seen : List (Arrival κ × Bool)) (t : Nat) :
    admittedIn period seen t ≤ seen.countP Prod.snd := by
  apply List.countP_mono_left
  intro d _ hd
  exact (Bool.and_eq_true_iff.1 hd).1

/-- An interval of one period that meets the current window meets at most one other. -/
theorem Windows.admittedIn_le (h : Windows period limit seen entry current previous older)
    {c : Arrival κ × Bool} (hc : c ∈ current) {t : Nat} (hlast : c.1.later ≤ t + period) :
    admittedIn period seen t ≤ 2 * limit := by
  have hcurrent : admittedIn period current t ≤ limit := by
    have hcount : admittedIn period current t ≤ current.countP Prod.snd :=
      admittedIn_le_countP current t
    rw [h.admitted] at hcount
    exact Nat.le_trans hcount (Nat.min_le_right _ _)
  have hprevious : admittedIn period previous t ≤ limit :=
    Nat.le_trans (admittedIn_le_countP previous t) h.bound
  have holder : admittedIn period older t = 0 := by
    apply List.countP_eq_zero.2
    intro d hd hin
    have hapart := h.apart d hd c hc
    have hfrom := (of_decide_eq_true (Bool.and_eq_true_iff.1 hin).2).1
    omega
  rw [h.split, admittedIn_append, admittedIn_append]
  omega

/-- When the current window is full, as many as the limit have been admitted since it began. -/
theorem Windows.limit_le (h : Windows period limit seen entry current previous older)
    (htime : OnTime seen a) (hsoon : a.later - entry.2 ≤ period) (hfull : limit ≤ entry.1) :
    limit ≤ admittedIn period seen (a.later - period) := by
  have hall : admittedIn period current (a.later - period) = current.countP Prod.snd := by
    apply List.countP_congr
    intro d hd
    have hbegan := h.began d hd
    have hseen := htime.2 d (h.split ▸ List.mem_append_left _ hd)
    have hnow := htime.1
    have hin : a.later - period ≤ d.1.later ∧ d.1.later ≤ a.later - period + period := by omega
    rw [decide_eq_true hin, Bool.and_true]
  rw [h.split, admittedIn_append, hall, h.admitted, Nat.min_eq_right hfull]
  exact Nat.le_add_right _ _

/-- The entry of a key and what the key has seen agree. -/
def Accounts (period limit : Nat) (entry : Option (Nat × Nat)) (seen : List (Arrival κ × Bool)) :
    Prop :=
  match entry with
  | none => seen = []
  | some e => ∃ current previous older, Windows period limit seen e current previous older

/-- What one arrival does to its key. -/
theorem Accounts.step {entry : Option (Nat × Nat)} (h : Accounts period limit entry seen)
    (htime : OnTime seen a) :
    Accounts period limit (some (enter period entry a))
        ((a, decide ((enter period entry a).1 ≤ limit)) :: seen) ∧
      (∀ t, a.later ≤ t + period →
        admittedIn period ((a, decide ((enter period entry a).1 ≤ limit)) :: seen) t ≤ 2 * limit) ∧
      (limit < (enter period entry a).1 → limit ≤ admittedIn period seen (a.later - period)) := by
  cases entry with
  | none =>
      obtain rfl : seen = [] := h
      have henter : enter period none a = (1, a.now) := by simp [enter]
      have hfirst : Windows period limit [(a, decide (1 ≤ limit))] (1, a.now)
          [(a, decide (1 ≤ limit))] [] [] := Windows.first htime.1
      rw [henter]
      exact ⟨⟨_, _, _, hfirst⟩, fun t ht => hfirst.admittedIn_le List.mem_cons_self ht, fun hlimit =>
        by omega⟩
  | some e =>
      obtain ⟨current, previous, older, hw⟩ := h
      by_cases hlate : period < a.later - e.2
      · have henter : enter period (some e) a = (1, a.now) := by simp [enter, hlate]
        have hnext := hw.next htime hlate
        rw [henter]
        exact ⟨⟨_, _, _, hnext⟩, fun t ht => hnext.admittedIn_le List.mem_cons_self ht, fun hlimit =>
          by omega⟩
      · have henter : enter period (some e) a = (e.1 + 1, e.2) := by simp [enter, hlate]
        have hagain := hw.again htime
        rw [henter]
        exact ⟨⟨_, _, _, hagain⟩, fun t ht => hagain.admittedIn_le List.mem_cons_self ht, fun hlimit =>
          hw.limit_le htime (Nat.not_lt.1 hlate) (Nat.le_of_lt_succ hlimit)⟩

end

/-! ## Runs -/

section

variable [DecidableEq κ] {period limit : Nat} {l : Limiter κ} {a : Arrival κ}

theorem seenFor_step (k : κ) (l : Limiter κ) (a : Arrival κ) :
    seenFor (step period limit l a) k =
      if a.key = k then (a, decide ((enter period (l.entries k) a).1 ≤ limit)) :: seenFor l k
      else seenFor l k := by
  by_cases hkey : a.key = k
  · rw [if_pos hkey, ← hkey]
    exact List.filter_cons_of_pos (decide_eq_true rfl)
  · rw [if_neg hkey]
    exact List.filter_cons_of_neg (by simpa using hkey)

theorem entries_step (k : κ) (l : Limiter κ) (a : Arrival κ) :
    (step period limit l a).entries k =
      if a.key = k then some (enter period (l.entries k) a) else l.entries k := by
  by_cases hkey : a.key = k
  · subst hkey
    rw [if_pos rfl]
    exact Function.update_self _ _ _
  · rw [if_neg hkey]
    exact Function.update_of_ne (Ne.symm hkey) _ _

/-- What holds of every key after any arrivals. -/
structure Kept (period limit : Nat) (l : Limiter κ) : Prop where
  accounts : ∀ k, Accounts period limit (l.entries k) (seenFor l k)
  most : ∀ k t, admittedIn period (seenFor l k) t ≤ 2 * limit
  refused : ∀ k newer d older, seenFor l k = newer ++ d :: older → d.2 = false →
    limit ≤ admittedIn period older (d.1.later - period)

theorem kept_start : Kept period limit (start : Limiter κ) where
  accounts := fun _ => rfl
  most := fun _ _ => Nat.zero_le _
  refused := fun _ newer _ _ h =>
    absurd h.symm (List.append_ne_nil_of_right_ne_nil newer (List.cons_ne_nil _ _))

theorem Kept.step (h : Kept period limit l) (htime : OnTime l.decided a) :
    Kept period limit (step period limit l a) := by
  have htime' : ∀ k, OnTime (seenFor l k) a := fun k =>
    ⟨htime.1, fun d hd => htime.2 d (List.mem_filter.1 hd).1⟩
  constructor
  · intro k
    rw [entries_step, seenFor_step]
    by_cases hkey : a.key = k
    · rw [if_pos hkey, if_pos hkey]
      exact ((h.accounts k).step (htime' k)).1
    · rw [if_neg hkey, if_neg hkey]
      exact h.accounts k
  · intro k t
    rw [seenFor_step]
    by_cases hkey : a.key = k
    · rw [if_pos hkey]
      by_cases hin : a.later ≤ t + period
      · exact ((h.accounts k).step (htime' k)).2.1 t hin
      · -- the new arrival is later than the interval
        have hskip : admittedIn period
            ((a, decide ((enter period (l.entries k) a).1 ≤ limit)) :: seenFor l k) t =
              admittedIn period (seenFor l k) t := by
          apply List.countP_cons_of_neg
          simp [hin]
        rw [hskip]
        exact h.most k t
    · rw [if_neg hkey]
      exact h.most k t
  · intro k newer d older hsplit hd
    rw [seenFor_step] at hsplit
    by_cases hkey : a.key = k
    · rw [if_pos hkey] at hsplit
      cases newer with
      | nil =>
          obtain ⟨rfl, rfl⟩ := List.cons.inj hsplit
          exact ((h.accounts k).step (htime' k)).2.2 (Nat.lt_of_not_le (of_decide_eq_false hd))
      | cons n newer => exact h.refused k newer d older (List.cons.inj hsplit).2 hd
    · rw [if_neg hkey] at hsplit
      exact h.refused k newer d older hsplit hd

theorem along_onTime {as : List (Arrival κ)} (h : Monotone as) :
    Along (step period limit) (fun l a => OnTime l.decided a) start as := by
  have hfrom : ∀ {as : List (Arrival κ)} {l : Limiter κ}, Monotone as →
      (∀ d ∈ l.decided, ∀ a ∈ as, d.1.later ≤ a.now) →
        Along (step period limit) (fun l a => OnTime l.decided a) l as := by
    intro as
    induction as with
    | nil => exact fun _ _ => trivial
    | cons a as ih =>
        intro l hmono hdecided
        obtain ⟨hnow, hnext, hrest⟩ := hmono
        refine ⟨⟨hnow, fun d hd => hdecided d hd a List.mem_cons_self⟩, ih hrest ?_⟩
        intro d hd b hb
        rcases List.mem_cons.1 hd with rfl | hold
        · exact hnext b hb
        · exact hdecided d hold b (List.mem_cons_of_mem _ hb)
  exact hfrom h fun d hd => absurd hd List.not_mem_nil

theorem kept_run {as : List (Arrival κ)} (h : Monotone as) : Kept period limit (run period limit as) :=
  runFrom_invariant_of_along (fun _ _ hkept htime => hkept.step htime) kept_start (along_onTime h)

/-- In no interval of one period more than twice the limit is admitted. -/
theorem admittedIn_le {as : List (Arrival κ)} (h : Monotone as) (k : κ) (t : Nat) :
    admittedIn period (seenFor (run period limit as) k) t ≤ 2 * limit :=
  (kept_run h).most k t

/-- Behind a refused arrival of a key, as many as the limit were admitted within the last period. -/
theorem limit_le_of_refused {as : List (Arrival κ)} (h : Monotone as) {k : κ}
    {newer older : List (Arrival κ × Bool)} {d : Arrival κ × Bool}
    (hsplit : seenFor (run period limit as) k = newer ++ d :: older) (hd : d.2 = false) :
    limit ≤ admittedIn period older (d.1.later - period) :=
  (kept_run h).refused k newer d older hsplit hd

/-- A key that never sends more than the limit in one period is never refused. -/
theorem admitted_of_offeredIn_le {as : List (Arrival κ)} (h : Monotone as) {k : κ}
    (hoffered : ∀ t, offeredIn period (seenFor (run period limit as) k) t ≤ limit) :
    ∀ d ∈ seenFor (run period limit as) k, d.2 = true := by
  intro d hmem
  obtain ⟨newer, older, hsplit⟩ := List.append_of_mem hmem
  by_contra hd
  have hfull := limit_le_of_refused h hsplit (Bool.eq_false_iff.2 hd)
  have hle := hoffered (d.1.later - period)
  -- the refused arrival is one more in the same interval
  have hin : d.1.later - period ≤ d.1.later ∧ d.1.later ≤ d.1.later - period + period := by omega
  have hadmitted : admittedIn period older (d.1.later - period) ≤
      offeredIn period older (d.1.later - period) := by
    apply List.countP_mono_left
    intro c _ hc
    exact (Bool.and_eq_true_iff.1 hc).2
  have hcount : offeredIn period (d :: older) (d.1.later - period) =
      offeredIn period older (d.1.later - period) + 1 :=
    List.countP_cons_of_pos (by simpa using hin)
  have happend : offeredIn period (newer ++ d :: older) (d.1.later - period) =
      offeredIn period newer (d.1.later - period) +
        offeredIn period (d :: older) (d.1.later - period) := List.countP_append
  rw [hsplit, happend, hcount] at hle
  omega

theorem runFrom_decided (l : Limiter κ) (as : List (Arrival κ)) :
    (runFrom (step period limit) l as).decided.map Prod.fst = as.reverse ++ l.decided.map Prod.fst := by
  induction as generalizing l with
  | nil => rfl
  | cons a as ih =>
      rw [runFrom, ih, List.reverse_cons, List.append_assoc]
      rfl

/-- The limiter has an entry for each key that ever arrived. -/
theorem entries_run_eq_none {as : List (Arrival κ)} (h : Monotone as) (k : κ) :
    (run period limit as).entries k = none ↔ ∀ a ∈ as, a.key ≠ k := by
  have haccounts : Accounts period limit ((run period limit as).entries k)
      (seenFor (run period limit as) k) := (kept_run h).accounts k
  have hdecided : (runFrom (step period limit) start as).decided.map Prod.fst =
      as.reverse ++ (start : Limiter κ).decided.map Prod.fst := runFrom_decided start as
  constructor
  · intro hnone a ha hkey
    rw [hnone] at haccounts
    have hmem : a ∈ (run period limit as).decided.map Prod.fst := by
      rw [run, hdecided]
      exact List.mem_append_left _ (List.mem_reverse.2 ha)
    obtain ⟨d, hd, rfl⟩ := List.mem_map.1 hmem
    have hseen : d ∈ seenFor (run period limit as) k :=
      List.mem_filter.2 ⟨hd, decide_eq_true hkey⟩
    rw [haccounts] at hseen
    cases hseen
  · intro hkeys
    cases hentry : (run period limit as).entries k with
    | none => rfl
    | some e =>
        rw [hentry] at haccounts
        obtain ⟨current, previous, older, hw⟩ := haccounts
        obtain ⟨c, hc⟩ := List.exists_mem_of_ne_nil _ hw.nonempty
        have hseen : c ∈ seenFor (run period limit as) k := hw.split ▸ List.mem_append_left _ hc
        obtain ⟨hmem, hkey⟩ := List.mem_filter.1 hseen
        have harrived : c.1 ∈ as.reverse ++ [] := hdecided ▸ List.mem_map_of_mem hmem
        rw [List.append_nil, List.mem_reverse] at harrived
        exact absurd (of_decide_eq_true hkey) (hkeys c.1 harrived)

/-! ## Keys apart -/

theorem runFrom_seenFor (k : κ) {l l' : Limiter κ} (hentry : l.entries k = l'.entries k)
    (hseen : seenFor l k = seenFor l' k) (as : List (Arrival κ)) :
    seenFor (runFrom (step period limit) l as) k =
      seenFor (runFrom (step period limit) l' (as.filter fun a => a.key = k)) k := by
  induction as generalizing l l' with
  | nil => exact hseen
  | cons a as ih =>
      by_cases hkey : a.key = k
      · rw [List.filter_cons_of_pos (by simpa using hkey)]
        apply ih
        · rw [entries_step, entries_step, hentry]
        · rw [seenFor_step, seenFor_step, hentry, hseen]
      · rw [List.filter_cons_of_neg (by simpa using hkey)]
        apply ih
        · rw [entries_step, if_neg hkey, hentry]
        · rw [seenFor_step, if_neg hkey, hseen]

/-- The arrivals of a key are decided as if there were no others. -/
theorem seenFor_filter (k : κ) (as : List (Arrival κ)) :
    seenFor (run period limit as) k =
      seenFor (run period limit (as.filter fun a => a.key = k)) k :=
  runFrom_seenFor k rfl rfl as

end

end FixedWindow

end Aivpn.Lib
