import Mathlib.Tactic.Common

/-!
# Runs of a deterministic machine

A machine is a step function on states; a run is the list of the events it takes.
`Along step P s es` says that `P` holds of every state of the run together with
the event taken there. The rules derive a property of whole runs from one step:
an invariant that every step keeps under a condition on its event
(`runFrom_invariant`, `Along.imp_of_invariant`), the equivalence of two
conditions along a run (`along_iff_of_invariant`), and a property that a later state
hands down to the earlier ones (`along_of_final`). `tally` adds up what the steps of a run weigh, and
a store that is filled and drained by steps balances exactly along the runs whose steps all balance
(`tally_balance_iff`). `beside` interleaves two machines.

A condition on a step may look back at the steps before it (`AlongPast`), for instance at those since
the last one of a kind (`since`). An invariant of such runs relates the state to the steps behind it
(`AlongPast.imp_of_invariant`, `AlongPast.invariant`).
-/

set_option autoImplicit false

namespace Aivpn.Lib

universe u v

variable {σ : Type u} {ε : Type v}

/-- The state after the events `es`, taken in order from `s`. -/
def runFrom (step : σ → ε → σ) : σ → List ε → σ
  | s, [] => s
  | s, e :: es => runFrom step (step s e) es

/-- `P` holds at every state of the run from `s` with the event taken there. -/
def Along (step : σ → ε → σ) (P : σ → ε → Prop) : σ → List ε → Prop
  | _, [] => True
  | s, e :: es => P s e ∧ Along step P (step s e) es

instance decidableAlong (step : σ → ε → σ) (P : σ → ε → Prop) [∀ s e, Decidable (P s e)] :
    ∀ s es, Decidable (Along step P s es)
  | _, [] => isTrue trivial
  | s, e :: es =>
      have := decidableAlong step P (step s e) es
      inferInstanceAs (Decidable (P s e ∧ Along step P (step s e) es))

theorem runFrom_append (step : σ → ε → σ) (s : σ) (es fs : List ε) :
    runFrom step s (es ++ fs) = runFrom step (runFrom step s es) fs := by
  induction es generalizing s with
  | nil => rfl
  | cons e es ih => exact ih (step s e)

theorem along_append (step : σ → ε → σ) (P : σ → ε → Prop) (s : σ) (es fs : List ε) :
    Along step P s (es ++ fs) ↔ Along step P s es ∧ Along step P (runFrom step s es) fs := by
  induction es generalizing s with
  | nil => simp [Along, runFrom]
  | cons e es ih => simp [Along, runFrom, ih, and_assoc]

/-- A property of the events alone. -/
theorem along_of_forall {step : σ → ε → σ} {C : ε → Prop} {s : σ} {es : List ε}
    (h : ∀ e ∈ es, C e) : Along step (fun _ e => C e) s es := by
  induction es generalizing s with
  | nil => trivial
  | cons e es ih =>
      exact ⟨h e List.mem_cons_self, ih fun e' he' => h e' (List.mem_cons_of_mem _ he')⟩

theorem along_and {step : σ → ε → σ} {P Q : σ → ε → Prop} {s : σ} {es : List ε} :
    Along step (fun s e => P s e ∧ Q s e) s es ↔ Along step P s es ∧ Along step Q s es := by
  induction es generalizing s with
  | nil => simp [Along]
  | cons e es ih => simp [Along, ih, and_and_and_comm]

/-- An invariant that every step keeps is met at the end of every run. -/
theorem runFrom_invariant {step : σ → ε → σ} {Inv : σ → Prop}
    (hstep : ∀ s e, Inv s → Inv (step s e)) {s : σ} (hs : Inv s) (es : List ε) :
    Inv (runFrom step s es) := by
  induction es generalizing s with
  | nil => exact hs
  | cons e es ih => exact ih (hstep s e hs)

/-- An invariant that every step keeps where `C` holds is met at the end of a run along `C`. -/
theorem runFrom_invariant_of_along {step : σ → ε → σ} {Inv : σ → Prop} {C : σ → ε → Prop}
    (hstep : ∀ s e, Inv s → C s e → Inv (step s e)) {s : σ} {es : List ε}
    (hs : Inv s) (hC : Along step C s es) : Inv (runFrom step s es) := by
  induction es generalizing s with
  | nil => exact hs
  | cons e es ih => exact ih (hstep s e hs hC.1) hC.2

/-- Along a run that meets `C`, an invariant kept under `C` gives every property that the
invariant and `C` give at one state. -/
theorem Along.imp_of_invariant {step : σ → ε → σ} {Inv : σ → Prop} {C P : σ → ε → Prop}
    (hstep : ∀ s e, Inv s → C s e → Inv (step s e)) (hP : ∀ s e, Inv s → C s e → P s e)
    {s : σ} {es : List ε} (hs : Inv s) (hC : Along step C s es) : Along step P s es := by
  induction es generalizing s with
  | nil => trivial
  | cons e es ih => exact ⟨hP s e hs hC.1, ih (hstep s e hs hC.1) hC.2⟩

/-- Along a run that meets `Q`, two conditions that agree wherever the invariant holds, and one of
which keeps it, agree on the whole run. -/
theorem along_iff_of_invariant {step : σ → ε → σ} {Inv : σ → Prop} {Q C P : σ → ε → Prop}
    (hstep : ∀ s e, Inv s → Q s e → C s e → Inv (step s e))
    (hP : ∀ s e, Inv s → Q s e → (P s e ↔ C s e)) {s : σ} {es : List ε} (hs : Inv s)
    (hQ : Along step Q s es) : Along step P s es ↔ Along step C s es := by
  induction es generalizing s with
  | nil => exact Iff.rfl
  | cons e es ih =>
      constructor
      · rintro ⟨h, hrest⟩
        have hC := (hP s e hs hQ.1).1 h
        exact ⟨hC, (ih (hstep s e hs hQ.1 hC) hQ.2).1 hrest⟩
      · rintro ⟨hC, hrest⟩
        exact ⟨(hP s e hs hQ.1).2 hC, (ih (hstep s e hs hQ.1 hC) hQ.2).2 hrest⟩

/-- What a later state has only if the earlier ones have it, a run has throughout if it has it at its
end. -/
theorem along_of_final {step : σ → ε → σ} {Inv J : σ → Prop}
    (hstep : ∀ s e, Inv s → Inv (step s e)) (hback : ∀ s e, Inv s → J (step s e) → J s)
    {s : σ} {es : List ε} (hs : Inv s) (hJ : J (runFrom step s es)) :
    J s ∧ Along step (fun s e => J s ∧ J (step s e)) s es := by
  induction es generalizing s with
  | nil => exact ⟨hJ, trivial⟩
  | cons e es ih =>
      obtain ⟨hnext, hrest⟩ := ih (hstep s e hs) hJ
      have hnow := hback s e hs hnext
      exact ⟨hnow, ⟨hnow, hnext⟩, hrest⟩

/-! ## Runs that look back -/

/-- The machine with the steps it has taken, latest first, each with the state it was taken in. -/
def recorded (step : σ → ε → σ) (x : σ × List (σ × ε)) (e : ε) : σ × List (σ × ε) :=
  (step x.1 e, (x.1, e) :: x.2)

/-- `C` holds of every step of the run from `s`, given the steps before it. -/
def AlongPast (step : σ → ε → σ) (C : List (σ × ε) → σ → ε → Prop) (s : σ) (es : List ε) : Prop :=
  Along (recorded step) (fun x e => C x.2 x.1 e) (s, []) es

instance (step : σ → ε → σ) (C : List (σ × ε) → σ → ε → Prop) [∀ past s e, Decidable (C past s e)]
    (s : σ) (es : List ε) : Decidable (AlongPast step C s es) :=
  inferInstanceAs (Decidable (Along _ _ _ _))

/-- The steps since the last one with `q`. -/
def since (q : σ × ε → Bool) (past : List (σ × ε)) : List (σ × ε) := past.takeWhile fun x => !q x

theorem since_cons_of_neg {q : σ × ε → Bool} {x : σ × ε} {past : List (σ × ε)} (h : q x = false) :
    since q (x :: past) = x :: since q past :=
  List.takeWhile_cons_of_pos (by simp [h])

theorem recorded_run (step : σ → ε → σ) (x : σ × List (σ × ε)) (es : List ε) :
    (runFrom (recorded step) x es).1 = runFrom step x.1 es := by
  induction es generalizing x with
  | nil => rfl
  | cons e es ih => exact ih _

/-- Along a run that meets `C`, an invariant of the state and the steps behind it, kept under `C`, is
met at the end. -/
theorem AlongPast.invariant {step : σ → ε → σ} {Inv : List (σ × ε) → σ → Prop}
    {C : List (σ × ε) → σ → ε → Prop}
    (hstep : ∀ past s e, Inv past s → C past s e → Inv ((s, e) :: past) (step s e)) {s : σ}
    {es : List ε} (hs : Inv [] s) (hC : AlongPast step C s es) :
    ∃ past, Inv past (runFrom step s es) := by
  have hrun : Inv (runFrom (recorded step) (s, []) es).2 (runFrom (recorded step) (s, []) es).1 :=
    @runFrom_invariant_of_along _ _ (recorded step) (fun x => Inv x.2 x.1) _
      (fun x e hx hC => hstep x.2 x.1 e hx hC) _ _ hs hC
  rw [recorded_run] at hrun
  exact ⟨_, hrun⟩

/-- Along a run that meets `C`, an invariant of the state and the steps behind it, kept under `C`,
gives every property that the invariant and `C` give at one state. -/
theorem AlongPast.imp_of_invariant {step : σ → ε → σ} {Inv : List (σ × ε) → σ → Prop}
    {C : List (σ × ε) → σ → ε → Prop} {P : σ → ε → Prop}
    (hstep : ∀ past s e, Inv past s → C past s e → Inv ((s, e) :: past) (step s e))
    (hP : ∀ past s e, Inv past s → C past s e → P s e) {s : σ} {es : List ε} (hs : Inv [] s)
    (hC : AlongPast step C s es) : Along step P s es := by
  have hgeneral : ∀ (es : List ε) (s : σ) (past : List (σ × ε)), Inv past s →
      Along (recorded step) (fun x e => C x.2 x.1 e) (s, past) es → Along step P s es := by
    intro es
    induction es with
    | nil => exact fun _ _ _ _ => trivial
    | cons e es ih =>
        intro s past hs hC
        exact ⟨hP past s e hs hC.1, ih _ _ (hstep past s e hs hC.1) hC.2⟩
  exact hgeneral es s [] hs hC

/-! ## What a run adds up to -/

/-- The sum of the weights of the steps of a run. -/
def tally (step : σ → ε → σ) (weight : σ → ε → Nat) : σ → List ε → Nat
  | _, [] => 0
  | s, e :: es => weight s e + tally step weight (step s e) es

/-- A store `held` that a step fills by `gain` and drains by `out`, and that may leak but not fill by
itself: what was gained along a run is held or has been drained exactly if no step leaks. -/
theorem tally_balance_iff {step : σ → ε → σ} {Inv : σ → Prop} {C : σ → ε → Prop}
    {held : σ → Nat} {gain out : σ → ε → Nat} (hinv : ∀ s e, Inv s → Inv (step s e))
    (hle : ∀ s e, Inv s → held (step s e) + out s e ≤ held s + gain s e)
    (hC : ∀ s e, Inv s → (held (step s e) + out s e = held s + gain s e ↔ C s e))
    {s : σ} (hs : Inv s) (es : List ε) :
    held (runFrom step s es) + tally step out s es ≤ held s + tally step gain s es ∧
      (held (runFrom step s es) + tally step out s es = held s + tally step gain s es ↔
        Along step C s es) := by
  induction es generalizing s with
  | nil => exact ⟨Nat.le_refl _, iff_of_true rfl trivial⟩
  | cons e es ih =>
      have hstep := hle s e hs
      have hexact := hC s e hs
      obtain ⟨hrest, hiff⟩ := ih (hinv s e hs)
      simp only [runFrom, tally, Along]
      rw [← hexact, ← hiff]
      omega

/-! ## Two machines side by side -/

section

universe w x

variable {τ : Type w} {δ : Type x}

/-- Two machines that take their steps in any order. An event belongs to one of them and leaves the
other alone. -/
def beside (step : σ → ε → σ) (step' : τ → δ → τ) : σ × τ → ε ⊕ δ → σ × τ
  | (s, t), .inl e => (step s e, t)
  | (s, t), .inr d => (s, step' t d)

end

end Aivpn.Lib
