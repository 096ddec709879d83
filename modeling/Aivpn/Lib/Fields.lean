import Aivpn.Lib.Text
import Mathlib.Data.List.TakeWhile

/-!
# Fields between runs of blanks

A text is split wherever two or more blanks stand together; a single blank belongs to a field. Around a
separator the fields of the two sides are independent of each other (`splitRuns_append`), and around a
single blank the last field of the one side and the first of the other become one
(`splitRuns_append_blank`).
-/

set_option autoImplicit false

namespace Aivpn.Lib

section

variable {α : Type} {blank : α → Bool}

/-- The text starts and ends with something else than a blank. -/
structure Solid (blank : α → Bool) (s : List α) : Prop where
  first : ∃ c t, s = c :: t ∧ blank c = false
  last : ∃ t c, s = t ++ [c] ∧ blank c = false

theorem Solid.ne_nil {s : List α} (h : Solid blank s) : s ≠ [] := by
  obtain ⟨c, t, rfl, -⟩ := h.first
  exact List.cons_ne_nil c t

/-- What starts as one solid text and ends as another is solid. -/
theorem Solid.append {s t : List α} (hs : Solid blank s) (ht : Solid blank t) (mid : List α) :
    Solid blank (s ++ mid ++ t) where
  first := by
    obtain ⟨c, u, rfl, hc⟩ := hs.first
    exact ⟨c, u ++ mid ++ t, rfl, hc⟩
  last := by
    obtain ⟨u, c, rfl, hc⟩ := ht.last
    exact ⟨s ++ mid ++ u, c, (List.append_assoc _ _ _).symm, hc⟩

theorem solid_of_forall {s : List α} (hne : s ≠ []) (h : ∀ c ∈ s, blank c = false) :
    Solid blank s where
  first := by
    cases s with
    | nil => exact absurd rfl hne
    | cons c t => exact ⟨c, t, rfl, h c List.mem_cons_self⟩
  last := ⟨s.dropLast, s.getLast hne, (List.dropLast_concat_getLast hne).symm,
    h _ (List.getLast_mem hne)⟩

/-! ## Trimming -/

/-- Blanks at both ends of a solid text are trimmed off. -/
theorem trimBy_append {lead core trail : List α} (hlead : ∀ c ∈ lead, blank c = true)
    (hcore : Solid blank core) (htrail : ∀ c ∈ trail, blank c = true) :
    trimBy blank (lead ++ core ++ trail) = core := by
  obtain ⟨c, t, hfirst, hc⟩ := hcore.first
  obtain ⟨u, z, hlast, hz⟩ := hcore.last
  have hfront : (lead ++ core ++ trail).dropWhile blank = core ++ trail := by
    rw [List.append_assoc, List.dropWhile_append_of_pos hlead, hfirst, List.cons_append,
      List.dropWhile_cons_of_neg (by rw [hc]; exact Bool.false_ne_true)]
  have hback : (core ++ trail).reverse.dropWhile blank = core.reverse := by
    have htrail' : ∀ c ∈ trail.reverse, blank c = true := fun c hc =>
      htrail c (List.mem_reverse.1 hc)
    rw [List.reverse_append, List.dropWhile_append_of_pos htrail', hlast, List.reverse_append,
      List.reverse_singleton, List.singleton_append,
      List.dropWhile_cons_of_neg (by rw [hz]; exact Bool.false_ne_true)]
  unfold trimBy
  rw [hfront, hback, List.reverse_reverse]

theorem trimBy_of_forall {s : List α} (h : ∀ c ∈ s, blank c = true) : trimBy blank s = [] := by
  unfold trimBy
  rw [List.dropWhile_eq_nil_iff.2 h]
  rfl

theorem trimBy_of_solid {s : List α} (h : Solid blank s) : trimBy blank s = s := by
  have hnone : ∀ c ∈ ([] : List α), blank c = true := fun _ hc => nomatch hc
  have htrim := trimBy_append hnone h hnone
  rwa [List.nil_append, List.append_nil] at htrim

/-- The blanks at the end of a text, counted from behind. -/
theorem takeWhile_reverse {lead core trail : List α} (hcore : Solid blank core)
    (htrail : ∀ c ∈ trail, blank c = true) :
    (lead ++ core ++ trail).reverse.takeWhile blank = trail.reverse := by
  obtain ⟨u, z, rfl, hz⟩ := hcore.last
  have htrail' : ∀ c ∈ trail.reverse, blank c = true := fun c hc =>
    htrail c (List.mem_reverse.1 hc)
  rw [List.reverse_append, List.takeWhile_append_of_pos htrail', List.reverse_append,
    List.reverse_append, List.reverse_singleton, List.singleton_append, List.cons_append,
    List.takeWhile_cons_of_neg (by rw [hz]; exact Bool.false_ne_true), List.append_nil]

/-- The blanks in front of a text. -/
theorem exists_lead (blank : α → Bool) (s : List α) :
    ∃ lead rest, s = lead ++ rest ∧ (∀ c ∈ lead, blank c = true) ∧
      (rest = [] ∨ ∃ c t, rest = c :: t ∧ blank c = false) := by
  induction s with
  | nil => exact ⟨[], [], rfl, (fun _ hc => nomatch hc), Or.inl rfl⟩
  | cons c s ih =>
      cases hc : blank c with
      | false => exact ⟨[], c :: s, rfl, (fun _ h => nomatch h), Or.inr ⟨c, s, rfl, hc⟩⟩
      | true =>
          obtain ⟨lead, rest, rfl, hlead, hrest⟩ := ih
          refine ⟨c :: lead, rest, rfl, ?_, hrest⟩
          intro c' hc'
          rcases List.mem_cons.1 hc' with rfl | hmem
          · exact hc
          · exact hlead c' hmem

/-- Every text is blank, or a solid text between blanks. -/
theorem blank_or_solid (blank : α → Bool) (s : List α) :
    (∀ c ∈ s, blank c = true) ∨ ∃ lead core trail, s = lead ++ core ++ trail ∧
      (∀ c ∈ lead, blank c = true) ∧ Solid blank core ∧ ∀ c ∈ trail, blank c = true := by
  obtain ⟨lead, rest, rfl, hlead, rfl | ⟨c, t, rfl, hc⟩⟩ := exists_lead blank s
  · left
    rwa [List.append_nil]
  · right
    obtain ⟨trail, core, hsplit, htrail, hcore⟩ := exists_lead blank (c :: t).reverse
    have hrest : c :: t = core.reverse ++ trail.reverse := by
      rw [← List.reverse_append, ← hsplit, List.reverse_reverse]
    have htrail' : ∀ z ∈ trail.reverse, blank z = true := fun z hz =>
      htrail z (List.mem_reverse.1 hz)
    rcases hcore with rfl | ⟨z, u, rfl, hz⟩
    · -- the first character is none of the blanks behind
      have hmem : c ∈ trail.reverse := by
        rw [List.reverse_nil, List.nil_append] at hrest
        rw [← hrest]
        exact List.mem_cons_self
      rw [htrail' c hmem] at hc
      cases hc
    · refine ⟨lead, (z :: u).reverse, trail.reverse, ?_, hlead, ⟨?_, ?_⟩, htrail'⟩
      · rw [List.append_assoc, ← hrest]
      · cases hrev : (z :: u).reverse with
        | nil => exact absurd (List.reverse_eq_nil_iff.1 hrev) (List.cons_ne_nil z u)
        | cons y v =>
            rw [hrev, List.cons_append] at hrest
            exact ⟨y, v, rfl, (List.cons.inj hrest).1 ▸ hc⟩
      · exact ⟨u.reverse, z, List.reverse_cons, hz⟩

/-! ## Splitting -/

/-- The fields of `cur ++ pend ++ s`, where `cur` is the field so far and `pend` the blanks behind it. -/
def splitFrom (blank : α → Bool) (cur pend : List α) : List α → List (List α)
  | [] => if 2 ≤ pend.length then [cur, []] else [cur ++ pend]
  | c :: s =>
      if blank c then splitFrom blank cur (pend ++ [c]) s
      else if 2 ≤ pend.length then cur :: splitFrom blank [c] [] s
      else splitFrom blank (cur ++ pend ++ [c]) [] s

/-- The fields between runs of two or more blanks. -/
def splitRuns (blank : α → Bool) (s : List α) : List (List α) := splitFrom blank [] [] s

/-- The text in front of the first field. -/
def prepend (x : List α) : List (List α) → List (List α)
  | [] => []
  | field :: fields => (x ++ field) :: fields

section

variable {c : α} {cur pend s : List α}

theorem splitFrom_nil (blank : α → Bool) (cur : List α) : splitFrom blank cur [] [] = [cur] := by
  rw [splitFrom, if_neg (by rw [List.length_nil]; omega), List.append_nil]

theorem splitFrom_cons_blank (hc : blank c = true) :
    splitFrom blank cur pend (c :: s) = splitFrom blank cur (pend ++ [c]) s := if_pos hc

theorem splitFrom_cons_of_two_le (hc : blank c = false) (h : 2 ≤ pend.length) :
    splitFrom blank cur pend (c :: s) = cur :: splitFrom blank [c] [] s := by
  rw [splitFrom, if_neg (by rw [hc]; exact Bool.false_ne_true), if_pos h]

theorem splitFrom_cons_of_lt (hc : blank c = false) (h : pend.length < 2) :
    splitFrom blank cur pend (c :: s) = splitFrom blank (cur ++ pend ++ [c]) [] s := by
  rw [splitFrom, if_neg (by rw [hc]; exact Bool.false_ne_true), if_neg (by omega)]

end

theorem splitFrom_blanks {sep : List α} (h : ∀ c ∈ sep, blank c = true) (cur pend s : List α) :
    splitFrom blank cur pend (sep ++ s) = splitFrom blank cur (pend ++ sep) s := by
  induction sep generalizing pend with
  | nil => rw [List.nil_append, List.append_nil]
  | cons c sep ih =>
      rw [List.cons_append, splitFrom_cons_blank (h c List.mem_cons_self),
        ih (fun c' hc' => h c' (List.mem_cons_of_mem _ hc')), List.append_assoc,
        List.singleton_append]

theorem splitFrom_append_cur (x cur pend s : List α) :
    splitFrom blank (x ++ cur) pend s = prepend x (splitFrom blank cur pend s) := by
  induction s generalizing cur pend with
  | nil =>
      unfold splitFrom
      split_ifs
      · rfl
      · show [x ++ cur ++ pend] = [x ++ (cur ++ pend)]
        rw [List.append_assoc]
  | cons c s ih =>
      unfold splitFrom
      split_ifs
      · exact ih _ _
      · rfl
      · rw [List.append_assoc x, List.append_assoc x, ih]

/-- Behind a field and blanks, a solid text is a field of its own or goes on with the field. -/
theorem splitFrom_of_first {t : List α} {c : α} (hc : blank c = false) (cur pend : List α) :
    splitFrom blank cur pend (c :: t) =
      if 2 ≤ pend.length then cur :: splitRuns blank (c :: t)
      else prepend (cur ++ pend) (splitRuns blank (c :: t)) := by
  have hstart : splitRuns blank (c :: t) = splitFrom blank [c] [] t :=
    splitFrom_cons_of_lt hc (show 0 < 2 by omega)
  rw [hstart]
  split_ifs with hpend
  · exact splitFrom_cons_of_two_le hc hpend
  · rw [splitFrom_cons_of_lt hc (by omega), splitFrom_append_cur]

/-- The fields of a text that ends with no blank, and the last of them, which may go on. -/
theorem exists_splitFrom_append {a : List α} (h : ∃ t c, a = t ++ [c] ∧ blank c = false)
    (cur pend : List α) : ∃ init lst, ∀ rest,
      splitFrom blank cur pend (a ++ rest) = init ++ splitFrom blank lst [] rest := by
  obtain ⟨t, z, rfl, hz⟩ := h
  induction t generalizing cur pend with
  | nil =>
      by_cases hpend : 2 ≤ pend.length
      · exact ⟨[cur], [z], fun rest => splitFrom_cons_of_two_le hz hpend⟩
      · exact ⟨[], cur ++ pend ++ [z], fun rest => splitFrom_cons_of_lt hz (by omega)⟩
  | cons c t ih =>
      cases hc : blank c with
      | true =>
          obtain ⟨init, lst, hsplit⟩ := ih cur (pend ++ [c])
          refine ⟨init, lst, fun rest => ?_⟩
          rw [List.cons_append, List.cons_append, splitFrom_cons_blank hc, hsplit]
      | false =>
          by_cases hpend : 2 ≤ pend.length
          · -- a run of blanks closes the field before it
            obtain ⟨init, lst, hsplit⟩ := ih [c] []
            refine ⟨cur :: init, lst, fun rest => ?_⟩
            rw [List.cons_append, List.cons_append, splitFrom_cons_of_two_le hc hpend, hsplit,
              List.cons_append]
          · obtain ⟨init, lst, hsplit⟩ := ih (cur ++ pend ++ [c]) []
            refine ⟨init, lst, fun rest => ?_⟩
            rw [List.cons_append, List.cons_append, splitFrom_cons_of_lt hc (by omega), hsplit]

section

variable {a sep b : List α}

theorem exists_splitRuns_append (ha : Solid blank a) :
    ∃ init lst, splitRuns blank a = init ++ [lst] ∧ ∀ rest,
      splitRuns blank (a ++ rest) = init ++ splitFrom blank lst [] rest := by
  obtain ⟨init, lst, hsplit⟩ := exists_splitFrom_append ha.last [] []
  refine ⟨init, lst, ?_, hsplit⟩
  have hend := hsplit []
  rwa [List.append_nil, splitFrom_nil] at hend

/-- Around a run of blanks, the fields are those of both sides. -/
theorem splitRuns_append (ha : Solid blank a) (hsep : ∀ c ∈ sep, blank c = true)
    (hlen : 2 ≤ sep.length) (hb : Solid blank b) :
    splitRuns blank (a ++ sep ++ b) = splitRuns blank a ++ splitRuns blank b := by
  obtain ⟨init, lst, hfields, hsplit⟩ := exists_splitRuns_append ha
  obtain ⟨c, t, rfl, hc⟩ := hb.first
  rw [List.append_assoc, hsplit, splitFrom_blanks hsep, List.nil_append, splitFrom_of_first hc,
    if_pos hlen, hfields, List.append_assoc, List.singleton_append]

/-- Around a single blank or none, the fields at both sides of it become one. -/
theorem splitRuns_append_blank (ha : Solid blank a) (hsep : ∀ c ∈ sep, blank c = true)
    (hlen : sep.length < 2) (hb : Solid blank b) :
    ∃ init lst, splitRuns blank a = init ++ [lst] ∧
      splitRuns blank (a ++ sep ++ b) = init ++ prepend (lst ++ sep) (splitRuns blank b) := by
  obtain ⟨init, lst, hfields, hsplit⟩ := exists_splitRuns_append ha
  obtain ⟨c, t, rfl, hc⟩ := hb.first
  refine ⟨init, lst, hfields, ?_⟩
  rw [List.append_assoc, hsplit, splitFrom_blanks hsep, List.nil_append, splitFrom_of_first hc,
    if_neg (by omega)]

/-- A field in front of a solid text. -/
theorem splitRuns_field_append (ha : Solid blank a) (hfield : splitRuns blank a = [a])
    (hsep : ∀ c ∈ sep, blank c = true) (hb : Solid blank b) :
    splitRuns blank (a ++ sep ++ b) =
      if 2 ≤ sep.length then a :: splitRuns blank b else prepend (a ++ sep) (splitRuns blank b) := by
  split_ifs with hlen
  · rw [splitRuns_append ha hsep hlen hb, hfield, List.singleton_append]
  · obtain ⟨init, lst, hfields, hsplit⟩ := splitRuns_append_blank ha hsep (by omega) hb
    have hlast : init ++ [lst] = [] ++ [a] := hfields.symm.trans hfield
    obtain ⟨hinit, hlst⟩ := List.append_inj' hlast rfl
    rw [hsplit, hinit, List.nil_append, (List.cons.inj hlst).1]

end

/-- A text without blanks is one field. -/
theorem splitRuns_of_forall {s : List α} (h : ∀ c ∈ s, blank c = false) :
    splitRuns blank s = [s] := by
  have hfrom : ∀ cur, splitFrom blank cur [] s = [cur ++ s] := by
    induction s with
    | nil =>
        intro cur
        rw [splitFrom_nil, List.append_nil]
    | cons c s ih =>
        intro cur
        have hnone : ([] : List α).length < 2 := Nat.zero_lt_two
        have hrest := ih (fun c' hc' => h c' (List.mem_cons_of_mem _ hc')) (cur ++ [c])
        rw [splitFrom_cons_of_lt (h c List.mem_cons_self) hnone, List.append_nil, hrest,
          List.append_assoc, List.singleton_append]
  exact hfrom []

end

end Aivpn.Lib
