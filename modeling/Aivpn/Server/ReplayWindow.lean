import Aivpn.Server.Session
import Aivpn.Common.RecvWindow
import Aivpn.Lib.Runs

/-!
# Replay protection of one session

Two machines over one `Session`. The receive machine takes the steps of `handle_packet`:
validate a tag, and on acceptance mark the counter and rebuild the tag window when it has moved
by 64. The bitmap machine takes the session operations in any order, counter recovery included.

The bitmap covers the 256 counters up to the highest one, while the cached tag window may still
hold counters up to 63 positions below that. A cached tag of such a counter passes the replay
test whether or not the counter was received (`replaySafe_of_noStaleHit` has the condition under
which replays are refused). Counter recovery moves the highest counter without moving the bitmap
(`bitmapAligned_of_shiftStable`).

The client keeps a window of the same size in another representation. Marked with the same counters,
the two windows have the same highest counter and refuse the same replays (`windows_agree`).
-/

set_option autoImplicit false

namespace Aivpn

open Aivpn.Lib

variable (P : Primitives)

namespace Session

/-- Bit `i` of the bitmap is set exactly when counter `counter - i` has been accepted. -/
def BitmapAligned (s : Session) : Prop :=
  ∀ i, i < 256 → i ≤ s.counter → (s.receivedBitmap.getBit i = true ↔ s.counter - i ∈ s.accepted)

/-- No counter above the highest one has been accepted. -/
def AcceptedBelow (s : Session) : Prop := ∀ c ∈ s.accepted, c ≤ s.counter

/-- A session in which nothing has been received: as `create_session` leaves it. -/
structure Unreceived (s : Session) : Prop where
  counter : s.counter = 0
  bitmap : s.receivedBitmap = U256.clear
  accepted : s.accepted = []

theorem bitmapAligned_iff_tracks (s : Session) :
    s.BitmapAligned ↔ s.receivedBitmap.Tracks s.counter {c | c ∈ s.accepted} := by
  constructor
  · intro h i hi hic
    rw [← U256.getBit_eq_test _ hi]
    exact h i hi hic
  · intro h i hi hic
    rw [U256.getBit_eq_test _ hi]
    exact h i hi hic

theorem Unreceived.bitmapAligned {s : Session} (h : s.Unreceived) : s.BitmapAligned := by
  have hempty : {c | c ∈ ([] : List Nat)} = ∅ := by simp
  rw [bitmapAligned_iff_tracks, h.bitmap, h.accepted, hempty]
  exact WideBits.tracks_zero s.counter

theorem Unreceived.acceptedBelow {s : Session} (h : s.Unreceived) : s.AcceptedBelow := by
  simp [AcceptedBelow, h.accepted]

/-! ## What the operations do to the receive state -/

@[simp] theorem markTagReceived_accepted (s : Session) (c : Nat) :
    (s.markTagReceived c).accepted = c :: s.accepted := by
  unfold markTagReceived
  simp only
  split_ifs <;> rfl

theorem markTagReceived_counter (s : Session) (c : Nat) :
    (s.markTagReceived c).counter = max s.counter c := by
  unfold markTagReceived
  simp only
  split_ifs with h1 h2
  · show c = max s.counter c
    omega
  · show s.counter = max s.counter c
    omega
  · show s.counter = max s.counter c
    omega

@[simp] theorem updateTagWindow_counter (tw : Nat) (s : Session) :
    (s.updateTagWindow P tw).counter = s.counter := by
  unfold updateTagWindow
  rfl

@[simp] theorem updateTagWindow_receivedBitmap (tw : Nat) (s : Session) :
    (s.updateTagWindow P tw).receivedBitmap = s.receivedBitmap := by
  unfold updateTagWindow
  rfl

@[simp] theorem updateTagWindow_accepted (tw : Nat) (s : Session) :
    (s.updateTagWindow P tw).accepted = s.accepted := by
  unfold updateTagWindow
  rfl

@[simp] theorem updateRatchetedTagWindow_counter (tw : Nat) (s : Session) :
    (s.updateRatchetedTagWindow P tw).counter = s.counter := by
  unfold updateRatchetedTagWindow
  split <;> rfl

@[simp] theorem updateRatchetedTagWindow_receivedBitmap (tw : Nat) (s : Session) :
    (s.updateRatchetedTagWindow P tw).receivedBitmap = s.receivedBitmap := by
  unfold updateRatchetedTagWindow
  split <;> rfl

@[simp] theorem updateRatchetedTagWindow_accepted (tw : Nat) (s : Session) :
    (s.updateRatchetedTagWindow P tw).accepted = s.accepted := by
  unfold updateRatchetedTagWindow
  split <;> rfl

theorem completeRatchet_cases (s : Session) :
    s.completeRatchet = s ∨ s.completeRatchet.Unreceived := by
  unfold completeRatchet
  split
  · exact Or.inr ⟨rfl, rfl, rfl⟩
  · exact Or.inl rfl

/-- Marking any counter keeps the bitmap aligned, at any jump distance. -/
theorem BitmapAligned.markTagReceived {s : Session} (h : s.BitmapAligned) (hle : s.AcceptedBelow)
    (c : Nat) : (s.markTagReceived c).BitmapAligned := by
  have hset : {x | x ∈ c :: s.accepted} = insert c {x | x ∈ s.accepted} := by
    ext x
    simp
  rw [bitmapAligned_iff_tracks] at h ⊢
  rw [markTagReceived_accepted, hset]
  unfold Session.markTagReceived
  simp only
  split_ifs with hgt hin
  · show WideBits.Tracks ((s.receivedBitmap.shiftLeft (c - s.counter)).setBit 0) c _
    rw [U256.shiftLeft_eq_shl, U256.setBit_eq_setAt]
    exact h.advance hle hgt
  · show WideBits.Tracks (s.receivedBitmap.setBit (s.counter - c)) s.counter _
    rw [U256.setBit_eq_setAt]
    exact h.mark (by omega)
  · exact h.mark_below (by omega)

theorem AcceptedBelow.markTagReceived {s : Session} (h : s.AcceptedBelow) (c : Nat) :
    (s.markTagReceived c).AcceptedBelow := by
  intro x hx
  rw [markTagReceived_accepted, List.mem_cons] at hx
  rw [markTagReceived_counter]
  rcases hx with rfl | hx
  · exact Nat.le_max_right _ _
  · exact Nat.le_trans (h x hx) (Nat.le_max_left _ _)

/-- The receive invariant of a session: the bitmap is aligned and no accepted counter lies above
the highest one. -/
structure ReceiveInv (s : Session) : Prop where
  aligned : s.BitmapAligned
  below : s.AcceptedBelow

theorem Unreceived.receiveInv {s : Session} (h : s.Unreceived) : s.ReceiveInv :=
  ⟨h.bitmapAligned, h.acceptedBelow⟩

/-- The invariant reads only the counter, the bitmap and the accepted counters. -/
theorem ReceiveInv.congr {s t : Session} (h : s.ReceiveInv) (hc : t.counter = s.counter)
    (hb : t.receivedBitmap = s.receivedBitmap) (ha : t.accepted = s.accepted) : t.ReceiveInv := by
  obtain ⟨h1, h2⟩ := h
  constructor
  · intro i hi hic
    rw [hc] at hic ⊢
    rw [hb, ha]
    exact h1 i hi hic
  · intro c hcm
    rw [ha] at hcm
    rw [hc]
    exact h2 c hcm

theorem ReceiveInv.markTagReceived {s : Session} (h : s.ReceiveInv) (c : Nat) :
    (s.markTagReceived c).ReceiveInv :=
  ⟨h.aligned.markTagReceived h.below c, h.below.markTagReceived c⟩

theorem ReceiveInv.completeRatchet {s : Session} (h : s.ReceiveInv) :
    s.completeRatchet.ReceiveInv := by
  rcases s.completeRatchet_cases with he | hu
  · rw [he]
    exact h
  · exact hu.receiveInv

theorem ReceiveInv.updateTagWindow {s : Session} (h : s.ReceiveInv) (tw : Nat) :
    (s.updateTagWindow P tw).ReceiveInv :=
  h.congr (by simp) (by simp) (by simp)

theorem ReceiveInv.updateRatchetedTagWindow {s : Session} (h : s.ReceiveInv) (tw : Nat) :
    (s.updateRatchetedTagWindow P tw).ReceiveInv :=
  h.congr (by simp) (by simp) (by simp)

theorem ReceiveInv.acceptCounter {s : Session} (h : s.ReceiveInv) (tw c : Nat) :
    (s.acceptCounter P tw c).ReceiveInv := by
  unfold Session.acceptCounter
  simp only
  split_ifs
  · exact (h.markTagReceived c).updateTagWindow P tw
  · exact h.markTagReceived c

/-! ## The receive machine -/

/-- Within the bitmap's reach the replay test answers for the accepted counters. -/
theorem ReceiveInv.isReplay_iff {s : Session} (h : s.ReceiveInv) {c : Nat}
    (hc : s.counter < c + 256) : s.isReplay c = true ↔ c ∈ s.accepted := by
  unfold isReplay
  by_cases hgt : c > s.counter
  · have hnot : c ∉ s.accepted := fun hm => by
      have := h.below c hm
      omega
    simp [hgt, hnot]
  · have hin : s.counter - c < tagWindowSize := by
      unfold tagWindowSize
      omega
    have hbit := h.aligned (s.counter - c) (by omega) (by omega)
    rw [show s.counter - (s.counter - c) = c by omega] at hbit
    simp [hgt, hin, hbit]

theorem le_of_mem_windowCounters {s : Session} {c : Nat} (h : c ∈ s.windowCounters) :
    s.counter < c + 256 := by
  unfold windowCounters tagWindowSize at h
  rw [List.mem_range'_1] at h
  omega

theorem adjacentMatch_mem {secret : Key} {tw c : Nat} {counters : List Nat} {tag : Tag}
    (h : adjacentMatch P secret tw counters tag = some c) : c ∈ counters := by
  unfold adjacentMatch at h
  obtain ⟨w, -, hw⟩ := List.exists_of_findSome?_eq_some h
  exact List.mem_of_find?_eq_some hw

/-- A tag is accepted under the current keys only through the cache or through the window around
the highest counter, and only when the replay test lets it pass. -/
theorem validateTag_current {s : Session} {tw c : Nat} {tag : Tag}
    (h : s.validateTag P tw tag = some (c, false)) :
    s.isReplay c = false ∧ ((c, tag) ∈ s.expectedTags ∨ c ∈ s.windowCounters) := by
  unfold validateTag at h
  split at h
  · next c' t hfind =>
      have hmem := List.mem_of_find?_eq_some hfind
      have htag : t = tag := by simpa using List.find?_some hfind
      split_ifs at h with hr
      · simp only [Option.some.injEq, Prod.mk.injEq, and_true] at h
        subst h htag
        exact ⟨by simpa using hr, Or.inl hmem⟩
  · split at h
    · next c' hadj =>
        split_ifs at h with hr
        · simp only [Option.some.injEq, Prod.mk.injEq, and_true] at h
          subst h
          exact ⟨by simpa using hr, Or.inr (adjacentMatch_mem P hadj)⟩
    · unfold validateRatchetedTag at h
      split_ifs at h
      split at h
      · simp at h
      · split at h
        · simp at h
        · simp [Option.map_eq_some_iff] at h

end Session

/-- A step of the server's receive path on one session: a tag is validated in window `tw` and,
when the payload then decrypts, accepted in window `tw'`; or the tag windows are rebuilt, as
`refresh_and_find_by_tag` does for every session. -/
inductive ReceiveEvent where
  | packet (tag : Tag) (tw : Nat) (decrypts : Bool) (tw' : Nat)
  | refresh (tw : Nat)

/-- The receive step of `handle_packet` on one session. A tag of the pending ratcheted keys
completes the ratchet before its counter is marked. -/
def receiveStep (s : Session) : ReceiveEvent → Session
  | .packet tag tw decrypts tw' =>
      match s.validateTag P tw tag with
      | none => s
      | some (counter, isRatchetedTag) =>
          if decrypts then
            (if isRatchetedTag then s.completeRatchet else s).acceptCounter P tw' counter
          else s
  | .refresh tw => (s.updateTagWindow P tw).updateRatchetedTagWindow P tw

/-- At this step `validate_tag` does not return a counter that was accepted before. -/
def ReplaySafe (s : Session) : ReceiveEvent → Prop
  | .packet tag tw _ _ => ∀ c, s.validateTag P tw tag = some (c, false) → c ∉ s.accepted
  | .refresh _ => True

/-- The tag of this step is not cached for a counter that the bitmap no longer reaches. -/
def NoStaleHit (s : Session) : ReceiveEvent → Prop
  | .packet tag _ _ _ => ∀ e ∈ s.expectedTags, e.2 = tag → s.counter < e.1 + 256
  | .refresh _ => True

theorem ReceiveInv.receiveStep {s : Session} (h : s.ReceiveInv) (e : ReceiveEvent) :
    (receiveStep P s e).ReceiveInv := by
  cases e with
  | packet tag tw decrypts tw' =>
      unfold Aivpn.receiveStep
      simp only
      split
      · exact h
      · split_ifs
        · exact h.completeRatchet.acceptCounter P tw' _
        · exact h.acceptCounter P tw' _
        · exact h
  | refresh tw => exact (h.updateTagWindow P tw).updateRatchetedTagWindow P tw

theorem replaySafe_of_receiveInv {s : Session} (h : s.ReceiveInv) (e : ReceiveEvent)
    (hcache : NoStaleHit s e) : ReplaySafe P s e := by
  cases e with
  | packet tag tw decrypts tw' =>
      intro c hv hmem
      obtain ⟨hreplay, hcase⟩ := Session.validateTag_current P hv
      have hreach : s.counter < c + 256 := by
        rcases hcase with hcached | hwindow
        · exact hcache (c, tag) hcached rfl
        · exact Session.le_of_mem_windowCounters hwindow
      rw [(h.isReplay_iff hreach).2 hmem] at hreplay
      cases hreplay
  | refresh tw => trivial

/-- In every run whose tags are never cached for counters below the bitmap's reach, no counter is
validated again after it was accepted. -/
theorem replaySafe_of_noStaleHit {s : Session} (hs : s.Unreceived) (es : List ReceiveEvent)
    (h : Along (receiveStep P) NoStaleHit s es) : Along (receiveStep P) (ReplaySafe P) s es :=
  Along.imp_of_invariant (fun _ e hi _ => ReceiveInv.receiveStep P hi e)
    (fun _ e hi hc => replaySafe_of_receiveInv P hi e hc) hs.receiveInv h

/-- A session as `create_session` leaves it, with the tags of time window 100. -/
def sampleSession : Session :=
  (Session.new 0 0 default default default).updateTagWindow samplePrimitives 100

/-- The tag of a counter of `sampleSession` in time window 100. -/
def sampleTag (counter : Nat) : Tag :=
  samplePrimitives.generateResonanceTag sampleSession.keys.tagSecret counter 100

/-- An arrival of the packet with the given counter. -/
def sampleArrival (counter : Nat) : ReceiveEvent := .packet (sampleTag counter) 100 true 100

theorem sampleSession_unreceived : sampleSession.Unreceived := by
  constructor <;> simp [sampleSession, Session.new]

/-- Counters 0, 255 and 256 arrive, then 0 again: the tag of 0 is still cached, the bitmap no
longer reaches it, and the second copy is validated. -/
theorem replay_of_cached_counter_validated :
    ¬ Along (receiveStep samplePrimitives) (ReplaySafe samplePrimitives) sampleSession
      [sampleArrival 0, sampleArrival 255, sampleArrival 256, sampleArrival 0] := by
  rintro ⟨-, -, -, h, -⟩
  exact h 0 (by decide +kernel) (by decide +kernel)

/-- The three arrivals before that replay meet the condition. -/
theorem replaySafe_arrivals_0_255_256 :
    Along (receiveStep samplePrimitives) (ReplaySafe samplePrimitives) sampleSession
      [sampleArrival 0, sampleArrival 255, sampleArrival 256] := by
  refine replaySafe_of_noStaleHit samplePrimitives sampleSession_unreceived _ ⟨?_, ?_, ?_, trivial⟩
  · show ∀ e ∈ _, _ → _
    decide +kernel
  · show ∀ e ∈ _, _ → _
    decide +kernel
  · show ∀ e ∈ _, _ → _
    decide +kernel

/-! ## The bitmap machine -/

/-- The operations on one session that touch its receive state. `recover` stands for
`recover_session_by_tag` finding a counter for `tag` and for the `mark_tag_received` of that
counter that follows in `handle_packet`. -/
inductive SessionOp where
  | mark (counter : Nat)
  | ratchet
  | updateWindow (tw : Nat)
  | refresh (tw : Nat)
  | recover (tag : Tag) (tw : Nat)

/-- The effect of an operation. -/
def sessionOpStep (s : Session) : SessionOp → Session
  | .mark counter => s.markTagReceived counter
  | .ratchet => s.completeRatchet
  | .updateWindow tw => s.updateTagWindow P tw
  | .refresh tw => (s.updateTagWindow P tw).updateRatchetedTagWindow P tw
  | .recover tag tw => match s.recoverySearch P tw tag with
    | none => s
    | some counter => (s.recoverAt P tw counter).markTagReceived counter

/-- The bitmap agrees with itself moved up by `k` on the bits 1 to 255 that stand for counters
below `c`. -/
def ShiftStableAt (b : U256) (k c : Nat) : Prop :=
  ∀ i, 0 < i → i < 256 → i ≤ c → b.getBit i = (b.shiftLeft k).getBit i

/-- A recovery moves the highest counter up by a distance by which the bitmap may be moved without
changing. Recovering the highest counter itself always meets this. -/
def ShiftStable (s : Session) : SessionOp → Prop
  | .recover tag tw => ∀ c, s.recoverySearch P tw tag = some c →
      s.counter ≤ c ∧ ShiftStableAt s.receivedBitmap (c - s.counter) c
  | _ => True

/-- The additions of the recovery search stay below `2 ^ 64`. -/
def RecoveryInRange (s : Session) : SessionOp → Prop
  | .recover _ _ => s.counter + Session.recoveryRange ≤ 2 ^ 64
  | _ => True

namespace Session

theorem recoverySearch_eq_some {s : Session} {tw c : Nat} {tag : Tag}
    (h : s.recoverySearch P tw tag = some c) :
    ∃ i w, i < recoveryRange ∧ w ∈ [tw, wrappingPred tw, wrappingAdd tw 1] ∧
      c = wrappingAdd s.counter i ∧ P.generateResonanceTag s.keys.tagSecret c w = tag := by
  unfold recoverySearch at h
  obtain ⟨w, hw, hfind⟩ := List.exists_of_findSome?_eq_some h
  rw [Option.map_eq_some_iff] at hfind
  obtain ⟨i, hi, rfl⟩ := hfind
  have hrange := List.mem_of_find?_eq_some hi
  rw [List.mem_range'_1] at hrange
  exact ⟨i, w, by omega, hw, rfl, by simpa using List.find?_some hi⟩

theorem le_of_recoverySearch {s : Session} {tw c : Nat} {tag : Tag}
    (h : s.recoverySearch P tw tag = some c) (hs : s.counter + recoveryRange ≤ 2 ^ 64) :
    s.counter ≤ c := by
  obtain ⟨i, w, hi, -, rfl, -⟩ := recoverySearch_eq_some P h
  unfold wrappingAdd
  rw [Nat.mod_eq_of_lt (by omega)]
  omega

/-- Once a counter at or above the highest one is recovered and marked, the bitmap is aligned
exactly when it agrees with the bitmap that `mark_tag_received` alone would have produced. -/
theorem ReceiveInv.recoverAt_aligned_iff {s : Session} (h : s.ReceiveInv) {c : Nat} (tw : Nat)
    (hc : s.counter ≤ c) :
    ((s.recoverAt P tw c).markTagReceived c).BitmapAligned ↔
      ShiftStableAt s.receivedBitmap (c - s.counter) c := by
  -- the bitmap after recovery is the old one with bit 0 set
  have hbits : ∀ i, i < 256 → ((s.recoverAt P tw c).markTagReceived c).receivedBitmap.getBit i =
      (decide (0 = i) || s.receivedBitmap.getBit i) := by
    intro i hi
    have hset : ((s.recoverAt P tw c).markTagReceived c).receivedBitmap =
        s.receivedBitmap.setBit 0 := by
      simp [Session.markTagReceived, recoverAt]
    rw [hset, U256.getBit_eq_test _ hi, U256.setBit_eq_setAt, WideBits.test_setAt _ _ hi,
      U256.getBit_eq_test _ hi]
  have hcounter : ((s.recoverAt P tw c).markTagReceived c).counter = c := by
    simp [markTagReceived_counter, recoverAt]
  -- the accepted counters are those of the old bitmap moved up by the drift
  have hshift : ∀ i, 0 < i → i < 256 → i ≤ c →
      ((s.receivedBitmap.shiftLeft (c - s.counter)).getBit i = true ↔ c - i ∈ s.accepted) := by
    intro i h0 hi hic
    rw [U256.shiftLeft_eq_shl, U256.getBit_eq_test _ hi, WideBits.test_shl _ _ hi]
    by_cases hk : c - s.counter ≤ i
    · have hbit := h.aligned (i - (c - s.counter)) (by omega) (by omega)
      rw [U256.getBit_eq_test _ (by omega),
        show s.counter - (i - (c - s.counter)) = c - i by omega] at hbit
      simp [hk, hbit]
    · have hnot : c - i ∉ s.accepted := fun hm => by
        have := h.below _ hm
        omega
      simp [hk, hnot]
  unfold BitmapAligned ShiftStableAt
  rw [hcounter, markTagReceived_accepted]
  constructor
  · intro ha i h0 hi hic
    have h1 := ha i hi hic
    have hne : c - i ≠ c := by omega
    rw [hbits i hi] at h1
    have h2 : s.receivedBitmap.getBit i = true ↔ c - i ∈ s.accepted := by
      simpa [show ¬ (0 = i) by omega, hne, recoverAt] using h1
    rw [Bool.eq_iff_iff, h2, hshift i h0 hi hic]
  · intro hst i hi hic
    rw [hbits i hi]
    by_cases h0 : 0 = i
    · subst h0
      simp
    · have hne : c - i ≠ c := by omega
      rw [hst i (by omega) hi hic]
      simp [h0, hne, recoverAt, hshift i (by omega) hi hic]

theorem AcceptedBelow.recoverAt {s : Session} (h : s.AcceptedBelow) {c : Nat} (tw : Nat)
    (hc : s.counter ≤ c) : ((s.recoverAt P tw c).markTagReceived c).AcceptedBelow := by
  have hr : (s.recoverAt P tw c).AcceptedBelow := by
    intro x hx
    exact Nat.le_trans (h x (by simpa [Session.recoverAt] using hx))
      (by simpa [Session.recoverAt] using hc)
  exact hr.markTagReceived c

end Session

theorem ReceiveInv.sessionOpStep {s : Session} (h : s.ReceiveInv) (op : SessionOp)
    (hst : ShiftStable P s op) : (sessionOpStep P s op).ReceiveInv := by
  cases op with
  | mark c => exact h.markTagReceived c
  | ratchet => exact h.completeRatchet
  | updateWindow tw => exact h.updateTagWindow P tw
  | refresh tw => exact (h.updateTagWindow P tw).updateRatchetedTagWindow P tw
  | recover tag tw =>
      unfold Aivpn.sessionOpStep
      simp only
      split
      · exact h
      · next c hfind =>
          obtain ⟨hc, hshift⟩ := hst c hfind
          exact ⟨(h.recoverAt_aligned_iff P tw hc).2 hshift, h.below.recoverAt P tw hc⟩

theorem shiftStable_of_aligned {s : Session} (h : s.ReceiveInv) (op : SessionOp)
    (hrange : RecoveryInRange s op) (ha : (sessionOpStep P s op).BitmapAligned) :
    ShiftStable P s op := by
  cases op with
  | recover tag tw =>
      intro c hfind
      have hc := Session.le_of_recoverySearch P hfind hrange
      unfold Aivpn.sessionOpStep at ha
      simp only [hfind] at ha
      exact ⟨hc, (h.recoverAt_aligned_iff P tw hc).1 ha⟩
  | mark c => trivial
  | ratchet => trivial
  | updateWindow tw => trivial
  | refresh tw => trivial

/-- The bitmap stays aligned in every run in which each recovery moves the counter by a distance
the bitmap is stable under; and, as long as the recovery search does not overflow, in no other
run. -/
theorem bitmapAligned_of_shiftStable {s : Session} (hs : s.Unreceived) (ops : List SessionOp) :
    (Along (sessionOpStep P) (ShiftStable P) s ops →
      Along (sessionOpStep P) (fun s op => (sessionOpStep P s op).BitmapAligned) s ops) ∧
    (Along (sessionOpStep P) RecoveryInRange s ops →
      Along (sessionOpStep P) (fun s op => (sessionOpStep P s op).BitmapAligned) s ops →
      Along (sessionOpStep P) (ShiftStable P) s ops) := by
  constructor
  · intro h
    exact Along.imp_of_invariant (fun _ op hi hc => ReceiveInv.sessionOpStep P hi op hc)
      (fun _ op hi hc => (ReceiveInv.sessionOpStep P hi op hc).aligned) hs.receiveInv h
  · intro hrange ha
    have hinv := hs.receiveInv
    clear hs
    induction ops generalizing s with
    | nil => trivial
    | cons op ops ih =>
        have hst := shiftStable_of_aligned P hinv op hrange.1 ha.1
        exact ⟨hst, ih hrange.2 ha.2 (ReceiveInv.sessionOpStep P hinv op hst)⟩

/-- Counters 0 and 1 are received, then counter 300 is recovered and marked: bit 1 stays set and
now stands for counter 299, which was never received. -/
theorem recovery_misaligns_bitmap :
    ¬ (runFrom (sessionOpStep samplePrimitives) sampleSession
      [.mark 0, .mark 1, .recover (sampleTag 300) 100]).BitmapAligned := by
  intro h
  have h1 := (h 1 (by decide) (by decide +kernel)).1 (by decide +kernel)
  revert h1
  decide +kernel

/-- Recovering the highest counter itself, in the window after the one it was received in, keeps
the bitmap aligned. -/
theorem bitmapAligned_recover_same :
    Along (sessionOpStep samplePrimitives)
      (fun s op => (sessionOpStep samplePrimitives s op).BitmapAligned) sampleSession
      [.mark 0, .mark 1, .recover (sampleTag 1) 100] := by
  refine (bitmapAligned_of_shiftStable samplePrimitives sampleSession_unreceived _).1
    ⟨trivial, trivial, ?_, trivial⟩
  intro c hc
  have hfind : (runFrom (sessionOpStep samplePrimitives) sampleSession
      [.mark 0, .mark 1]).recoverySearch samplePrimitives 100 (sampleTag 1) = some 1 := by
    decide +kernel
  have hc1 : c = 1 := Option.some.inj (hc.symm.trans hfind)
  subst hc1
  exact ⟨by decide +kernel, fun i _ _ _ => rfl⟩

/-! ## The window of the client -/

namespace Session

/-- The counters marked one after the other. -/
def markAll (s : Session) (cs : List Nat) : Session := cs.foldl Session.markTagReceived s

theorem ReceiveInv.markAll {s : Session} (h : s.ReceiveInv) (cs : List Nat) :
    (s.markAll cs).ReceiveInv := by
  induction cs generalizing s with
  | nil => exact h
  | cons c cs ih => exact ih (h.markTagReceived c)

theorem mem_accepted_markAll (s : Session) (cs : List Nat) (c : Nat) :
    c ∈ (s.markAll cs).accepted ↔ c ∈ cs ∨ c ∈ s.accepted := by
  induction cs generalizing s with
  | nil => simp [Session.markAll]
  | cons c' cs ih =>
      have hrest := ih (s.markTagReceived c')
      rw [markTagReceived_accepted, List.mem_cons] at hrest
      rw [List.mem_cons]
      exact hrest.trans (by tauto)

theorem markAll_counter (s : Session) (cs : List Nat) :
    (s.markAll cs).counter = cs.foldl max s.counter := by
  induction cs generalizing s with
  | nil => rfl
  | cons c cs ih =>
      have hrest := ih (s.markTagReceived c)
      rw [markTagReceived_counter] at hrest
      exact hrest

end Session

/-- A fresh session and a fresh receive window that have marked the same counters have the same
highest one, and over the last 256 counters they refuse the same ones: those that were marked. -/
theorem windows_agree (now : Nat) (sid : SessionId) (clientAddr : SocketAddr) (keys : SessionKeys)
    (ephPub : Key) {cs : List Nat} (hne : cs ≠ []) (hcs : ∀ c ∈ cs, c < 2 ^ 63) :
    let s := (Session.new now sid clientAddr keys ephPub).markAll cs
    let w := RecvWindow.new.markAll cs
    (s.counter : Int) = w.highest ∧ ∀ c, s.counter - 255 ≤ c → c ≤ s.counter →
      s.isReplay c = s.receivedBitmap.getBit (s.counter - c) ∧
      (s.receivedBitmap.getBit (s.counter - c) = true ↔ w.isNew c = false) ∧
      (w.isNew c = false ↔ c ∈ cs) := by
  intro s w
  have hfresh : (Session.new now sid clientAddr keys ephPub).Unreceived := ⟨rfl, rfl, rfl⟩
  have hs : s.ReceiveInv := hfresh.receiveInv.markAll cs
  have hw : w.Holds { c | c ∈ cs } := RecvWindow.holds_markAll hcs
  have hpos : 0 ≤ w.highest := not_lt.1 fun hneg => hne (hw.eq_nil hneg)
  -- both windows keep the maximum of the counters
  have hcounter : (s.counter : Int) = w.highest := by
    obtain ⟨c, cs', rfl⟩ := List.exists_cons_of_ne_nil hne
    have hmax : some (List.foldl max c cs') = some w.highest.toNat := hw.max?_eq hpos
    have hfold : s.counter = List.foldl max (max 0 c) cs' := Session.markAll_counter _ _
    rw [Nat.zero_max] at hfold
    rw [hfold, Option.some.inj hmax]
    exact Int.toNat_of_nonneg hpos
  refine ⟨hcounter, fun c hlow hhigh => ?_⟩
  have hmem : c ∈ s.accepted ↔ c ∈ cs := by
    simp [s, Session.mem_accepted_markAll, Session.new]
  -- bit `k` stands for the counter `k` below the highest
  have hbit : s.receivedBitmap.getBit (s.counter - c) = true ↔ c ∈ cs := by
    have haligned := hs.aligned (s.counter - c) (by omega) (by omega)
    rw [show s.counter - (s.counter - c) = c by omega] at haligned
    exact haligned.trans hmem
  have hreplay : s.isReplay c = true ↔ c ∈ cs := (hs.isReplay_iff (by omega)).trans hmem
  have hnew : w.isNew c = false ↔ c ∈ cs := by
    have hreach : 0 ≤ w.highest → w.highest.toNat < c + 256 := by omega
    rw [← Bool.not_eq_true, hw.isNew_iff, and_iff_left hreach]
    exact not_not
  refine ⟨?_, hbit.trans hnew.symm, hnew⟩
  rw [Bool.eq_iff_iff, hreplay, hbit]

theorem windows_agree_jump :
    [0, 200, 328, 90] ≠ [] ∧ (∀ c ∈ [0, 200, 328, 90], c < 2 ^ 63) ∧
      (((Session.new 0 0 default default default).markAll [0, 200, 328, 90]).counter : Int) =
        (RecvWindow.new.markAll [0, 200, 328, 90]).highest := by
  have hcs : ∀ c ∈ [0, 200, 328, 90], c < 2 ^ 63 := by decide
  exact ⟨List.cons_ne_nil _ _, hcs,
    (windows_agree 0 0 default default default (List.cons_ne_nil _ _) hcs).1⟩

end Aivpn
