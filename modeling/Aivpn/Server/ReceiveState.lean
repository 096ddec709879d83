import Aivpn.Server.LookupComplete
import Aivpn.Server.Stages

/-!
# The receive state of a session

The part of a session that decides which datagrams it accepts: its keys, the pending keys, and the
counters received under the current keys. The lock sections of `handle_packet` act on it by two
operations, `ratchet` and `mark`, whatever the tag tables hold. An epoch is the time under one set
of keys, the initial ones or the ratcheted ones; `Receivable` says when a session whose tag tables
are up to date validates the tag of a counter of an epoch.
-/

set_option autoImplicit false

namespace Aivpn

open Aivpn.Lib

/-- What decides which datagrams a session accepts. -/
structure ReceiveState where
  keys : SessionKeys
  ratchetedKeys : Option SessionKeys
  isRatcheted : Bool
  counter : Nat
  receivedBitmap : U256
deriving DecidableEq

/-- The receive state of a session. -/
def Session.receiveState (s : Session) : ReceiveState where
  keys := s.keys
  ratchetedKeys := s.ratchetedKeys
  isRatcheted := s.isRatcheted
  counter := s.counter
  receivedBitmap := s.receivedBitmap

namespace ReceiveState

/-- `complete_ratchet` on the receive state. -/
def ratchet (x : ReceiveState) : ReceiveState :=
  match x.ratchetedKeys with
  | some ratchetedKeys => ⟨ratchetedKeys, none, true, 0, U256.clear⟩
  | none => x

/-- `mark_tag_received` on the receive state. -/
def mark (x : ReceiveState) (counter : Nat) : ReceiveState :=
  if counter > x.counter then
    { x with
      receivedBitmap := (x.receivedBitmap.shiftLeft (counter - x.counter)).setBit 0
      counter := counter }
  else if x.counter - counter < 256 then
    { x with receivedBitmap := x.receivedBitmap.setBit (x.counter - counter) }
  else x

/-- The closure `is_replay` of `validate_tag`. -/
def isReplay (x : ReceiveState) (counterVal : Nat) : Bool :=
  if counterVal > x.counter then false
  else decide (x.counter - counterVal < tagWindowSize) &&
    x.receivedBitmap.getBit (x.counter - counterVal)

/-- The keys of the initial epoch or, with the flag set, of the ratcheted one, as long as the
session has them. -/
def epochKeys (x : ReceiveState) (epoch : Bool) : Option SessionKeys :=
  if epoch = x.isRatcheted then some x.keys
  else if epoch then x.ratchetedKeys
  else none

/-- A ratcheted session has no pending keys. -/
def Settled (x : ReceiveState) : Prop := x.isRatcheted = true → x.ratchetedKeys = none

/-- The flag with which `validate_tag` answers for a tag of the epoch: unset for the current keys,
set for the pending ones. -/
def Answers (x : ReceiveState) (epoch isRatchetedTag : Bool) : Prop :=
  if isRatchetedTag then epoch = true ∧ x.isRatcheted = false ∧ x.ratchetedKeys.isSome = true
  else epoch = x.isRatcheted

/-- With tag tables that are up to date, `validate_tag` finds the tag of the counter in the epoch,
with the given flag. -/
def Receivable (x : ReceiveState) (epoch : Bool) (counter : Nat) (isRatchetedTag : Bool) : Prop :=
  x.Answers epoch isRatchetedTag ∧
    if isRatchetedTag then counter < tagWindowSize
    else counter ∈ countersAround x.counter ∧ x.isReplay counter = false

instance decidableAnswers (x : ReceiveState) (epoch : Bool) :
    ∀ isRatchetedTag, Decidable (x.Answers epoch isRatchetedTag)
  | true => inferInstanceAs
      (Decidable (epoch = true ∧ x.isRatcheted = false ∧ x.ratchetedKeys.isSome = true))
  | false => inferInstanceAs (Decidable (epoch = x.isRatcheted))

instance decidableReceivable (x : ReceiveState) (epoch : Bool) (counter : Nat) :
    ∀ isRatchetedTag, Decidable (x.Receivable epoch counter isRatchetedTag)
  | true => inferInstanceAs (Decidable (x.Answers epoch true ∧ counter < tagWindowSize))
  | false => inferInstanceAs (Decidable (x.Answers epoch false ∧
      counter ∈ countersAround x.counter ∧ x.isReplay counter = false))

/-! ## The two operations -/

theorem ratchet_of_none {x : ReceiveState} (h : x.ratchetedKeys = none) : x.ratchet = x := by
  unfold ratchet
  rw [h]

theorem ratchet_of_some {x : ReceiveState} {keys : SessionKeys} (h : x.ratchetedKeys = some keys) :
    x.ratchet = ⟨keys, none, true, 0, U256.clear⟩ := by
  unfold ratchet
  rw [h]

theorem Settled.ratchet {x : ReceiveState} (h : x.Settled) : x.ratchet.Settled := by
  cases hkeys : x.ratchetedKeys with
  | none =>
      rw [ratchet_of_none hkeys]
      exact h
  | some keys =>
      rw [ratchet_of_some hkeys]
      exact fun _ => rfl

theorem mark_counter (x : ReceiveState) (c : Nat) : (x.mark c).counter = max x.counter c := by
  unfold mark
  split_ifs with h1 h2
  · show c = max x.counter c
    omega
  · show x.counter = max x.counter c
    omega
  · show x.counter = max x.counter c
    omega

theorem mark_keys (x : ReceiveState) (c : Nat) : (x.mark c).keys = x.keys ∧
    (x.mark c).ratchetedKeys = x.ratchetedKeys ∧ (x.mark c).isRatcheted = x.isRatcheted := by
  unfold mark
  split_ifs
  · exact ⟨rfl, rfl, rfl⟩
  · exact ⟨rfl, rfl, rfl⟩
  · exact ⟨rfl, rfl, rfl⟩

theorem Settled.mark {x : ReceiveState} (h : x.Settled) (c : Nat) : (x.mark c).Settled := by
  obtain ⟨-, hpending, hratcheted⟩ := x.mark_keys c
  unfold Settled
  rw [hpending, hratcheted]
  exact h

theorem mark_epochKeys (x : ReceiveState) (c : Nat) (epoch : Bool) :
    (x.mark c).epochKeys epoch = x.epochKeys epoch := by
  obtain ⟨hkeys, hpending, hratcheted⟩ := x.mark_keys c
  unfold epochKeys
  rw [hkeys, hpending, hratcheted]

/-- The ratchet brings no keys that the session did not have for that epoch. -/
theorem epochKeys_of_ratchet {x : ReceiveState} (hsettled : x.Settled) {epoch : Bool}
    {keys : SessionKeys} (h : x.ratchet.epochKeys epoch = some keys) :
    x.epochKeys epoch = some keys := by
  cases hpending : x.ratchetedKeys with
  | none => rwa [ratchet_of_none hpending] at h
  | some pending =>
      have hratcheted : x.isRatcheted = false := by
        cases hr : x.isRatcheted with
        | false => rfl
        | true =>
            rw [hsettled hr] at hpending
            cases hpending
      rw [ratchet_of_some hpending] at h
      cases epoch with
      | false => cases h
      | true =>
          unfold epochKeys
          rw [hratcheted, hpending]
          exact h

theorem exists_answers {x : ReceiveState} {epoch : Bool} {keys : SessionKeys}
    (h : x.epochKeys epoch = some keys) : ∃ r, x.Answers epoch r := by
  by_cases hepoch : epoch = x.isRatcheted
  · exact ⟨false, hepoch⟩
  · unfold epochKeys at h
    rw [if_neg hepoch] at h
    cases epoch with
    | false => cases h
    | true =>
        have hratcheted : x.isRatcheted = false := by simpa using hepoch
        have hpending : x.ratchetedKeys = some keys := h
        exact ⟨true, rfl, hratcheted, by rw [hpending]; rfl⟩

theorem Answers.epoch_unique {x : ReceiveState} {epoch epoch' r : Bool} (h : x.Answers epoch r)
    (h' : x.Answers epoch' r) : epoch = epoch' := by
  cases r with
  | false => exact Eq.trans h (Eq.symm h')
  | true => exact h.1.trans h'.1.symm

theorem Answers.flag_unique {x : ReceiveState} {epoch r r' : Bool} (h : x.Answers epoch r)
    (h' : x.Answers epoch r') : r = r' := by
  cases r with
  | false => cases r' with
    | false => rfl
    | true =>
        have hepoch : epoch = x.isRatcheted := h
        rw [h'.1, h'.2.1] at hepoch
        cases hepoch
  | true => cases r' with
    | true => rfl
    | false =>
        have hepoch : epoch = x.isRatcheted := h'
        rw [h.1, h.2.1] at hepoch
        cases hepoch

/-! ## What marking a counter does to the others -/

/-- Bit `i` of the bitmap after a mark: the bit of the same counter before it, or set if the counter
is the marked one. -/
theorem getBit_mark (x : ReceiveState) (c : Nat) {i : Nat} (hi : i < 256) (hle : i ≤ max x.counter c) :
    (x.mark c).receivedBitmap.getBit i =
      (decide (max x.counter c - i = c) || (decide (max x.counter c - i ≤ x.counter) &&
        x.receivedBitmap.getBit (x.counter - (max x.counter c - i)))) := by
  unfold mark
  split_ifs with hgt hin
  · have hmax : max x.counter c = c := by omega
    rw [hmax] at hle ⊢
    simp only
    rw [U256.getBit_eq_test _ hi, U256.shiftLeft_eq_shl, U256.setBit_eq_setAt,
      WideBits.test_setAt _ _ hi, WideBits.test_shl _ _ hi]
    by_cases hshift : c - x.counter ≤ i
    · have hback : x.counter - (c - i) = i - (c - x.counter) := by omega
      have hbelow : c - i ≤ x.counter := by omega
      rw [hback, U256.getBit_eq_test _ (by omega)]
      by_cases h0 : i = 0
      · omega
      · have hne : c - i ≠ c := by omega
        simp [hshift, hbelow, hne, Ne.symm h0]
    · have habove : ¬ c - i ≤ x.counter := by omega
      by_cases h0 : i = 0
      · subst h0
        simp
      · have hne : c - i ≠ c := by omega
        simp [hshift, habove, hne, Ne.symm h0]
  · have hmax : max x.counter c = x.counter := by omega
    rw [hmax] at hle ⊢
    simp only
    have hback : x.counter - (x.counter - i) = i := by omega
    rw [hback, U256.getBit_eq_test _ hi, U256.getBit_eq_test _ hi, U256.setBit_eq_setAt,
      WideBits.test_setAt _ _ hi]
    have heq : (x.counter - c = i) ↔ (x.counter - i = c) := by omega
    simp [heq]
  · have hmax : max x.counter c = x.counter := by omega
    rw [hmax] at hle ⊢
    have hback : x.counter - (x.counter - i) = i := by omega
    have hne : x.counter - i ≠ c := by omega
    simp [hback, hne]

/-- A counter in reach of the bitmap is a replay once it is marked. -/
theorem isReplay_mark_self (x : ReceiveState) {c : Nat} (hc : x.counter < c + 256) :
    (x.mark c).isReplay c = true := by
  unfold isReplay
  rw [mark_counter]
  have hle : ¬ c > max x.counter c := by omega
  have hin : max x.counter c - c < tagWindowSize := by
    unfold tagWindowSize
    omega
  rw [if_neg hle, getBit_mark x c (by omega) (by omega)]
  have hself : max x.counter c - (max x.counter c - c) = c := by omega
  simp [hin, hself]

/-- A counter that stays in reach of the bitmap is a replay after a mark only if it was one before or
is the marked one. -/
theorem isReplay_mark_of_ne {x : ReceiveState} {c d : Nat} (h : x.isReplay d = false) (hne : d ≠ c) :
    (x.mark c).isReplay d = false := by
  unfold isReplay at h ⊢
  rw [mark_counter]
  by_cases habove : d > max x.counter c
  · rw [if_pos habove]
  rw [if_neg habove]
  by_cases hin : max x.counter c - d < tagWindowSize
  · rw [getBit_mark x c hin (by omega)]
    have hself : max x.counter c - (max x.counter c - d) = d := by omega
    rw [hself]
    by_cases hold : d > x.counter
    · have hnot : ¬ d ≤ x.counter := by omega
      simp [hne, hnot]
    · rw [if_neg hold] at h
      have hin' : x.counter - d < tagWindowSize := by
        unfold tagWindowSize at hin ⊢
        omega
      have hbit : x.receivedBitmap.getBit (x.counter - d) = false := by
        simpa [hin'] using h
      simp [hne, hbit]
  · simp [hin]

/-! ## What stays receivable -/

theorem Receivable.epochKeys {x : ReceiveState} {epoch r : Bool} {c : Nat}
    (h : x.Receivable epoch c r) : ∃ keys, x.epochKeys epoch = some keys ∧
      (if r then x.ratchetedKeys = some keys else x.keys = keys) := by
  obtain ⟨hanswers, -⟩ := h
  cases r with
  | false =>
      have hepoch : epoch = x.isRatcheted := hanswers
      exact ⟨x.keys, if_pos hepoch, rfl⟩
  | true =>
      obtain ⟨rfl, hratcheted, hpending⟩ := hanswers
      obtain ⟨keys, hkeys⟩ := Option.isSome_iff_exists.1 hpending
      refine ⟨keys, ?_, hkeys⟩
      unfold ReceiveState.epochKeys
      rw [hratcheted, hkeys]
      rfl

/-- A counter stays receivable when another one is marked that is not too far above it. -/
theorem Receivable.mark {x : ReceiveState} {epoch r : Bool} {c d : Nat} (h : x.Receivable epoch d r)
    (hother : r = false → d ≠ c ∧ c ≤ d + 255) : (x.mark c).Receivable epoch d r := by
  obtain ⟨-, hpending, hratcheted⟩ := x.mark_keys c
  obtain ⟨hanswers, hreach⟩ := h
  refine ⟨?_, ?_⟩
  · unfold Answers at hanswers ⊢
    rwa [hpending, hratcheted]
  · cases r with
    | true =>
        rw [if_pos rfl] at hreach ⊢
        exact hreach
    | false =>
        obtain ⟨hmem, hnew⟩ := hreach
        obtain ⟨hne, hle⟩ := hother rfl
        refine ⟨?_, isReplay_mark_of_ne hnew hne⟩
        rw [mem_countersAround] at hmem ⊢
        rw [mark_counter]
        omega

/-- What is receivable under the pending keys is so under the current ones after the ratchet. -/
theorem Receivable.ratchet {x : ReceiveState} {epoch : Bool} {c : Nat}
    (h : x.Receivable epoch c true) : x.ratchet.Receivable epoch c false := by
  obtain ⟨⟨rfl, -, hpending⟩, hc⟩ := h
  obtain ⟨keys, hkeys⟩ := Option.isSome_iff_exists.1 hpending
  rw [if_pos rfl, tagWindowSize] at hc
  have hclear : U256.clear.getBit 0 = false := by decide
  rw [ratchet_of_some hkeys]
  refine ⟨rfl, ?_, by simp [isReplay, hclear]⟩
  rw [mem_countersAround, u64Max]
  show 0 ≤ c + 255 ∧ c ≤ 0 + 255 ∧ _
  omega

/-- And the other way round. -/
theorem Receivable.of_ratchet {x : ReceiveState} (hsettled : x.Settled) {epoch : Bool} {c : Nat}
    {keys : SessionKeys} (hkeys : x.ratchetedKeys = some keys)
    (h : x.ratchet.Receivable epoch c false) : x.Receivable epoch c true := by
  rw [ratchet_of_some hkeys] at h
  obtain ⟨hepoch, hmem, -⟩ := h
  have hepoch : epoch = true := hepoch
  have hratcheted : x.isRatcheted = false := by
    cases hr : x.isRatcheted with
    | false => rfl
    | true =>
        rw [hsettled hr] at hkeys
        cases hkeys
  refine ⟨⟨hepoch, hratcheted, by rw [hkeys]; rfl⟩, ?_⟩
  have hle : c ≤ 0 + 255 := (mem_countersAround.1 hmem).2.1
  show c < tagWindowSize
  unfold tagWindowSize
  omega

/-- While keys are pending, the tags of the ratcheted epoch are those of the pending keys. -/
theorem Receivable.of_pending {x : ReceiveState} (hsettled : x.Settled) {keys : SessionKeys}
    (hkeys : x.ratchetedKeys = some keys) {epoch r : Bool} {c : Nat} (hepoch : epoch = true)
    (h : x.Receivable epoch c r) : x.Receivable epoch c true := by
  cases r with
  | true => exact h
  | false =>
      have hratcheted : epoch = x.isRatcheted := h.1
      rw [hsettled (hratcheted.symm.trans hepoch)] at hkeys
      cases hkeys

/-- What is receivable after a ratchet that the state `y` has still before it is receivable in `y`,
and has the same effect there. -/
theorem Receivable.before {x y : ReceiveState} (hsettled : y.Settled)
    (h : x = y ∨ y.ratchetedKeys.isSome = true ∧ x = y.ratchet) {epoch r : Bool} {c : Nat}
    (hr : x.Receivable epoch c r) : ∃ r', y.Receivable epoch c r' ∧
      (if r' then y.ratchet else y) = if r then x.ratchet else x := by
  rcases h with rfl | ⟨hpending, rfl⟩
  · exact ⟨r, hr, rfl⟩
  · obtain ⟨keys, hkeys⟩ := Option.isSome_iff_exists.1 hpending
    cases r with
    | false => exact ⟨true, hr.of_ratchet hsettled hkeys, rfl⟩
    | true =>
        have hratcheted := hr.1.2.1
        rw [ratchet_of_some hkeys] at hratcheted
        cases hratcheted

end ReceiveState

/-! ## Sessions -/

namespace Session

variable {P : Primitives}

theorem updateTagWindow_receiveState (tw : Nat) (s : Session) :
    (s.updateTagWindow P tw).receiveState = s.receiveState := by
  simp only [receiveState, updateTagWindow]

@[simp] theorem refresh_receiveState (tw : Nat) (s : Session) :
    ((s.updateTagWindow P tw).updateRatchetedTagWindow P tw).receiveState = s.receiveState := by
  unfold updateRatchetedTagWindow
  split
  · simp only [receiveState, updateTagWindow]
  · exact updateTagWindow_receiveState tw s

theorem completeRatchet_receiveState (s : Session) :
    s.completeRatchet.receiveState = s.receiveState.ratchet := by
  unfold completeRatchet
  cases hkeys : s.ratchetedKeys with
  | none => exact (ReceiveState.ratchet_of_none hkeys).symm
  | some keys => exact (ReceiveState.ratchet_of_some hkeys).symm

theorem markTagReceived_receiveState (s : Session) (c : Nat) :
    (s.markTagReceived c).receiveState = s.receiveState.mark c := by
  unfold markTagReceived ReceiveState.mark
  simp only
  by_cases hgt : c > s.counter
  · rw [if_pos hgt, if_pos (show c > s.receiveState.counter from hgt)]
    rfl
  rw [if_neg hgt, if_neg (show ¬ c > s.receiveState.counter from hgt)]
  by_cases hin : s.counter - c < 256
  · rw [if_pos hin, if_pos (show s.receiveState.counter - c < 256 from hin)]
    rfl
  · rw [if_neg hin, if_neg (show ¬ s.receiveState.counter - c < 256 from hin)]
    rfl

/-- An accepted datagram marks its counter. -/
theorem receiveState_receive (env : Env) (s : Session) (c : Nat) (isNew : Bool) (addr : SocketAddr)
    (len : Nat) : (s.receive P env c isNew addr len).1.receiveState = s.receiveState.mark c := by
  obtain ⟨instant, client, bytes, heq⟩ := s.receive_eq P env c isNew addr len
  have haccept : (s.acceptCounter P env.timeWindow c).receiveState = s.receiveState.mark c := by
    unfold acceptCounter
    simp only
    split_ifs
    · rw [updateTagWindow_receiveState, markTagReceived_receiveState]
    · exact markTagReceived_receiveState s c
  rw [heq]
  exact haccept

/-- A rebuilt tag window lies around the highest counter. -/
theorem acceptCounter_tagWindowBase_le (tw : Nat) (s : Session) (c : Nat) :
    (s.acceptCounter P tw c).tagWindowBase ≤ max (max s.counter c) s.tagWindowBase := by
  have hcounter := s.markTagReceived_counter c
  have hbase : (s.markTagReceived c).tagWindowBase = s.tagWindowBase := by
    unfold markTagReceived
    simp only
    split_ifs <;> rfl
  unfold acceptCounter
  simp only
  split_ifs
  · show (s.markTagReceived c).counter ≤ _
    omega
  · omega

theorem CacheSound.settled {W : Set Nat} {s : Session} (h : s.CacheSound P W) :
    s.receiveState.Settled := fun hratcheted => (h.ratcheted hratcheted).1

/-- The tag secrets of a session are those of its epochs. -/
theorem tagSecret_eq_some {s : Session} {r : Bool} {secret : Key}
    (hsettled : s.receiveState.Settled) (h : s.tagSecret r = some secret) :
    ∃ epoch keys, s.receiveState.Answers epoch r ∧ s.receiveState.epochKeys epoch = some keys ∧
      keys.tagSecret = secret := by
  cases r with
  | false =>
      cases h
      exact ⟨s.isRatcheted, s.keys, rfl, if_pos rfl, rfl⟩
  | true =>
      obtain ⟨keys, hkeys, rfl⟩ := Option.map_eq_some_iff.1 h
      have hratcheted : s.isRatcheted = false := by
        cases hr : s.isRatcheted with
        | false => rfl
        | true =>
            have hnone : s.ratchetedKeys = none := hsettled hr
            rw [hnone] at hkeys
            cases hkeys
      refine ⟨true, keys, ⟨rfl, hratcheted, ?_⟩, ?_, rfl⟩
      · show s.ratchetedKeys.isSome = true
        rw [hkeys]
        rfl
      · show (if true = s.isRatcheted then _ else _) = _
        rw [hratcheted]
        exact hkeys

theorem tagSecret_of_answers {s : Session} {epoch r : Bool} {keys : SessionKeys}
    (hanswers : s.receiveState.Answers epoch r)
    (h : s.receiveState.epochKeys epoch = some keys) : s.tagSecret r = some keys.tagSecret := by
  cases r with
  | false =>
      have hepoch : epoch = s.isRatcheted := hanswers
      have hkeys : s.receiveState.epochKeys epoch = some s.keys := if_pos hepoch
      rw [hkeys] at h
      cases h
      rfl
  | true =>
      obtain ⟨rfl, hratcheted, -⟩ := hanswers
      have hkeys : s.receiveState.epochKeys true = s.ratchetedKeys := by
        show (if true = s.isRatcheted then _ else _) = _
        rw [show s.isRatcheted = false from hratcheted]
        rfl
      rw [hkeys] at h
      show s.ratchetedKeys.map SessionKeys.tagSecret = _
      rw [h]
      rfl

end Session

/-! ## What the lock sections keep -/

namespace SessionManager

variable {P : Primitives} {W : Set Nat}

/-- The triples of a secret, a counter and a window that lookups compute tags for while no session
gets past the counter `top`. -/
def triplesUpTo (W : Set Nat) (top : Nat) (m : SessionManager) : Set (Key × Nat × Nat) :=
  { x | ∃ sid ∈ m.sessions, x.1 ∈ (m.heap sid).secrets ∧
    x.2.1 < max top (max (m.heap sid).counter (m.heap sid).tagWindowBase) + Session.recoveryRange ∧
    x.2.2 ∈ W }

/-- What the lock sections of calls on live sessions keep of the state `m₀` in which they begin, for
datagrams with counters up to `top`. -/
structure Continues (P : Primitives) (W : Set Nat) (top : Nat) (m₀ m : SessionManager) : Prop where
  sessions : m.sessions = m₀.sessions
  tagInv : m.TagInv
  sound : ∀ sid, (m.heap sid).CacheSound P W
  keys : ∀ sid epoch keys, (m.heap sid).receiveState.epochKeys epoch = some keys →
    (m₀.heap sid).receiveState.epochKeys epoch = some keys
  bounded : ∀ sid, (m.heap sid).counter ≤
      max top (max (m₀.heap sid).counter (m₀.heap sid).tagWindowBase) ∧
    (m.heap sid).tagWindowBase ≤ max top (max (m₀.heap sid).counter (m₀.heap sid).tagWindowBase)

theorem continues_refl {m : SessionManager} {top : Nat} (hinv : m.TagInv)
    (hsound : ∀ sid, (m.heap sid).CacheSound P W) : Continues P W top m m where
  sessions := rfl
  tagInv := hinv
  sound := hsound
  keys _ _ _ h := h
  bounded sid := by omega

variable {top : Nat} {m₀ m : SessionManager}

/-- Distinct secrets stay distinct, as no epoch gets other keys than it had in the beginning. -/
theorem Continues.distinctSecrets (h : Continues P W top m₀ m) (hsecrets : m₀.DistinctSecrets) :
    m.DistinctSecrets := by
  intro sid hlive sid' hlive' r r' secret hr hr'
  rw [h.sessions] at hlive hlive'
  -- each of the two secrets belongs to an epoch of its session
  obtain ⟨epoch, keys, hanswers, hkeys, hsecret⟩ := Session.tagSecret_eq_some (h.sound sid).settled hr
  obtain ⟨epoch', keys', hanswers', hkeys', hsecret'⟩ :=
    Session.tagSecret_eq_some (h.sound sid').settled hr'
  have hkeys₀ := h.keys sid epoch keys hkeys
  have hkeys₀' := h.keys sid' epoch' keys' hkeys'
  obtain ⟨r₀, hr₀⟩ := ReceiveState.exists_answers hkeys₀
  obtain ⟨r₀', hr₀'⟩ := ReceiveState.exists_answers hkeys₀'
  have ht₀ := Session.tagSecret_of_answers hr₀ hkeys₀
  have ht₀' := Session.tagSecret_of_answers hr₀' hkeys₀'
  rw [hsecret] at ht₀
  rw [hsecret'] at ht₀'
  obtain ⟨rfl, rfl⟩ := hsecrets sid hlive sid' hlive' r₀ r₀' secret ht₀ ht₀'
  have hepoch : epoch' = epoch := hr₀'.epoch_unique hr₀
  subst hepoch
  exact ⟨rfl, hanswers'.flag_unique hanswers⟩

/-- So do the triples that lookups compute tags for stay among those of the beginning. -/
theorem Continues.tagTriples_subset (h : Continues P W top m₀ m) :
    m.tagTriples W ⊆ m₀.triplesUpTo W top := by
  rintro x ⟨sid, hlive, r, hsecret, hw, hcounter⟩
  rw [h.sessions] at hlive
  obtain ⟨epoch, keys, -, hkeys, hx⟩ := Session.tagSecret_eq_some (h.sound sid).settled hsecret
  have hkeys₀ := h.keys sid epoch keys hkeys
  obtain ⟨r₀, hr₀⟩ := ReceiveState.exists_answers hkeys₀
  obtain ⟨hbound, hbase⟩ := h.bounded sid
  refine ⟨sid, hlive, ?_, ?_, hw⟩
  · rw [← hx]
    exact Session.mem_secrets (Session.tagSecret_of_answers hr₀ hkeys₀)
  · cases r with
    | false =>
        rw [if_neg Bool.false_ne_true] at hcounter
        exact Session.lt_of_mem_lookupCounters hbound hbase hcounter
    | true =>
        rw [if_pos rfl] at hcounter
        exact Nat.lt_of_lt_of_le hcounter (Nat.le_trans (by decide) (Nat.le_add_left _ _))

theorem Continues.ideal (h : Continues P W top m₀ m) (hsecrets : m₀.DistinctSecrets)
    (hfree : P.CollisionFree (m₀.triplesUpTo W top)) : m.Ideal P W where
  secrets := h.distinctSecrets hsecrets
  tags := hfree.mono h.tagTriples_subset

/-- A section that changes one session keeps what all of them keep if that session does. -/
theorem Continues.update {m' : SessionManager} {sid : SessionId} {s : Session}
    (h : Continues P W top m₀ m) (hsessions : m'.sessions = m.sessions) (hinv : m'.TagInv)
    (hheap : m'.heap = Function.update m.heap sid s) (hsound : s.CacheSound P W)
    (hkeys : ∀ epoch keys, s.receiveState.epochKeys epoch = some keys →
      (m.heap sid).receiveState.epochKeys epoch = some keys)
    (hbounded : s.counter ≤ max top (max (m.heap sid).counter (m.heap sid).tagWindowBase) ∧
      s.tagWindowBase ≤ max top (max (m.heap sid).counter (m.heap sid).tagWindowBase)) :
    Continues P W top m₀ m' := by
  refine ⟨hsessions.trans h.sessions, hinv, fun other => ?_, fun other epoch keys hother => ?_,
    fun other => ?_⟩
  · rw [hheap]
    by_cases heq : other = sid
    · subst heq
      rwa [Function.update_self]
    · rw [Function.update_of_ne heq]
      exact h.sound other
  · rw [hheap] at hother
    by_cases heq : other = sid
    · subst heq
      rw [Function.update_self] at hother
      exact h.keys other epoch keys (hkeys epoch keys hother)
    · rw [Function.update_of_ne heq] at hother
      exact h.keys other epoch keys hother
  · have hold := h.bounded other
    rw [hheap]
    by_cases heq : other = sid
    · subst heq
      rw [Function.update_self]
      omega
    · rw [Function.update_of_ne heq]
      exact hold

theorem Continues.refresh (h : Continues P W top m₀ m) {tw : Nat} (hw : tw ∈ W) (tag : Tag) :
    Continues P W top m₀ (m.refreshAndFindByTag P tw tag).2 where
  sessions := (refreshLoop_sessions P tw tag m.sessions m).trans h.sessions
  tagInv := h.tagInv.refreshLoop fun _ hlive => hlive
  sound sid := refreshLoop_preserves
    (fun _ hs => (hs.updateTagWindow hw).updateRatchetedTagWindow hw) tag m.sessions (h.sound sid)
  keys sid epoch keys hkeys := by
    refine h.keys sid epoch keys ?_
    rw [← hkeys]
    exact congrArg (fun x => ReceiveState.epochKeys x epoch) (refreshLoop_heap P
      Session.receiveState tw tag (Session.refresh_receiveState tw) m.sessions m sid).symm
  bounded sid := by
    refine refreshLoop_preserves (Q := fun s => s.counter ≤ _ ∧ s.tagWindowBase ≤ _)
      (fun s hs => ?_) tag m.sessions (h.bounded sid)
    have hbase : ((s.updateTagWindow P tw).updateRatchetedTagWindow P tw).tagWindowBase =
        s.counter := by
      unfold Session.updateRatchetedTagWindow
      split <;> rfl
    rw [hbase, Session.updateRatchetedTagWindow_counter, Session.updateTagWindow_counter]
    exact ⟨hs.1, hs.1⟩

theorem ratchetSession_heap {sid : SessionId} (hlive : sid ∈ m.sessions) :
    ((m.completeSessionRatchet sid).refreshSessionTags sid).heap =
      Function.update m.heap sid (m.heap sid).completeRatchet := by
  rw [refreshSessionTags_heap]
  unfold completeSessionRatchet
  rw [if_pos hlive]
  rfl

theorem Continues.ratchet (h : Continues P W top m₀ m) {sid : SessionId} (hlive : sid ∈ m.sessions) :
    Continues P W top m₀ ((m.completeSessionRatchet sid).refreshSessionTags sid) := by
  refine h.update ?_ (h.tagInv.ratchetSession sid) (ratchetSession_heap hlive)
    (h.sound sid).completeRatchet (fun epoch keys hkeys => ?_) ?_
  · rw [refreshSessionTags_sessions]
    exact (completeSessionRatchet_map m sid).1
  · rw [Session.completeRatchet_receiveState] at hkeys
    exact ReceiveState.epochKeys_of_ratchet (h.sound sid).settled hkeys
  · unfold Session.completeRatchet
    split
    · exact ⟨Nat.zero_le _, Nat.zero_le _⟩
    · omega

theorem Continues.receive (h : Continues P W top m₀ m) {env : Env} (hw : env.timeWindow ∈ W)
    (t : TagMatch) (htop : t.counter ≤ top) (addr : SocketAddr) (len : Nat) :
    Continues P W top m₀ (m.receive P env t addr len).2 := by
  obtain ⟨instant, client, bytes, heq⟩ :=
    (m.heap t.sessionId).receive_eq P env t.counter t.isNewSession addr len
  have hcounter : ((m.heap t.sessionId).receive P env t.counter t.isNewSession addr len).1.counter =
      max (m.heap t.sessionId).counter t.counter := by
    have hstate := (m.heap t.sessionId).receiveState_receive (P := P) env t.counter t.isNewSession
      addr len
    exact (congrArg ReceiveState.counter hstate).trans (ReceiveState.mark_counter _ _)
  have hbase : ((m.heap t.sessionId).receive P env t.counter t.isNewSession addr
      len).1.tagWindowBase ≤ max (max (m.heap t.sessionId).counter t.counter)
        (m.heap t.sessionId).tagWindowBase := by
    rw [heq]
    exact Session.acceptCounter_tagWindowBase_le env.timeWindow _ t.counter
  refine h.update ?_ (h.tagInv.receive env t addr len) (receive_heap P env m t addr len)
    ((h.sound _).receive hw _ _ _ _) (fun epoch keys hkeys => ?_) ?_
  · exact (receive_map m env t addr len).1
  · rwa [Session.receiveState_receive, ReceiveState.mark_epochKeys] at hkeys
  · omega

/-- The lookup chain finds what is receivable, and moves nothing but tag tables. -/
theorem Continues.findSession (h : Continues P W top m₀ m) (hsecrets : m₀.DistinctSecrets)
    (hfree : P.CollisionFree (m₀.triplesUpTo W top)) {env : Env}
    (hnear : ∀ w ∈ nearWindows env.timeWindow, w ∈ W) {sid : SessionId} (hlive : sid ∈ m.sessions)
    {epoch r : Bool} {c w : Nat} {keys : SessionKeys} {tag : Tag}
    (hreceivable : (m.heap sid).receiveState.Receivable epoch c r)
    (hkeys : (m₀.heap sid).receiveState.epochKeys epoch = some keys)
    (hw : w ∈ nearWindows env.timeWindow) (htag : P.generateResonanceTag keys.tagSecret c w = tag)
    (ip : IpAddr) : ∃ m', m.findSession P env tag ip = (.ok (some (sid, c, r)), m') ∧
      Continues P W top m₀ m' ∧
      ∀ other, (m'.heap other).receiveState = (m.heap other).receiveState := by
  obtain ⟨hdistinct, hfree'⟩ := h.ideal hsecrets hfree
  -- the keys are those that the session had for the epoch in the beginning
  obtain ⟨keys', hkeys', -⟩ := hreceivable.epochKeys
  have hsame := h.keys sid epoch keys' hkeys'
  rw [hkeys] at hsame
  obtain rfl := Option.some.inj hsame
  have hsecret := Session.tagSecret_of_answers hreceivable.1 hkeys'
  have hreach := hreceivable.2
  have hnew : r = false → (m.heap sid).isReplay c = false := by
    rintro rfl
    rw [if_neg Bool.false_ne_true] at hreach
    exact hreach.2
  have hc : c ∈ (m.heap sid).searchCounters r := by
    cases r with
    | false =>
        rw [if_neg Bool.false_ne_true] at hreach
        exact hreach.1
    | true =>
        rw [if_pos rfl] at hreach
        exact List.mem_range.2 hreach
  have hfound := finds_of_tag h.tagInv (fun other _ => h.sound other) hnear hdistinct hfree'
    hlive hnew hsecret hc hw htag ip
  refine ⟨(m.findSession P env tag ip).2, Prod.ext hfound.1 rfl, ?_⟩
  rcases hfound.manager with heq | heq
  · rw [heq]
    exact ⟨h, fun _ => rfl⟩
  · rw [heq]
    exact ⟨h.refresh (hnear _ List.mem_cons_self) tag, refreshLoop_heap P Session.receiveState _ tag
      (Session.refresh_receiveState _) m.sessions m⟩

/-- So does a lookup that finds nothing. -/
theorem Continues.findSession_refused (h : Continues P W top m₀ m) {env : Env}
    (hw : env.timeWindow ∈ W) {tag : Tag} {ip : IpAddr}
    (hnone : ∀ hit, (m.findSession P env tag ip).1 ≠ .ok (some hit)) :
    Continues P W top m₀ (m.findSession P env tag ip).2 ∧
      ∀ other, ((m.findSession P env tag ip).2.heap other).receiveState =
        (m.heap other).receiveState := by
  have hrefresh : Continues P W top m₀ (m.refreshAndFindByTag P env.timeWindow tag).2 ∧
      ∀ other, ((m.refreshAndFindByTag P env.timeWindow tag).2.heap other).receiveState =
        (m.heap other).receiveState :=
    ⟨h.refresh hw tag, refreshLoop_heap P Session.receiveState _ tag
      (Session.refresh_receiveState _) m.sessions m⟩
  rcases m.findSession_cases P env tag ip with ⟨sid', -, hfs | ⟨c', r', -, hfs⟩⟩ |
    ⟨-, ⟨hit, -, hfs⟩ | ⟨-, hfs⟩⟩
  · rw [hfs]
    exact ⟨h, fun _ => rfl⟩
  · rw [hfs]
    exact ⟨h, fun _ => rfl⟩
  · rw [hfs]
    exact hrefresh
  · -- nor has the recovery found anything, and then it has done nothing
    rw [hfs] at hnone ⊢
    revert hnone hrefresh
    generalize (m.refreshAndFindByTag P env.timeWindow tag).2 = m'
    intro hnone hrefresh
    simp only at hnone ⊢
    unfold recoverSessionByTag at hnone ⊢
    split
    · exact hrefresh
    · next hhit =>
        rw [hhit] at hnone
        exact absurd rfl (hnone _)

end SessionManager

/-! ## Decryption in an epoch -/

/-- The decryption of a datagram for a counter of an epoch, under the keys of the epoch. Before the
ratchet an embedded `eph_pub` is skipped in every datagram long enough to hold one. -/
def epochDecrypt (P : Primitives) (keys : SessionKeys) (epoch : Bool) (counter : Nat)
    (packetData : Bytes) : Except Error Bytes :=
  let offset := if !epoch && decide (tagSize + mdhLen + 32 + 16 ≤ packetData.length) then
    tagSize + mdhLen + 32 else tagSize + mdhLen
  if packetData.length ≤ offset then .error (.invalidPacket "Invalid length")
  else P.decryptPayload keys.sessionKey (counterToNonce counter) (packetData.drop offset)

/-- So an established session decrypts, whether the keys of the epoch are its current or its pending
ones. -/
theorem decryptDatagram_eq (P : Primitives) {s : Session} {sid : SessionId} {epoch r : Bool}
    {c : Nat} {keys : SessionKeys} (hanswers : s.receiveState.Answers epoch r)
    (hkeys : s.receiveState.epochKeys epoch = some keys) (packetData : Bytes) :
    decryptDatagram P s ⟨sid, c, r, false⟩ packetData = epochDecrypt P keys epoch c packetData := by
  cases r with
  | false =>
      have hepoch : epoch = s.isRatcheted := hanswers
      have hcurrent : s.receiveState.epochKeys epoch = some s.keys := if_pos hepoch
      rw [hcurrent] at hkeys
      obtain rfl := Option.some.inj hkeys
      subst hepoch
      simp [decryptDatagram, epochDecrypt, payloadOffset, payloadKey]
  | true =>
      obtain ⟨rfl, hratcheted, -⟩ := hanswers
      have hratcheted : s.isRatcheted = false := hratcheted
      have hpending : s.ratchetedKeys = some keys := by
        rw [← hkeys]
        show _ = if true = s.isRatcheted then _ else _
        rw [hratcheted]
        rfl
      simp [decryptDatagram, epochDecrypt, payloadOffset, payloadKey, hpending]

end Aivpn
