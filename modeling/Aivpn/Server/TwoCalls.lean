import Aivpn.Lib.Runs
import Aivpn.Server.ReceiveState
import Aivpn.Server.Workers

/-!
# Two calls on one session

`handle_packet` takes the lock of a session four times: for the validation, the decryption, the
ratchet and the mark. `TwoCalls` lets two calls run their lock sections in any order, and
`Linearizable` says that such an interleaving has the effect of one of the two serial orders. Two
conditions are enough for that. `Undisturbed` lets the sections interleave as long as none takes away
what the other call has validated. `OneByOne` is about runs that are serial already, where a lookup may
also recover the counter: here the datagram of a call that comes second may still be one that the
first has received (`Solo.step`).
-/

set_option autoImplicit false

namespace Aivpn

open Aivpn.Lib

/-- One of two calls. -/
inductive Side where
  | first
  | second
deriving DecidableEq

/-- The other call. -/
def Side.other : Side → Side
  | first => second
  | second => first

theorem Side.other_ne (i : Side) : i.other ≠ i := by
  cases i with
  | first => exact fun h => by cases h
  | second => exact fun h => by cases h

@[simp] theorem Side.other_other (i : Side) : i.other.other = i := by
  cases i with
  | first => rfl
  | second => rfl

theorem Side.eq_or (i j : Side) : j = i ∨ j = i.other := by
  cases i with
  | first => cases j with
    | first => exact Or.inl rfl
    | second => exact Or.inr rfl
  | second => cases j with
    | first => exact Or.inr rfl
    | second => exact Or.inl rfl

/-- A call of `handle_packet` for a datagram of a session. Besides the datagram and the clock that
the call reads, the epoch and the counter for which the client has built the datagram. -/
structure SessionCall where
  packetData : Bytes
  clientAddr : SocketAddr
  env : Env
  epoch : Bool
  counter : Nat

/-- The tag of the datagram is the session's tag for its epoch and its counter, in the current time
window or a neighbour of it. -/
structure SessionCall.Genuine (P : Primitives) (s : Session) (call : SessionCall) : Prop where
  length : tagSize + 2 ≤ call.packetData.length
  tag : ∃ keys, s.receiveState.epochKeys call.epoch = some keys ∧
    ∃ w ∈ nearWindows call.env.timeWindow,
      P.generateResonanceTag keys.tagSecret call.counter w = readArray 8 0 call.packetData

/-- The lookup of the call finds no session. -/
def SessionCall.Unmatched (P : Primitives) (call : SessionCall) (g : Gateway) : Prop :=
  ∀ hit, (g.sessionManager.findSession P call.env (readArray 8 0 call.packetData)
    call.clientAddr.ip).1 ≠ .ok (some hit)

instance SessionCall.decidableUnmatched (P : Primitives) (call : SessionCall) (g : Gateway) :
    Decidable (call.Unmatched P g) :=
  match h : (g.sessionManager.findSession P call.env (readArray 8 0 call.packetData)
      call.clientAddr.ip).1 with
  | .ok (some hit) => .isFalse fun hnone => hnone hit h
  | .ok none => .isTrue fun hit hhit => by
      rw [h] at hhit
      cases hhit
  | .error e => .isTrue fun hit hhit => by
      rw [h] at hhit
      cases hhit

/-- What the lookup of the call finds, if it finds a session. -/
def SessionCall.hit (P : Primitives) (call : SessionCall) (g : Gateway) :
    Option (SessionId × Nat × Bool) :=
  match (g.sessionManager.findSession P call.env (readArray 8 0 call.packetData)
      call.clientAddr.ip).1 with
  | .ok hit => hit
  | .error _ => none

namespace Stage

/-- The next section is one of the four on a known session. -/
def onSession : Stage → Bool
  | lookup => true
  | decrypt _ => true
  | ratchet _ _ => true
  | mark _ _ => true
  | _ => false

/-- The call has validated its tag and still has to act on that. -/
def inFlight : Stage → Bool
  | decrypt _ => true
  | ratchet _ _ => true
  | mark _ _ => true
  | _ => false

/-- The call has yet to decrypt or to mark in the epoch of its tag. -/
def usesEpoch : Stage → Bool
  | decrypt _ => true
  | mark _ _ => true
  | _ => false

/-- The call has accepted its datagram for the session. -/
def accepts (sid : SessionId) : Stage → Bool
  | inner t _ => t.sessionId = sid
  | _ => false

/-- How many of the four sections are left at most. -/
def sectionsLeft : Stage → Nat
  | lookup => 4
  | decrypt _ => 3
  | ratchet _ _ => 2
  | mark _ _ => 1
  | _ => 0

theorem sectionsLeft_le (st : Stage) : st.sectionsLeft ≤ 4 := by
  cases st <;> simp [sectionsLeft]

theorem onSession_iff (st : Stage) : st.onSession = true ↔ 0 < st.sectionsLeft := by
  cases st <;> simp [onSession, sectionsLeft]

theorem onSession_cases {st : Stage} (h : st.onSession = true) :
    st = .lookup ∨ st.inFlight = true := by
  cases st with
  | lookup => exact Or.inl rfl
  | decrypt t => exact Or.inr rfl
  | ratchet t padded => exact Or.inr rfl
  | mark t padded => exact Or.inr rfl
  | _ => cases h

theorem onSession_of_inFlight {st : Stage} (h : st.inFlight = true) : st.onSession = true := by
  cases st with
  | decrypt t => rfl
  | ratchet t padded => rfl
  | mark t padded => rfl
  | _ => cases h

/-- A call that is through is not in flight. -/
theorem not_inFlight_of_done {st : Stage} (h : st.onSession = false) : st.inFlight = false := by
  cases hflight : st.inFlight with
  | false => rfl
  | true =>
      rw [onSession_of_inFlight hflight] at h
      cases h

end Stage

/-- The gateway with two calls on it. -/
structure TwoCalls where
  gateway : Gateway
  stage : Side → Stage

namespace TwoCalls

/-- The session of the given id. -/
def session (w : TwoCalls) (sid : SessionId) : Session := w.gateway.session sid

/-- No call has begun. -/
def start (g : Gateway) : TwoCalls := ⟨g, fun _ => .lookup⟩

section

variable (P : Primitives) (rng : Randomness) (cfg : GatewayConfig) (calls : Side → SessionCall)

/-- The next of the four lock sections of a call. A call that has accepted its datagram, has been
refused, or goes on as a handshake has none left. -/
def advance (w : TwoCalls) (i : Side) : TwoCalls :=
  if (w.stage i).onSession then
    let r := Gateway.advance P rng cfg (calls i).env (calls i).packetData (calls i).clientAddr
      (w.stage i) w.gateway
    ⟨r.2, Function.update w.stage i r.1⟩
  else w

/-- All sections of one call, with nothing in between. -/
def whole (w : TwoCalls) (i : Side) : TwoCalls :=
  runFrom (advance P rng cfg calls) w (List.replicate 4 i)

/-- One call after the other. -/
def serial (g : Gateway) (i : Side) : TwoCalls :=
  whole P rng cfg calls (whole P rng cfg calls (start g) i) i.other

/-- The interleaving `es` of the sections of two calls has the effect of one of the two serial
orders, two copies of one datagram are not both accepted, and a counter is marked in the epoch in
which it was validated. -/
structure Linearizable (sid : SessionId) (g : Gateway) (es : List Side) : Prop where
  serial : ∃ i, (∀ j, ((runFrom (advance P rng cfg calls) (start g) es).stage j).accepts sid =
      ((serial P rng cfg calls g i).stage j).accepts sid) ∧
    ((runFrom (advance P rng cfg calls) (start g) es).session sid).receiveState =
      ((serial P rng cfg calls g i).session sid).receiveState
  once : (calls .first).packetData = (calls .second).packetData →
    ∃ i, ((runFrom (advance P rng cfg calls) (start g) es).stage i).accepts sid = false
  epoch : Along (advance P rng cfg calls) (fun w i => ∀ t padded plaintext,
    w.stage i = .mark t padded → stripPadding padded = .ok plaintext →
      (w.session sid).isRatcheted = (calls i).epoch) (start g) es

/-- The next section of call `i` leaves standing what the other call has validated. A lookup finds a
tag that is receivable or finds none, and if the other call is in flight then, it would not have
found any before that; the ratchet is not completed while the other call has yet to decrypt or to
mark; and while the other call is in flight with a counter of the same epoch, neither that counter
is marked nor one more than 255 above it. -/
def Undisturbed (sid : SessionId) (g : Gateway) (w : TwoCalls) (i : Side) : Prop :=
  match w.stage i with
  | .lookup =>
      (∃ r, (w.session sid).receiveState.Receivable (calls i).epoch (calls i).counter r) ∨
      (calls i).Unmatched P w.gateway ∧
        ((w.stage i.other).inFlight = true → (calls i).Unmatched P g)
  | .ratchet _ _ =>
      (w.session sid).ratchetedKeys.isSome = true → (w.stage i.other).usesEpoch = false
  | .mark _ padded =>
      (stripPadding padded).isOk = true → (w.stage i.other).inFlight = true →
        (calls i.other).epoch = (calls i).epoch →
          (calls i.other).counter ≠ (calls i).counter ∧
            (calls i).counter ≤ (calls i.other).counter + 255
  | _ => True

/-- The calls come one after the other: none begins while the other one is in flight, and what its
lookup finds, in whatever way, is the counter that the client has given the datagram, in its epoch
and not accepted there before. -/
def OneByOne (sid : SessionId) (w : TwoCalls) (i : Side) : Prop :=
  match w.stage i with
  | .lookup => (w.stage i.other).inFlight = false ∧ ∀ hit ∈ (calls i).hit P w.gateway,
      ∃ r, hit = (sid, (calls i).counter, r) ∧
        (w.session sid).receiveState.Answers (calls i).epoch r ∧
        (r = false → (calls i).counter ∉ (w.session sid).accepted)
  | _ => True

instance decidableUndisturbed (sid : SessionId) (g : Gateway) (w : TwoCalls) (i : Side) :
    Decidable (Undisturbed P calls sid g w i) := by
  unfold Undisturbed
  split
  · infer_instance
  · infer_instance
  · infer_instance
  · infer_instance

instance decidableOneByOne (sid : SessionId) (w : TwoCalls) (i : Side) :
    Decidable (OneByOne P calls sid w i) := by
  unfold OneByOne
  split
  · infer_instance
  · infer_instance

end

/-! ## A call on its own -/

section

variable {P : Primitives} {rng : Randomness} {cfg : GatewayConfig} {calls : Side → SessionCall}

theorem advance_of_done {w : TwoCalls} {i : Side} (h : (w.stage i).onSession = false) :
    advance P rng cfg calls w i = w := by
  unfold advance
  rw [h]
  rfl

theorem advance_stage_other (w : TwoCalls) (i : Side) :
    (advance P rng cfg calls w i).stage i.other = w.stage i.other := by
  unfold advance
  split
  · exact Function.update_of_ne i.other_ne _ _
  · rfl

theorem advance_of_onSession {w : TwoCalls} {i : Side} (h : (w.stage i).onSession = true) :
    advance P rng cfg calls w i =
      ⟨(Gateway.advance P rng cfg (calls i).env (calls i).packetData (calls i).clientAddr
          (w.stage i) w.gateway).2,
        Function.update w.stage i (Gateway.advance P rng cfg (calls i).env (calls i).packetData
          (calls i).clientAddr (w.stage i) w.gateway).1⟩ := by
  unfold advance
  rw [h]
  rfl

/-- A section brings its call nearer to its end. -/
theorem sectionsLeft_gatewayAdvance (P : Primitives) (rng : Randomness) (cfg : GatewayConfig)
    (env : Env) (packetData : Bytes) (addr : SocketAddr)
    {st : Stage} (g : Gateway) (h : st.onSession = true) :
    (Gateway.advance P rng cfg env packetData addr st g).1.sectionsLeft < st.sectionsLeft := by
  cases st with
  | lookup =>
      simp only [Gateway.advance]
      split_ifs
      · exact Nat.zero_lt_succ _
      · split
        · exact Nat.zero_lt_succ _
        · exact Nat.lt_succ_self _
        · exact Nat.zero_lt_succ _
  | decrypt t =>
      simp only [Gateway.advance]
      split
      · exact Nat.zero_lt_succ _
      · split_ifs
        · exact Nat.lt_succ_self _
        · show 1 < 3
          omega
  | ratchet t padded => exact Nat.lt_succ_self _
  | mark t padded =>
      simp only [Gateway.advance]
      split
      · exact Nat.zero_lt_succ _
      · exact Nat.zero_lt_succ _
  | _ => cases h

theorem sectionsLeft_advance (w : TwoCalls) (i : Side) :
    ((advance P rng cfg calls w i).stage i).sectionsLeft ≤ (w.stage i).sectionsLeft - 1 := by
  cases h : (w.stage i).onSession with
  | false =>
      rw [advance_of_done h]
      have hnone : ¬ 0 < (w.stage i).sectionsLeft := by
        rw [← Stage.onSession_iff, h]
        exact Bool.false_ne_true
      omega
  | true =>
      rw [advance_of_onSession h]
      simp only [Function.update_self]
      have hlt := sectionsLeft_gatewayAdvance P rng cfg (calls i).env (calls i).packetData
        (calls i).clientAddr w.gateway h
      omega

theorem sectionsLeft_run (w : TwoCalls) (i : Side) (n : Nat) :
    ((runFrom (advance P rng cfg calls) w (List.replicate n i)).stage i).sectionsLeft ≤
      (w.stage i).sectionsLeft - n := by
  induction n generalizing w with
  | zero => exact Nat.le_refl _
  | succ n ih =>
      have hstep : ((advance P rng cfg calls w i).stage i).sectionsLeft ≤
          (w.stage i).sectionsLeft - 1 := sectionsLeft_advance w i
      have hrest := ih (advance P rng cfg calls w i)
      rw [List.replicate_succ, runFrom]
      omega

theorem run_stage_other (w : TwoCalls) (i : Side) (n : Nat) :
    (runFrom (advance P rng cfg calls) w (List.replicate n i)).stage i.other = w.stage i.other := by
  induction n generalizing w with
  | zero => rfl
  | succ n ih =>
      rw [List.replicate_succ, runFrom, ih]
      exact advance_stage_other w i

theorem run_of_done {w : TwoCalls} {i : Side} (h : (w.stage i).onSession = false) (n : Nat) :
    runFrom (advance P rng cfg calls) w (List.replicate n i) = w := by
  induction n with
  | zero => rfl
  | succ n ih =>
      rw [List.replicate_succ, runFrom, advance_of_done h]
      exact ih

/-- A call is through after its four sections. -/
theorem whole_done (w : TwoCalls) (i : Side) :
    ((whole P rng cfg calls w i).stage i).onSession = false := by
  have hleft : ((runFrom (advance P rng cfg calls) w (List.replicate 4 i)).stage i).sectionsLeft ≤
      (w.stage i).sectionsLeft - 4 := sectionsLeft_run w i 4
  have hle := (w.stage i).sectionsLeft_le
  unfold whole
  rw [← Bool.not_eq_true, Stage.onSession_iff]
  omega

theorem whole_stage_other (w : TwoCalls) (i : Side) :
    (whole P rng cfg calls w i).stage i.other = w.stage i.other := run_stage_other w i 4

/-- A call that is through after some sections has gone through all of them. -/
theorem run_eq_whole {w : TwoCalls} {i : Side} {n : Nat}
    (h : ((runFrom (advance P rng cfg calls) w (List.replicate n i)).stage i).onSession = false) :
    runFrom (advance P rng cfg calls) w (List.replicate n i) = whole P rng cfg calls w i := by
  have hfour : ((whole P rng cfg calls w i).stage i).onSession = false := whole_done w i
  unfold whole at hfour ⊢
  -- whichever of the two runs is the shorter one, the other adds nothing to it
  rcases Nat.le_total n 4 with hle | hle
  · obtain ⟨k, hk⟩ := Nat.exists_eq_add_of_le hle
    rw [hk, List.replicate_add, runFrom_append, run_of_done h]
  · obtain ⟨k, rfl⟩ := Nat.exists_eq_add_of_le hle
    rw [List.replicate_add, runFrom_append, run_of_done hfour]

end

/-! ## One call after the other -/

/-- The match that the lookup finds for a call. -/
def found (sid : SessionId) (call : SessionCall) (isRatchetedTag : Bool) : TagMatch :=
  ⟨sid, call.counter, isRatchetedTag, false⟩

section

variable {P : Primitives} {rng : Randomness} {cfg : GatewayConfig} {calls : Side → SessionCall}
  {sid : SessionId}

variable (P rng cfg calls) in
/-- One call has come to some section, or it is through and the other one has. -/
def InTurn (g : Gateway) (w : TwoCalls) : Prop :=
  ∃ i, (∃ n, w = runFrom (advance P rng cfg calls) (start g) (List.replicate n i)) ∨
    ∃ n, w = runFrom (advance P rng cfg calls) (whole P rng cfg calls (start g) i)
      (List.replicate n i.other)

theorem advance_run (w : TwoCalls) (i : Side) (n : Nat) :
    advance P rng cfg calls (runFrom (advance P rng cfg calls) w (List.replicate n i)) i =
      runFrom (advance P rng cfg calls) w (List.replicate (n + 1) i) := by
  rw [List.replicate_succ', runFrom_append]
  rfl

theorem InTurn.step {g : Gateway} {w : TwoCalls} {i : Side} (h : InTurn P rng cfg calls g w)
    (hi : w.stage i = .lookup → (w.stage i.other).inFlight = false) :
    InTurn P rng cfg calls g (advance P rng cfg calls w i) := by
  obtain ⟨j, ⟨n, rfl⟩ | ⟨n, rfl⟩⟩ := h
  · rcases j.eq_or i with rfl | rfl
    · exact ⟨i, Or.inl ⟨n + 1, advance_run _ i n⟩⟩
    · -- the other call begins, so that this one is through or has not begun
      have hflight := hi (run_stage_other (start g) j n)
      rw [Side.other_other] at hflight
      cases hon : ((runFrom (advance P rng cfg calls) (start g) (List.replicate n j)).stage
          j).onSession with
      | false =>
          rw [run_eq_whole hon]
          exact ⟨j, Or.inr ⟨1, rfl⟩⟩
      | true =>
          have hfirst := (Stage.onSession_cases hon).resolve_right (by simp [hflight])
          have hleft : ((runFrom (advance P rng cfg calls) (start g) (List.replicate n j)).stage
              j).sectionsLeft ≤ 4 - n := sectionsLeft_run (start g) j n
          rw [hfirst] at hleft
          have hfour : Stage.lookup.sectionsLeft = 4 := rfl
          obtain rfl : n = 0 := by omega
          exact ⟨j.other, Or.inl ⟨1, rfl⟩⟩
  · rcases j.eq_or i with rfl | rfl
    · -- the call that came first is through
      have hstage : (runFrom (advance P rng cfg calls) (whole P rng cfg calls (start g) i)
          (List.replicate n i.other)).stage i = (whole P rng cfg calls (start g) i).stage i := by
        have hother := @run_stage_other P rng cfg calls (whole P rng cfg calls (start g) i) i.other n
        rwa [Side.other_other] at hother
      rw [advance_of_done (by rw [hstage]; exact whole_done _ _)]
      exact ⟨i, Or.inr ⟨n, rfl⟩⟩
    · exact ⟨j, Or.inr ⟨n + 1, advance_run _ j.other n⟩⟩

/-- When both calls are through, the run was one of the two serial ones. -/
theorem InTurn.eq_serial {g : Gateway} {w : TwoCalls} (h : InTurn P rng cfg calls g w)
    (hdone : ∀ i, (w.stage i).onSession = false) : ∃ i, w = serial P rng cfg calls g i := by
  obtain ⟨i, ⟨n, rfl⟩ | ⟨n, rfl⟩⟩ := h
  · have hother := hdone i.other
    rw [run_stage_other] at hother
    cases hother
  · exact ⟨i, run_eq_whole (hdone i.other)⟩

theorem keeps_sessionManager_recordTraffic (flush : Option (String × Nat)) :
    Action.Keeps Gateway.sessionManager (Gateway.recordTraffic flush) := by
  cases flush with
  | none => exact Action.keeps_pure _
  | some flush =>
      unfold Gateway.recordTraffic
      refine Action.Keeps.bind (Action.keeps_gets _) fun clientDb => ?_
      split_ifs
      · exact fun _ => rfl
      · exact Action.keeps_pure _

theorem markReceived_sessionManager (P : Primitives) (env : Env) (t : TagMatch) (addr : SocketAddr)
    (len : Nat) (g : Gateway) : (Gateway.markReceived P env t addr len g).2.sessionManager =
      (g.sessionManager.receive P env t addr len).2 :=
  keeps_sessionManager_recordTraffic (g.sessionManager.receive P env t addr len).1
    { g with sessionManager := (g.sessionManager.receive P env t addr len).2 }

/-- What the lookup of a call found still stands at its later sections. -/
def Stands (sid : SessionId) (call : SessionCall) (g : Gateway) : Stage → Prop
  | .decrypt t => ∃ r, t = found sid call r ∧ sid ∈ g.sessionManager.sessions ∧
      (g.session sid).receiveState.Answers call.epoch r
  | .ratchet t _ => t = found sid call true ∧ sid ∈ g.sessionManager.sessions ∧
      (g.session sid).receiveState.Answers call.epoch true
  | .mark t _ => (∃ r, t = found sid call r) ∧ (g.session sid).isRatcheted = call.epoch
  | _ => True

theorem stands_of_not_inFlight {call : SessionCall} {g : Gateway} {st : Stage}
    (h : st.inFlight = false) : Stands sid call g st := by
  cases st with
  | decrypt t => cases h
  | ratchet t padded => cases h
  | mark t padded => cases h
  | _ => trivial

/-- One call at a time is in flight, what it found stands, and what it accepts is accepted for the
call that comes after it. Of two copies of one datagram not both are accepted. -/
structure Solo (calls : Side → SessionCall) (sid : SessionId) (w : TwoCalls) : Prop where
  alone : ∀ i, (w.stage i).inFlight = true → (w.stage i.other).inFlight = false
  stands : ∀ i, Stands sid (calls i) w.gateway (w.stage i)
  kept : ∀ i, (w.stage i).accepts sid = true → w.stage i.other = .lookup →
    (calls i).counter ∈ (w.session sid).accepted ∧ (w.session sid).isRatcheted = (calls i).epoch
  once : (calls .first).packetData = (calls .second).packetData → ∀ i,
    (w.stage i).accepts sid = true →
      (w.stage i.other).accepts sid = false ∧ (w.stage i.other).inFlight = false

theorem solo_start (g : Gateway) : Solo calls sid (start g) where
  alone _ h := by cases h
  stands _ := trivial
  kept _ h := by cases h
  once _ _ h := by cases h

/-- A section of one call beside which the other one is not in flight. -/
theorem solo_of_section {w : TwoCalls} {i : Side} {g : Gateway} {st : Stage}
    (hother : (w.stage i.other).inFlight = false) (hst : Stands sid (calls i) g st)
    (hbegun : st ≠ .lookup)
    (hkept : st.accepts sid = true →
      (calls i).counter ∈ (g.session sid).accepted ∧ (g.session sid).isRatcheted = (calls i).epoch)
    (honce : (calls .first).packetData = (calls .second).packetData →
      (w.stage i.other).accepts sid = true → st.accepts sid = false ∧ st.inFlight = false) :
    Solo calls sid ⟨g, Function.update w.stage i st⟩ where
  alone j hj := by
    rcases i.eq_or j with rfl | rfl
    · simp only [Function.update_of_ne j.other_ne]
      exact hother
    · simp only [Function.update_of_ne i.other_ne] at hj
      rw [hother] at hj
      cases hj
  stands j := by
    rcases i.eq_or j with rfl | rfl
    · simp only [Function.update_self]
      exact hst
    · simp only [Function.update_of_ne i.other_ne]
      exact stands_of_not_inFlight hother
  kept j hj hlookup := by
    rcases i.eq_or j with rfl | rfl
    · simp only [Function.update_self] at hj
      exact hkept hj
    · simp only [Side.other_other, Function.update_self] at hlookup
      exact absurd hlookup hbegun
  once hsame j hj := by
    rcases i.eq_or j with rfl | rfl
    · simp only [Function.update_self, Function.update_of_ne j.other_ne] at hj ⊢
      refine ⟨?_, hother⟩
      by_contra haccepts
      rw [(honce hsame (by simpa using haccepts)).1] at hj
      cases hj
    · simp only [Function.update_of_ne i.other_ne] at hj
      simp only [Side.other_other, Function.update_self]
      exact honce hsame hj

/-- A section of a call in flight. -/
theorem Solo.next {w : TwoCalls} {i : Side} (h : Solo calls sid w)
    (hi : (w.stage i).inFlight = true) {g : Gateway} {st : Stage} (hst : Stands sid (calls i) g st)
    (hbegun : st ≠ .lookup)
    (hkept : st.accepts sid = true →
      (calls i).counter ∈ (g.session sid).accepted ∧ (g.session sid).isRatcheted = (calls i).epoch) :
    Solo calls sid ⟨g, Function.update w.stage i st⟩ := by
  refine solo_of_section (h.alone i hi) hst hbegun hkept fun hsame haccepts => ?_
  -- behind an accepted copy this call would not be in flight
  have hnot := (h.once hsame i.other haccepts).2
  rw [Side.other_other, hi] at hnot
  cases hnot

/-- The lookup keeps what decides with which flag the session answers. -/
theorem findSession_epoch (env : Env) (m : SessionManager) (tag : Tag) (ip : IpAddr) :
    ((m.findSession P env tag ip).2.heap sid).isRatcheted = (m.heap sid).isRatcheted ∧
      ((m.findSession P env tag ip).2.heap sid).ratchetedKeys = (m.heap sid).ratchetedKeys := by
  have hrefresh : ∀ (tw : Nat) (s : Session),
      (((s.updateTagWindow P tw).updateRatchetedTagWindow P tw).isRatcheted,
        ((s.updateTagWindow P tw).updateRatchetedTagWindow P tw).ratchetedKeys) =
      (s.isRatcheted, s.ratchetedKeys) := fun tw s =>
    congrArg (fun x : ReceiveState => (x.isRatcheted, x.ratchetedKeys))
      (Session.refresh_receiveState tw s)
  have hpair := SessionManager.findSession_heap P
    (fun s => (s.isRatcheted, s.ratchetedKeys)) hrefresh
    (fun tw c s => by simp [Session.recoverAt, Session.updateTagWindow]) env m tag ip sid
  exact Prod.mk.inj hpair

theorem Solo.lookup {w : TwoCalls} {i : Side} (h : Solo calls sid w) (hst : w.stage i = .lookup)
    (hu : OneByOne P calls sid w i)
    (hcopies : (calls .first).packetData = (calls .second).packetData → ∀ i,
      (calls i.other).epoch = (calls i).epoch ∧ (calls i.other).counter = (calls i).counter) :
    Solo calls sid (advance P rng cfg calls w i) := by
  unfold OneByOne at hu
  rw [hst] at hu
  obtain ⟨hother, hhit⟩ := hu
  rw [advance_of_onSession (by rw [hst]; rfl), hst]
  simp only [Gateway.advance]
  split_ifs
  · exact solo_of_section hother trivial (fun h => by cases h) (fun h => by cases h)
      fun _ _ => ⟨rfl, rfl⟩
  unfold SessionCall.hit at hhit
  have hepoch := @findSession_epoch P sid (calls i).env w.gateway.sessionManager
    (readArray 8 0 (calls i).packetData) (calls i).clientAddr.ip
  have hsessions := (w.gateway.sessionManager.findSession_map P (calls i).env
    (readArray 8 0 (calls i).packetData) (calls i).clientAddr.ip).1
  rcases hfs : w.gateway.sessionManager.findSession P (calls i).env
    (readArray 8 0 (calls i).packetData) (calls i).clientAddr.ip with ⟨e | _ | hit, m⟩
  · exact solo_of_section hother trivial (fun h => by cases h) (fun h => by cases h)
      fun _ _ => ⟨rfl, rfl⟩
  · exact solo_of_section hother trivial (fun h => by cases h) (fun h => by cases h)
      fun _ _ => ⟨rfl, rfl⟩
  · rw [hfs] at hhit hepoch hsessions
    obtain ⟨r, rfl, hanswers, hnew⟩ := hhit hit rfl
    refine solo_of_section hother ⟨r, rfl, ?_, ?_⟩ (fun h => by cases h) (fun h => by cases h)
      fun hsame haccepts => ?_
    · exact hsessions.symm ▸ SessionManager.findSession_mem P hfs
    · show ReceiveState.Answers ⟨_, (m.heap sid).ratchetedKeys, (m.heap sid).isRatcheted, _, _⟩ _ _
      rw [hepoch.1, hepoch.2]
      exact hanswers
    · -- the copy that came first was accepted with the counter that this one is found with
      exfalso
      obtain ⟨hkept, hratcheted⟩ := h.kept i.other haccepts (by rw [Side.other_other]; exact hst)
      obtain ⟨hsameEpoch, hsameCounter⟩ := hcopies hsame i
      rw [hsameCounter] at hkept
      rw [hsameEpoch] at hratcheted
      cases r with
      | false => exact hnew rfl hkept
      | true =>
          have hinitial : (w.session sid).isRatcheted = false := hanswers.2.1
          rw [← hratcheted, hinitial] at hanswers
          cases hanswers.1

theorem Solo.decrypt {w : TwoCalls} {i : Side} {t : TagMatch} (h : Solo calls sid w)
    (hst : w.stage i = .decrypt t) : Solo calls sid (advance P rng cfg calls w i) := by
  have hflight : (w.stage i).inFlight = true := by
    rw [hst]
    rfl
  have hstands := h.stands i
  rw [hst] at hstands
  obtain ⟨r, rfl, hlive, hanswers⟩ := hstands
  rw [advance_of_onSession (Stage.onSession_of_inFlight hflight), hst]
  simp only [Gateway.advance]
  split
  · exact h.next hflight trivial (fun h => by cases h) fun h => by cases h
  · cases r with
    | false =>
        exact h.next hflight ⟨⟨false, rfl⟩, Eq.symm hanswers⟩ (fun h => by cases h)
          fun h => by cases h
    | true =>
        exact h.next hflight ⟨rfl, hlive, hanswers⟩ (fun h => by cases h) fun h => by cases h

theorem Solo.ratchet {w : TwoCalls} {i : Side} {t : TagMatch} {padded : Bytes}
    (h : Solo calls sid w) (hst : w.stage i = .ratchet t padded) :
    Solo calls sid (advance P rng cfg calls w i) := by
  have hflight : (w.stage i).inFlight = true := by
    rw [hst]
    rfl
  have hstands := h.stands i
  rw [hst] at hstands
  obtain ⟨rfl, hlive, hepoch, -, hpending⟩ := hstands
  obtain ⟨keys, hkeys⟩ := Option.isSome_iff_exists.1 hpending
  rw [advance_of_onSession (Stage.onSession_of_inFlight hflight), hst]
  simp only [Gateway.advance]
  refine h.next hflight ⟨⟨true, rfl⟩, ?_⟩ (fun h => by cases h) fun h => by cases h
  show (((w.gateway.sessionManager.completeSessionRatchet sid).refreshSessionTags sid).heap
    sid).isRatcheted = _
  rw [SessionManager.ratchetSession_heap hlive, Function.update_self, hepoch]
  refine (congrArg ReceiveState.isRatcheted (Session.completeRatchet_receiveState _)).trans ?_
  rw [← Gateway.session_eq_heap, ReceiveState.ratchet_of_some hkeys]

theorem Solo.mark {w : TwoCalls} {i : Side} {t : TagMatch} {padded : Bytes}
    (h : Solo calls sid w) (hst : w.stage i = .mark t padded) :
    Solo calls sid (advance P rng cfg calls w i) := by
  have hflight : (w.stage i).inFlight = true := by
    rw [hst]
    rfl
  have hstands := h.stands i
  rw [hst] at hstands
  obtain ⟨⟨r, rfl⟩, hepoch⟩ := hstands
  rw [advance_of_onSession (Stage.onSession_of_inFlight hflight), hst]
  simp only [Gateway.advance]
  split
  · exact h.next hflight trivial (fun h => by cases h) fun h => by cases h
  · refine h.next hflight trivial (fun h => by cases h) fun _ => ?_
    have hcell : ((Gateway.markReceived P (calls i).env (found sid (calls i) r)
        (calls i).clientAddr (calls i).packetData.length w.gateway).2.session sid) =
        ((w.session sid).receive P (calls i).env (calls i).counter false (calls i).clientAddr
          (calls i).packetData.length).1 := by
      rw [Gateway.session_eq_heap, markReceived_sessionManager, SessionManager.receive_heap]
      exact Function.update_self sid _ _
    rw [hcell]
    constructor
    · rw [(Session.receive_receiveState P _ _ _ _ _ _).2.1]
      exact List.mem_cons_self
    · refine (congrArg ReceiveState.isRatcheted (Session.receiveState_receive _ _ _ _ _ _)).trans ?_
      exact (ReceiveState.mark_keys _ _).2.2.trans hepoch

/-- The step lemma: a section of calls that come one after the other. -/
theorem Solo.step {w : TwoCalls} {i : Side} (h : Solo calls sid w) (hu : OneByOne P calls sid w i)
    (hcopies : (calls .first).packetData = (calls .second).packetData → ∀ i,
      (calls i.other).epoch = (calls i).epoch ∧ (calls i.other).counter = (calls i).counter) :
    Solo calls sid (advance P rng cfg calls w i) := by
  cases hst : w.stage i with
  | lookup => exact h.lookup hst hu hcopies
  | decrypt t => exact h.decrypt hst
  | ratchet t padded => exact h.ratchet hst
  | mark t padded => exact h.mark hst
  | _ =>
      rw [advance_of_done (by rw [hst]; rfl)]
      exact h

/-- A run of two calls one after the other is a serial one. -/
theorem linearizable_of_oneByOne {g : Gateway} {es : List Side}
    (hu : Along (advance P rng cfg calls) (OneByOne P calls sid) (start g) es)
    (hdone : ∀ i, ((runFrom (advance P rng cfg calls) (start g) es).stage i).onSession = false)
    (hcopies : (calls .first).packetData = (calls .second).packetData → ∀ i,
      (calls i.other).epoch = (calls i).epoch ∧ (calls i.other).counter = (calls i).counter) :
    Linearizable P rng cfg calls sid g es := by
  have hstep : ∀ w i, Solo calls sid w → OneByOne P calls sid w i →
      Solo calls sid (advance P rng cfg calls w i) := fun _ _ h hi => h.step hi hcopies
  have hturn : InTurn P rng cfg calls g (runFrom (advance P rng cfg calls) (start g) es) := by
    refine runFrom_invariant_of_along (fun w i h hi => h.step fun hst => ?_)
      ⟨.first, Or.inl ⟨0, rfl⟩⟩ hu
    unfold OneByOne at hi
    rw [hst] at hi
    exact hi.1
  refine ⟨?_, fun hsame => ?_, ?_⟩
  · obtain ⟨i, hserial⟩ := hturn.eq_serial hdone
    exact ⟨i, fun j => by rw [hserial], by rw [hserial]⟩
  · have hsolo := runFrom_invariant_of_along hstep (solo_start g) hu
    cases hfirst : ((runFrom (advance P rng cfg calls) (start g) es).stage .first).accepts sid with
    | false => exact ⟨.first, hfirst⟩
    | true => exact ⟨.second, (hsolo.once hsame .first hfirst).1⟩
  · refine Along.imp_of_invariant hstep (fun w i h _ t padded plaintext hst _ => ?_)
      (solo_start g) hu
    have hstands := h.stands i
    rw [hst] at hstands
    exact hstands.2

end

end TwoCalls

end Aivpn
