import Aivpn.Server.TwoCalls

/-!
# Two calls on one session have a serial order

Between two sections of one call the other may mark the same counter or complete the ratchet, and
what the first has validated no longer holds: two copies of one datagram are both accepted
(`copies_both_accepted`), and a counter of the initial keys is marked among those of the ratcheted
ones (`ratchet_between_sections`). In every interleaving whose steps leave the other call undisturbed
the result is that of one of the two serial orders: a call takes effect at its last section, so that
the order is that of the marks (`Simulates`).
-/

set_option autoImplicit false

namespace Aivpn

open Aivpn.Lib

namespace TwoCalls

/-! ## What one section does -/

section

variable {P : Primitives} (rng : Randomness) (cfg : GatewayConfig) {calls : Side → SessionCall}
  {W : Set Nat} {top : Nat} {g : Gateway} {sid : SessionId}

/-- What the two calls may rely on: the state in which they begin, and datagrams of the session. -/
structure Setting (P : Primitives) (W : Set Nat) (top : Nat) (g : Gateway) (sid : SessionId)
    (calls : Side → SessionCall) : Prop where
  tagInv : g.sessionManager.TagInv
  sound : ∀ sid, (g.session sid).CacheSound P W
  secrets : g.sessionManager.DistinctSecrets
  tags : P.CollisionFree (g.sessionManager.triplesUpTo W top)
  live : sid ∈ g.sessionManager.sessions
  genuine : ∀ i, (calls i).Genuine P (g.session sid)
  near : ∀ i, ∀ w ∈ nearWindows (calls i).env.timeWindow, w ∈ W
  counters : ∀ i, (calls i).counter ≤ top

/-- The keys of the epoch for which the datagram of a call was built. -/
def callKeys (g : Gateway) (sid : SessionId) (call : SessionCall) : Option SessionKeys :=
  (g.session sid).receiveState.epochKeys call.epoch

/-- What the datagram of a call decrypts to. -/
def opened (P : Primitives) (keys : SessionKeys) (call : SessionCall) : Except Error Bytes :=
  epochDecrypt P keys call.epoch call.counter call.packetData

/-- A section of call `i` that leads to the stage `st` and to the receive state `x`. -/
structure Moves (P : Primitives) (W : Set Nat) (top : Nat) (g : Gateway) (sid : SessionId)
    (w w' : TwoCalls) (i : Side) (st : Stage) (x : ReceiveState) : Prop where
  stage : w'.stage = Function.update w.stage i st
  state : (w'.session sid).receiveState = x
  continues : SessionManager.Continues P W top g.sessionManager w'.gateway.sessionManager

theorem Moves.stage_self {w w' : TwoCalls} {i : Side} {st : Stage} {x : ReceiveState}
    (h : Moves P W top g sid w w' i st x) : w'.stage i = st := by
  rw [h.stage, Function.update_self]

theorem Moves.stage_other {w w' : TwoCalls} {i : Side} {st : Stage} {x : ReceiveState}
    (h : Moves P W top g sid w w' i st x) : w'.stage i.other = w.stage i.other := by
  rw [h.stage, Function.update_of_ne i.other_ne]

/-- Two sections of one call, one after the other. -/
theorem Moves.trans {w w' w'' : TwoCalls} {i : Side} {st st' : Stage} {x x' : ReceiveState}
    (h : Moves P W top g sid w w' i st x) (h' : Moves P W top g sid w' w'' i st' x') :
    Moves P W top g sid w w'' i st' x' where
  stage := by rw [h'.stage, h.stage, Function.update_idem]
  state := h'.state
  continues := h'.continues

theorem moves_lookup (hs : Setting P W top g sid calls) {w : TwoCalls} {i : Side} {r : Bool}
    (hc : SessionManager.Continues P W top g.sessionManager w.gateway.sessionManager)
    (hst : w.stage i = .lookup)
    (hr : (w.session sid).receiveState.Receivable (calls i).epoch (calls i).counter r) :
    Moves P W top g sid w (advance P rng cfg calls w i) i (.decrypt (found sid (calls i) r))
      (w.session sid).receiveState := by
  obtain ⟨hlength, keys, hkeys, win, hwin, htag⟩ := hs.genuine i
  have hlive : sid ∈ w.gateway.sessionManager.sessions := by
    rw [hc.sessions]
    exact hs.live
  obtain ⟨m, hfs, hcontinues, hsame⟩ := hc.findSession hs.secrets hs.tags (hs.near i) hlive hr hkeys
    hwin htag (calls i).clientAddr.ip
  have hshort : ¬ (calls i).packetData.length < tagSize + 2 := Nat.not_lt.2 hlength
  rw [advance_of_onSession (by rw [hst]; rfl), hst]
  simp only [Gateway.advance, if_neg hshort, hfs]
  exact ⟨rfl, hsame sid, hcontinues⟩

/-- A lookup that finds no session ends the call, as far as the session is concerned. -/
theorem moves_refused (hs : Setting P W top g sid calls) {w : TwoCalls} {i : Side}
    (hc : SessionManager.Continues P W top g.sessionManager w.gateway.sessionManager)
    (hst : w.stage i = .lookup)
    (hrefused : (calls i).Unmatched P w.gateway) :
    ∃ st : Stage, st.onSession = false ∧ st.accepts sid = false ∧
      Moves P W top g sid w (advance P rng cfg calls w i) i st (w.session sid).receiveState := by
  have hshort : ¬ (calls i).packetData.length < tagSize + 2 := Nat.not_lt.2 (hs.genuine i).length
  obtain ⟨hcontinues, hsame⟩ :=
    hc.findSession_refused (hs.near i _ List.mem_cons_self) hrefused
  rw [advance_of_onSession (by rw [hst]; rfl), hst]
  simp only [Gateway.advance, if_neg hshort]
  unfold SessionCall.Unmatched at hrefused
  rcases hfs : w.gateway.sessionManager.findSession P (calls i).env
    (readArray 8 0 (calls i).packetData) (calls i).clientAddr.ip with ⟨e | _ | hit, m⟩
  · rw [hfs] at hcontinues hsame
    exact ⟨.finished (err e), rfl, rfl, rfl, hsame sid, hcontinues⟩
  · rw [hfs] at hcontinues hsame
    exact ⟨.unknownTag, rfl, rfl, rfl, hsame sid, hcontinues⟩
  · rw [hfs] at hrefused
    exact absurd rfl (hrefused hit)

theorem moves_decrypt {w : TwoCalls} {i : Side} {r : Bool} {keys : SessionKeys}
    (hc : SessionManager.Continues P W top g.sessionManager w.gateway.sessionManager)
    (hst : w.stage i = .decrypt (found sid (calls i) r))
    (hanswers : (w.session sid).receiveState.Answers (calls i).epoch r)
    (hkeys : (w.session sid).receiveState.epochKeys (calls i).epoch = some keys) :
    Moves P W top g sid w (advance P rng cfg calls w i) i
      (match opened P keys (calls i) with
        | .error e => .finished (err e)
        | .ok padded => if r then .ratchet (found sid (calls i) r) padded
            else .mark (found sid (calls i) r) padded)
      (w.session sid).receiveState := by
  have hdec : decryptDatagram P (w.gateway.session sid) (found sid (calls i) r)
      (calls i).packetData = opened P keys (calls i) :=
    decryptDatagram_eq P hanswers hkeys (calls i).packetData
  rw [advance_of_onSession (by rw [hst]; rfl), hst]
  simp only [Gateway.advance]
  rw [show (found sid (calls i) r).sessionId = sid from rfl, hdec]
  cases opened P keys (calls i) with
  | error e => exact ⟨rfl, rfl, hc⟩
  | ok padded => exact ⟨rfl, rfl, hc⟩

theorem moves_ratchet (hs : Setting P W top g sid calls) {w : TwoCalls} {i : Side} {r : Bool}
    {padded : Bytes}
    (hc : SessionManager.Continues P W top g.sessionManager w.gateway.sessionManager)
    (hst : w.stage i = .ratchet (found sid (calls i) r) padded) :
    Moves P W top g sid w (advance P rng cfg calls w i) i (.mark (found sid (calls i) r) padded)
      (w.session sid).receiveState.ratchet := by
  have hlive : sid ∈ w.gateway.sessionManager.sessions := by
    rw [hc.sessions]
    exact hs.live
  have hcell : (((w.gateway.sessionManager.completeSessionRatchet sid).refreshSessionTags sid).heap
      sid).receiveState = (w.session sid).receiveState.ratchet := by
    rw [SessionManager.ratchetSession_heap hlive, Function.update_self]
    exact Session.completeRatchet_receiveState _
  rw [advance_of_onSession (by rw [hst]; rfl), hst]
  simp only [Gateway.advance]
  exact ⟨rfl, hcell, hc.ratchet hlive⟩

/-- Where the last section of a call leads from the receive state `x`, and what it leaves. -/
def closing (sid : SessionId) (call : SessionCall) (isRatchetedTag : Bool) (x : ReceiveState)
    (padded : Bytes) : Stage × ReceiveState :=
  match stripPadding padded with
  | .error e => (.finished (err e), x)
  | .ok plaintext => (.inner (found sid call isRatchetedTag) plaintext, x.mark call.counter)

theorem closing_done (sid : SessionId) (call : SessionCall) (r : Bool) (x : ReceiveState)
    (padded : Bytes) : (closing sid call r x padded).1.onSession = false := by
  unfold closing
  split <;> rfl

/-- The flag of the match makes no difference any more. -/
theorem closing_flag (sid : SessionId) (call : SessionCall) (r r' : Bool) (x : ReceiveState)
    (padded : Bytes) :
    (closing sid call r x padded).1.accepts sid = (closing sid call r' x padded).1.accepts sid ∧
      (closing sid call r x padded).2 = (closing sid call r' x padded).2 := by
  unfold closing
  split
  · exact ⟨rfl, rfl⟩
  · exact ⟨rfl, rfl⟩

theorem moves_mark (hs : Setting P W top g sid calls) {w : TwoCalls} {i : Side} {r : Bool}
    {padded : Bytes}
    (hc : SessionManager.Continues P W top g.sessionManager w.gateway.sessionManager)
    (hst : w.stage i = .mark (found sid (calls i) r) padded) :
    Moves P W top g sid w (advance P rng cfg calls w i) i
      (closing sid (calls i) r (w.session sid).receiveState padded).1
      (closing sid (calls i) r (w.session sid).receiveState padded).2 := by
  rw [advance_of_onSession (by rw [hst]; rfl), hst]
  unfold closing
  simp only [Gateway.advance]
  cases stripPadding padded with
  | error e => exact ⟨rfl, rfl, hc⟩
  | ok plaintext =>
      have hm := markReceived_sessionManager P (calls i).env (found sid (calls i) r)
        (calls i).clientAddr (calls i).packetData.length w.gateway
      refine ⟨rfl, ?_, ?_⟩
      · show ((Gateway.markReceived P _ _ _ _ _).2.sessionManager.heap sid).receiveState = _
        rw [hm, SessionManager.receive_heap]
        exact (congrArg Session.receiveState (Function.update_self sid _ _)).trans
          (Session.receiveState_receive _ _ _ _ _ _)
      · show SessionManager.Continues P W top _ (Gateway.markReceived P _ _ _ _ _).2.sessionManager
        rw [hm]
        exact hc.receive (hs.near i _ List.mem_cons_self) _ (hs.counters i) _ _

/-! ## What a whole call does -/

/-- Where a call ends that finds the session in the receive state `x`, and what it leaves. -/
def verdict (sid : SessionId) (call : SessionCall) (isRatchetedTag : Bool) (x : ReceiveState) :
    Except Error Bytes → Stage × ReceiveState
  | .error e => (.finished (err e), x)
  | .ok padded => closing sid call isRatchetedTag (if isRatchetedTag then x.ratchet else x) padded

theorem moves_whole (hs : Setting P W top g sid calls) {w : TwoCalls} {i : Side} {r : Bool}
    {keys : SessionKeys}
    (hc : SessionManager.Continues P W top g.sessionManager w.gateway.sessionManager)
    (hst : w.stage i = .lookup)
    (hr : (w.session sid).receiveState.Receivable (calls i).epoch (calls i).counter r)
    (hkeys : callKeys g sid (calls i) = some keys) :
    Moves P W top g sid w (whole P rng cfg calls w i) i
      (verdict sid (calls i) r (w.session sid).receiveState (opened P keys (calls i))).1
      (verdict sid (calls i) r (w.session sid).receiveState (opened P keys (calls i))).2 := by
  have hlookup := moves_lookup rng cfg hs hc hst hr
  -- the session has the keys of the epoch, or it would not know the tag
  obtain ⟨keys', hkeys', -⟩ := hr.epochKeys
  have hsame : callKeys g sid (calls i) = some keys' := hc.keys sid _ keys' hkeys'
  rw [hkeys] at hsame
  obtain rfl := Option.some.inj hsame
  have hanswers : ((advance P rng cfg calls w i).session sid).receiveState.Answers (calls i).epoch
      r := by
    rw [hlookup.state]
    exact hr.1
  have hkeys'' : ((advance P rng cfg calls w i).session sid).receiveState.epochKeys
      (calls i).epoch = some keys := by
    rw [hlookup.state]
    exact hkeys'
  have hdecrypt := moves_decrypt rng cfg hlookup.continues hlookup.stage_self hanswers hkeys''
  rw [hlookup.state] at hdecrypt
  have htwo := hlookup.trans hdecrypt
  unfold whole
  simp only [List.replicate_succ, List.replicate_zero, runFrom]
  generalize advance P rng cfg calls (advance P rng cfg calls w i) i = w₂ at htwo ⊢
  cases hopened : opened P keys (calls i) with
  | error e =>
      rw [hopened] at htwo
      have hdone : (w₂.stage i).onSession = false := by
        rw [htwo.stage_self]
        rfl
      rw [advance_of_done hdone, advance_of_done hdone]
      exact htwo
  | ok padded =>
      rw [hopened] at htwo
      cases r with
      | false =>
          -- without a ratchet the third section is the last
          have hmark := moves_mark rng cfg hs htwo.continues htwo.stage_self
          rw [htwo.state] at hmark
          have hthree := htwo.trans hmark
          rw [advance_of_done (w := advance P rng cfg calls w₂ i)
            (by rw [hthree.stage_self]; exact closing_done _ _ _ _ _)]
          exact hthree
      | true =>
          have hratchet := moves_ratchet rng cfg hs htwo.continues
            htwo.stage_self
          rw [htwo.state] at hratchet
          have hthree := htwo.trans hratchet
          have hmark := moves_mark rng cfg hs hthree.continues hthree.stage_self
          rw [hthree.state] at hmark
          exact hthree.trans hmark

/-! ## The interleaving and its serial order -/

variable {rng} {cfg}

/-- The datagram of the call decrypts to `padded` under the keys of its epoch. -/
def Opens (P : Primitives) (g : Gateway) (sid : SessionId) (call : SessionCall) (padded : Bytes) :
    Prop :=
  ∃ keys, callKeys g sid call = some keys ∧ opened P keys call = .ok padded

/-- What a call has validated still stands in the receive state `x`. -/
def Held (P : Primitives) (g : Gateway) (sid : SessionId) (x : ReceiveState) (call : SessionCall) :
    Stage → Prop
  | .decrypt t => ∃ r, t = found sid call r ∧ x.Receivable call.epoch call.counter r
  | .ratchet t padded => t = found sid call true ∧ call.epoch = true ∧
      (∃ r, x.Receivable call.epoch call.counter r) ∧ Opens P g sid call padded
  | .mark t padded => (∃ r, t = found sid call r) ∧
      x.Receivable call.epoch call.counter false ∧ Opens P g sid call padded
  | _ => True

theorem held_of_not_inFlight {x : ReceiveState} {call : SessionCall} {st : Stage}
    (h : st.inFlight = false) : Held P g sid x call st := by
  cases st with
  | decrypt t => cases h
  | ratchet t padded => cases h
  | mark t padded => cases h
  | _ => trivial

/-- A call that is waiting for its ratchet section or its mark has completed the ratchet in `w` that
it has not completed in `s`, where it has not begun. -/
def Ahead (calls : Side → SessionCall) (sid : SessionId) (stage : Side → Stage)
    (x y : ReceiveState) : Prop :=
  y.ratchetedKeys.isSome = true ∧ x = y.ratchet ∧
    ∃ i padded, stage i = .mark (found sid (calls i) true) padded

/-- The interleaving has come to `w` and the serial run, in which a call runs as a whole where it
ends in the interleaving, to `s`. -/
structure Simulates (P : Primitives) (rng : Randomness) (cfg : GatewayConfig)
    (calls : Side → SessionCall) (W : Set Nat) (top : Nat) (g : Gateway) (sid : SessionId)
    (w s : TwoCalls) : Prop where
  continues : SessionManager.Continues P W top g.sessionManager w.gateway.sessionManager
  continuesSerial : SessionManager.Continues P W top g.sessionManager s.gateway.sessionManager
  held : ∀ i, Held P g sid (w.session sid).receiveState (calls i) (w.stage i)
  state : (w.session sid).receiveState = (s.session sid).receiveState ∨
    Ahead calls sid w.stage (w.session sid).receiveState (s.session sid).receiveState
  waiting : ∀ i, (w.stage i).onSession = true → s.stage i = .lookup
  ended : ∀ i, (w.stage i).onSession = false →
    (s.stage i).onSession = false ∧ (s.stage i).accepts sid = (w.stage i).accepts sid
  fresh : ∀ i, w.stage i = .lookup →
    ∃ n, w = runFrom (advance P rng cfg calls) (start g) (List.replicate n i.other)
  serial : s = start g ∨ ∃ i, s = whole P rng cfg calls (start g) i ∨ s = serial P rng cfg calls g i

theorem simulates_start (hs : Setting P W top g sid calls) :
    Simulates P rng cfg calls W top g sid (start g) (start g) where
  continues := SessionManager.continues_refl hs.tagInv hs.sound
  continuesSerial := SessionManager.continues_refl hs.tagInv hs.sound
  held _ := trivial
  state := Or.inl rfl
  waiting _ _ := rfl
  ended _ h := by cases h
  fresh _ _ := ⟨0, rfl⟩
  serial := Or.inl rfl

theorem serial_done (g : Gateway) (i j : Side) :
    ((serial P rng cfg calls g i).stage j).onSession = false := by
  unfold serial
  rcases i.eq_or j with rfl | rfl
  · have hother : ((serial P rng cfg calls g j).stage j.other.other) =
        ((whole P rng cfg calls (start g) j).stage j.other.other) := whole_stage_other _ j.other
    rw [Side.other_other] at hother
    unfold serial at hother
    rw [hother]
    exact whole_done _ _
  · exact whole_done _ _

section

variable {w s : TwoCalls} {i : Side} {st : Stage} {x : ReceiveState}

/-- The serial run has not taken a call that waits in it. -/
theorem Simulates.serial_of_waiting (h : Simulates P rng cfg calls W top g sid w s)
    (hi : s.stage i = .lookup) : s = start g ∨ s = whole P rng cfg calls (start g) i.other := by
  rcases h.serial with hserial | ⟨j, hserial | hserial⟩
  · exact Or.inl hserial
  · rcases j.eq_or i with rfl | rfl
    · have hdone : ((whole P rng cfg calls (start g) i).stage i).onSession = false := whole_done _ _
      rw [← hserial, hi] at hdone
      cases hdone
    · rw [Side.other_other]
      exact Or.inr hserial
  · have hdone : ((TwoCalls.serial P rng cfg calls g j).stage i).onSession = false :=
      serial_done _ _ _
    rw [← hserial, hi] at hdone
    cases hdone

/-- While no call has ended, the serial run has not begun. -/
theorem Simulates.serial_start (h : Simulates P rng cfg calls W top g sid w s)
    (hi : (w.stage i).onSession = true) (hother : (w.stage i.other).onSession = true) :
    s = start g := by
  rcases h.serial_of_waiting (h.waiting i hi) with hserial | hserial
  · exact hserial
  · have hdone : ((whole P rng cfg calls (start g) i.other).stage i.other).onSession = false :=
      whole_done _ _
    rw [← hserial, h.waiting i.other hother] at hdone
    cases hdone

/-- The next call of the serial run. -/
theorem Simulates.serial_next (h : Simulates P rng cfg calls W top g sid w s)
    (hi : (w.stage i).onSession = true) :
    ∃ j, whole P rng cfg calls s i = whole P rng cfg calls (start g) j ∨
      whole P rng cfg calls s i = TwoCalls.serial P rng cfg calls g j := by
  rcases h.serial_of_waiting (h.waiting i hi) with hserial | hserial
  · exact ⟨i, Or.inl (by rw [hserial])⟩
  · refine ⟨i.other, Or.inr ?_⟩
    unfold TwoCalls.serial
    rw [hserial, Side.other_other]

/-- A section that is taken leaves no call at its beginning but the other one. -/
theorem Simulates.fresh_next (h : Simulates P rng cfg calls W top g sid w s)
    (hi : (w.stage i).onSession = true) {j : Side}
    (hj : (advance P rng cfg calls w i).stage j = .lookup) :
    ∃ n, advance P rng cfg calls w i =
      runFrom (advance P rng cfg calls) (start g) (List.replicate n j.other) := by
  rcases i.eq_or j with rfl | rfl
  · have hleft : ((advance P rng cfg calls w j).stage j).sectionsLeft ≤
        (w.stage j).sectionsLeft - 1 := sectionsLeft_advance w j
    have hle := (w.stage j).sectionsLeft_le
    rw [hj] at hleft
    have hfour : Stage.lookup.sectionsLeft = 4 := rfl
    omega
  · rw [advance_stage_other] at hj
    obtain ⟨n, hn⟩ := h.fresh i.other hj
    refine ⟨n + 1, ?_⟩
    rw [Side.other_other] at hn ⊢
    rw [List.replicate_succ', runFrom_append, ← hn]
    rfl

/-- A call that has not begun finds the serial state, unless the other call is in flight. -/
theorem Simulates.eq_serial (h : Simulates P rng cfg calls W top g sid w s)
    (hi : w.stage i = .lookup) (hother : (w.stage i.other).inFlight = false) : w = s := by
  have hion : (w.stage i).onSession = true := by
    rw [hi]
    rfl
  obtain ⟨n, hn⟩ := h.fresh i hi
  cases hon : (w.stage i.other).onSession with
  | true =>
      -- neither call has begun
      have hlookup : w.stage i.other = .lookup :=
        (Stage.onSession_cases hon).resolve_right (by rw [hother]; exact Bool.false_ne_true)
      obtain ⟨k, hk⟩ := h.fresh i.other hlookup
      rw [Side.other_other] at hk
      have hleft : ((runFrom (advance P rng cfg calls) (start g) (List.replicate k i)).stage
          i).sectionsLeft ≤ 4 - k := sectionsLeft_run (start g) i k
      rw [← hk, hi] at hleft
      have hfour : Stage.lookup.sectionsLeft = 4 := rfl
      obtain rfl : k = 0 := by omega
      rw [hk, h.serial_start hion hon]
      rfl
  | false =>
      -- the other call is through, and nothing else has happened
      have hended := (h.ended i.other hon).1
      have hwhole : w = whole P rng cfg calls (start g) i.other := by
        rw [hn] at hon ⊢
        exact run_eq_whole hon
      rcases h.serial_of_waiting (h.waiting i hion) with hserial | hserial
      · rw [hserial] at hended
        cases hended
      · rw [hwhole, hserial]

/-- A section after which its call goes on has no counterpart in the serial run. -/
theorem Simulates.silent (h : Simulates P rng cfg calls W top g sid w s)
    (hi : (w.stage i).onSession = true)
    (hm : Moves P W top g sid w (advance P rng cfg calls w i) i st x) (hst : st.onSession = true)
    (hheld : Held P g sid x (calls i) st)
    (hother : Held P g sid x (calls i.other) (w.stage i.other))
    (hstate : x = (s.session sid).receiveState ∨
      Ahead calls sid (Function.update w.stage i st) x (s.session sid).receiveState) :
    Simulates P rng cfg calls W top g sid (advance P rng cfg calls w i) s where
  continues := hm.continues
  continuesSerial := h.continuesSerial
  held j := by
    rw [hm.state]
    rcases i.eq_or j with rfl | rfl
    · rw [hm.stage_self]
      exact hheld
    · rw [hm.stage_other]
      exact hother
  state := by
    rw [hm.state, hm.stage]
    exact hstate
  waiting j hj := by
    rcases i.eq_or j with rfl | rfl
    · exact h.waiting j hi
    · rw [hm.stage_other] at hj
      exact h.waiting i.other hj
  ended j hj := by
    rcases i.eq_or j with rfl | rfl
    · rw [hm.stage_self, hst] at hj
      cases hj
    · rw [hm.stage_other] at hj ⊢
      exact h.ended i.other hj
  fresh _ hj := h.fresh_next hi hj
  serial := h.serial

/-- With the last section of a call, the serial run takes the whole call. -/
theorem Simulates.final {st' : Stage} {x' : ReceiveState}
    (h : Simulates P rng cfg calls W top g sid w s) (hi : (w.stage i).onSession = true)
    (hm : Moves P W top g sid w (advance P rng cfg calls w i) i st x) (hst : st.onSession = false)
    (hm' : Moves P W top g sid s (whole P rng cfg calls s i) i st' x')
    (haccepts : st'.accepts sid = st.accepts sid)
    (hother : Held P g sid x (calls i.other) (w.stage i.other))
    (hstate : x = x' ∨ Ahead calls sid (Function.update w.stage i st) x x') :
    Simulates P rng cfg calls W top g sid (advance P rng cfg calls w i)
      (whole P rng cfg calls s i) where
  continues := hm.continues
  continuesSerial := hm'.continues
  held j := by
    rw [hm.state]
    rcases i.eq_or j with rfl | rfl
    · rw [hm.stage_self]
      exact held_of_not_inFlight (Stage.not_inFlight_of_done hst)
    · rw [hm.stage_other]
      exact hother
  state := by
    rw [hm.state, hm'.state, hm.stage]
    exact hstate
  waiting j hj := by
    rcases i.eq_or j with rfl | rfl
    · rw [hm.stage_self, hst] at hj
      cases hj
    · rw [hm.stage_other] at hj
      rw [hm'.stage_other]
      exact h.waiting i.other hj
  ended j hj := by
    rcases i.eq_or j with rfl | rfl
    · refine ⟨whole_done _ _, ?_⟩
      rw [hm.stage_self, hm'.stage_self]
      exact haccepts
    · rw [hm.stage_other] at hj ⊢
      rw [hm'.stage_other]
      exact h.ended i.other hj
  fresh _ hj := h.fresh_next hi hj
  serial := Or.inr (h.serial_next hi)

theorem Ahead.update {stage : Side → Stage} {y : ReceiveState} (h : Ahead calls sid stage x y)
    (i : Side) (st : Stage) (hi : ∀ t padded, stage i ≠ .mark t padded) :
    Ahead calls sid (Function.update stage i st) x y := by
  obtain ⟨hpending, hratchet, j, padded, hj⟩ := h
  refine ⟨hpending, hratchet, j, padded, ?_⟩
  have hne : j ≠ i := by
    rintro rfl
    exact hi _ _ hj
  rwa [Function.update_of_ne hne]

/-- What stands in the interleaving stands in the serial run, to the same effect. -/
theorem Simulates.receivable (h : Simulates P rng cfg calls W top g sid w s) {epoch r : Bool}
    {c : Nat} (hr : (w.session sid).receiveState.Receivable epoch c r) :
    ∃ r', (s.session sid).receiveState.Receivable epoch c r' ∧
      (if r' then (s.session sid).receiveState.ratchet else (s.session sid).receiveState) =
        if r then (w.session sid).receiveState.ratchet else (w.session sid).receiveState := by
  refine ReceiveState.Receivable.before (h.continuesSerial.sound sid).settled ?_ hr
  rcases h.state with heq | ⟨hpending, heq, -⟩
  · exact Or.inl heq
  · exact Or.inr ⟨hpending, heq⟩

theorem Simulates.lookup (hs : Setting P W top g sid calls)
    (h : Simulates P rng cfg calls W top g sid w s) (hst : w.stage i = .lookup)
    (hu : Undisturbed P calls sid g w i) :
    ∃ s', Simulates P rng cfg calls W top g sid (advance P rng cfg calls w i) s' := by
  have hon : (w.stage i).onSession = true := by
    rw [hst]
    rfl
  unfold Undisturbed at hu
  rw [hst] at hu
  have hstate := h.state.imp_right fun hahead st => hahead.update i st
    (by rw [hst]; exact fun _ _ hm => by cases hm)
  rcases hu with ⟨r, hr⟩ | ⟨hrefused, hbefore⟩
  · exact ⟨s, h.silent hon (moves_lookup rng cfg hs h.continues hst hr) rfl ⟨r, rfl, hr⟩ (h.held _)
      (hstate.imp_right fun hahead => hahead _)⟩
  · -- a call that is refused is refused in the serial run as well
    have hserial : (calls i).Unmatched P s.gateway := by
      cases hother : (w.stage i.other).inFlight with
      | false => rwa [← h.eq_serial hst hother]
      | true =>
          rw [h.serial_start hon (Stage.onSession_of_inFlight hother)]
          exact hbefore hother
    obtain ⟨st, hdone, haccepts, hm⟩ := moves_refused rng cfg hs h.continues hst hrefused
    obtain ⟨st', hdone', haccepts', hm'⟩ :=
      moves_refused rng cfg hs h.continuesSerial (h.waiting i hon) hserial
    have hwhole : whole P rng cfg calls s i = advance P rng cfg calls s i :=
      (run_eq_whole (n := 1) (by rw [← hm'.stage_self] at hdone'; exact hdone')).symm
    exact ⟨_, h.final hon hm hdone (by rw [hwhole]; exact hm') (haccepts'.trans haccepts.symm)
      (h.held _) (hstate.imp_right fun hahead => hahead _)⟩

theorem Simulates.decrypt (hs : Setting P W top g sid calls)
    (h : Simulates P rng cfg calls W top g sid w s) {t : TagMatch} (hst : w.stage i = .decrypt t) :
    ∃ s', Simulates P rng cfg calls W top g sid (advance P rng cfg calls w i) s' := by
  have hon : (w.stage i).onSession = true := by
    rw [hst]
    rfl
  have hheld := h.held i
  rw [hst] at hheld
  obtain ⟨r, rfl, hr⟩ := hheld
  obtain ⟨keys, hkeys, -⟩ := hr.epochKeys
  have hcall : callKeys g sid (calls i) = some keys := h.continues.keys sid _ keys hkeys
  have hm := moves_decrypt rng cfg h.continues hst hr.1 hkeys
  have hstate := h.state.imp_right fun hahead st => hahead.update i st
    (by rw [hst]; exact fun _ _ hm => by cases hm)
  cases hopened : opened P keys (calls i) with
  | error e =>
      -- refused in the interleaving, and refused in the serial run
      rw [hopened] at hm
      obtain ⟨r', hr', -⟩ := h.receivable hr
      have hm' := moves_whole rng cfg hs h.continuesSerial (h.waiting i hon) hr' hcall
      rw [hopened] at hm'
      exact ⟨_, h.final hon hm rfl hm' rfl (h.held _) (hstate.imp_right fun hahead => hahead _)⟩
  | ok padded =>
      rw [hopened] at hm
      refine ⟨s, ?_⟩
      cases r with
      | false =>
          exact h.silent hon hm rfl ⟨⟨false, rfl⟩, hr, keys, hcall, hopened⟩ (h.held _)
            (hstate.imp_right fun hahead => hahead _)
      | true =>
          exact h.silent hon hm rfl ⟨rfl, hr.1.1, ⟨true, hr⟩, keys, hcall, hopened⟩ (h.held _)
            (hstate.imp_right fun hahead => hahead _)

theorem Simulates.ratchet (hs : Setting P W top g sid calls)
    (h : Simulates P rng cfg calls W top g sid w s) {t : TagMatch} {padded : Bytes}
    (hst : w.stage i = .ratchet t padded) (hu : Undisturbed P calls sid g w i) :
    ∃ s', Simulates P rng cfg calls W top g sid (advance P rng cfg calls w i) s' := by
  have hon : (w.stage i).onSession = true := by
    rw [hst]
    rfl
  have hheld := h.held i
  rw [hst] at hheld
  obtain ⟨rfl, hepoch, ⟨r, hr⟩, hopens⟩ := hheld
  have hm := moves_ratchet rng cfg hs h.continues hst
  unfold Undisturbed at hu
  rw [hst] at hu
  refine ⟨s, ?_⟩
  cases hpending : (w.session sid).receiveState.ratchetedKeys with
  | none =>
      -- the other call has completed the ratchet already
      rw [ReceiveState.ratchet_of_none hpending] at hm
      have hr : (w.session sid).receiveState.Receivable (calls i).epoch (calls i).counter
          false := by
        cases r with
        | false => exact hr
        | true =>
            have hsome := hr.1.2.2
            rw [hpending] at hsome
            cases hsome
      refine h.silent hon hm rfl ⟨⟨true, rfl⟩, hr, hopens⟩ (h.held _) ?_
      exact h.state.imp_right fun hahead =>
        hahead.update _ _ (by rw [hst]; exact fun _ _ hm => by cases hm)
  | some keys =>
      have hsettled : (w.session sid).receiveState.Settled := (h.continues.sound sid).settled
      have heq : (w.session sid).receiveState = (s.session sid).receiveState := by
        rcases h.state with heq | ⟨hsome, hratchet, -⟩
        · exact heq
        · obtain ⟨keys', hkeys'⟩ := Option.isSome_iff_exists.1 hsome
          rw [hratchet, ReceiveState.ratchet_of_some hkeys'] at hpending
          cases hpending
      have hr := hr.of_pending hsettled hpending hepoch
      have hstands : Held P g sid (w.session sid).receiveState.ratchet (calls i.other)
          (w.stage i.other) := by
        have hother := h.held i.other
        have hfree := hu (Option.isSome_iff_exists.2 ⟨keys, hpending⟩)
        revert hother hfree
        cases w.stage i.other with
        | decrypt t => exact fun _ hfree => by cases hfree
        | mark t padded => exact fun _ hfree => by cases hfree
        | ratchet t padded =>
            rintro ⟨ht, hepoch', ⟨r', hr'⟩, hopens'⟩ -
            have hr' := hr'.of_pending hsettled hpending hepoch'
            exact ⟨ht, hepoch', ⟨false, hr'.ratchet⟩, hopens'⟩
        | _ => exact fun _ _ => trivial
      refine h.silent hon hm rfl ⟨⟨true, rfl⟩, hr.ratchet, hopens⟩ hstands (Or.inr ⟨?_, ?_, ?_⟩)
      · show (s.session sid).receiveState.ratchetedKeys.isSome = true
        rw [← heq, hpending]
        rfl
      · rw [heq]
      · exact ⟨i, padded, Function.update_self _ _ _⟩

theorem Simulates.mark (hs : Setting P W top g sid calls)
    (h : Simulates P rng cfg calls W top g sid w s) {t : TagMatch} {padded : Bytes}
    (hst : w.stage i = .mark t padded) (hu : Undisturbed P calls sid g w i) :
    ∃ s', Simulates P rng cfg calls W top g sid (advance P rng cfg calls w i) s' := by
  have hon : (w.stage i).onSession = true := by
    rw [hst]
    rfl
  have hheld := h.held i
  rw [hst] at hheld
  obtain ⟨⟨r, rfl⟩, hr, keys, hcall, hopened⟩ := hheld
  have hm := moves_mark rng cfg hs h.continues hst
  -- the serial run takes the call here, and comes to the same receive state before its mark
  obtain ⟨r', hr', heq⟩ := h.receivable hr
  have hm' := moves_whole rng cfg hs h.continuesSerial (h.waiting i hon) hr' hcall
  rw [hopened] at hm'
  unfold verdict at hm'
  simp only [heq, Bool.false_eq_true, if_false] at hm'
  obtain ⟨haccepts, hsame⟩ := closing_flag sid (calls i) r' r (w.session sid).receiveState padded
  refine ⟨_, h.final hon hm (closing_done _ _ _ _ _) hm' haccepts ?_ (Or.inl hsame.symm)⟩
  have hother := h.held i.other
  unfold closing
  cases hstrip : stripPadding padded with
  | error e => exact hother
  | ok plaintext =>
      -- the mark does not take away what the other call holds in the same epoch
      unfold Undisturbed at hu
      rw [hst] at hu
      have hfree := hu (by rw [hstrip]; rfl)
      have hkeeps : ∀ r'', (w.stage i.other).inFlight = true →
          (w.session sid).receiveState.Receivable (calls i.other).epoch (calls i.other).counter
            r'' →
          ((w.session sid).receiveState.mark (calls i).counter).Receivable (calls i.other).epoch
            (calls i.other).counter r'' := by
        intro r'' hflight hr''
        refine hr''.mark ?_
        rintro rfl
        exact hfree hflight (Eq.trans hr''.1 (Eq.symm hr.1))
      revert hother hkeeps
      cases w.stage i.other with
      | decrypt t =>
          rintro ⟨r'', ht, hr''⟩ hkeeps
          exact ⟨r'', ht, hkeeps r'' rfl hr''⟩
      | ratchet t padded' =>
          rintro ⟨ht, hepoch, ⟨r'', hr''⟩, hopens⟩ hkeeps
          exact ⟨ht, hepoch, ⟨r'', hkeeps r'' rfl hr''⟩, hopens⟩
      | mark t padded' =>
          rintro ⟨ht, hr'', hopens⟩ hkeeps
          exact ⟨ht, hkeeps false rfl hr'', hopens⟩
      | _ => exact fun _ _ => trivial

/-- The step lemma: a section that leaves the other call undisturbed. -/
theorem Simulates.step (hs : Setting P W top g sid calls)
    (h : Simulates P rng cfg calls W top g sid w s) (hu : Undisturbed P calls sid g w i) :
    ∃ s', Simulates P rng cfg calls W top g sid (advance P rng cfg calls w i) s' := by
  cases hst : w.stage i with
  | lookup => exact h.lookup hs hst hu
  | decrypt t => exact h.decrypt hs hst
  | ratchet t padded => exact h.ratchet hs hst hu
  | mark t padded => exact h.mark hs hst hu
  | _ =>
      rw [advance_of_done (by rw [hst]; rfl)]
      exact ⟨s, h⟩

end

/-! ## Two copies of one datagram -/

/-- Two copies of one datagram were built for one counter of one epoch. -/
theorem Setting.same_counter (hs : Setting P W top g sid calls)
    (hsame : (calls .first).packetData = (calls .second).packetData) (i : Side) :
    (calls i.other).epoch = (calls i).epoch ∧ (calls i.other).counter = (calls i).counter := by
  have hdata : (calls i.other).packetData = (calls i).packetData := by
    cases i with
    | first => exact hsame.symm
    | second => exact hsame
  obtain ⟨keys, hkeys, win, hwin, htag⟩ := (hs.genuine i).tag
  obtain ⟨keys', hkeys', win', hwin', htag'⟩ := (hs.genuine i.other).tag
  obtain ⟨r, hr⟩ := ReceiveState.exists_answers hkeys
  obtain ⟨r', hr'⟩ := ReceiveState.exists_answers hkeys'
  have hsecret := Session.tagSecret_of_answers hr hkeys
  have hsecret' := Session.tagSecret_of_answers hr' hkeys'
  have hmem : ∀ j {keys : SessionKeys} {r : Bool} {w : Nat},
      (g.session sid).tagSecret r = some keys.tagSecret →
      w ∈ nearWindows (calls j).env.timeWindow → (keys.tagSecret, (calls j).counter, w) ∈
        g.sessionManager.triplesUpTo W top :=
    fun j _ _ w hsecret hw => ⟨sid, hs.live, Session.mem_secrets hsecret,
      Nat.lt_of_le_of_lt (hs.counters j) (Nat.lt_of_le_of_lt (Nat.le_max_left _ _)
        (Nat.lt_add_of_pos_right (by decide))), hs.near j w hw⟩
  have heq := hs.tags (hmem i.other hsecret' hwin') (hmem i hsecret hwin)
    (htag'.trans ((congrArg (readArray 8 0) hdata).trans htag.symm))
  simp only [Prod.mk.injEq] at heq
  obtain ⟨hkey, hcounter, -⟩ := heq
  rw [hkey] at hsecret'
  obtain ⟨-, rfl⟩ := hs.secrets sid hs.live sid hs.live r r' _ hsecret hsecret'
  exact ⟨hr'.epoch_unique hr, hcounter⟩

/-- When one copy of a datagram is accepted, the other one is neither accepted nor in flight, and if
it comes later its counter is a replay. -/
structure Once (calls : Side → SessionCall) (sid : SessionId) (w : TwoCalls) : Prop where
  other : ∀ i, (w.stage i).accepts sid = true →
    (w.stage i.other).accepts sid = false ∧ (w.stage i.other).inFlight = false
  replay : ∀ i, (w.stage i).accepts sid = true → w.stage i.other = .lookup →
    (w.session sid).receiveState.isRatcheted = (calls i).epoch ∧
      (w.session sid).receiveState.isReplay (calls i).counter = true

theorem once_start : Once calls sid (start g) where
  other _ h := by cases h
  replay _ h := by cases h

/-- A section of a call beside which the other one has not been accepted. -/
theorem Once.of_moves {w w' : TwoCalls} {i : Side} {st : Stage} {x : ReceiveState}
    (hnot : (w.stage i.other).accepts sid = false) (hm : Moves P W top g sid w w' i st x)
    (haccepts : st.accepts sid = true → (w.stage i.other).inFlight = false ∧
      (w.stage i.other = .lookup → x.isRatcheted = (calls i).epoch ∧
        x.isReplay (calls i).counter = true)) : Once calls sid w' := by
  constructor
  · intro j hj
    rcases i.eq_or j with rfl | rfl
    · rw [hm.stage_self] at hj
      rw [hm.stage_other]
      exact ⟨hnot, (haccepts hj).1⟩
    · rw [hm.stage_other, hnot] at hj
      cases hj
  · intro j hj hlookup
    rcases i.eq_or j with rfl | rfl
    · rw [hm.stage_self] at hj
      rw [hm.stage_other] at hlookup
      rw [hm.state]
      exact (haccepts hj).2 hlookup
    · rw [hm.stage_other, hnot] at hj
      cases hj

/-- While a call is in flight the other one has not been accepted. -/
theorem Once.not_accepts {w : TwoCalls} {i : Side} (ho : Once calls sid w)
    (hi : (w.stage i).inFlight = true) : (w.stage i.other).accepts sid = false := by
  cases hother : (w.stage i.other).accepts sid with
  | false => rfl
  | true =>
      have hflight := (ho.other i.other hother).2
      rw [Side.other_other, hi] at hflight
      cases hflight

/-- Behind an accepted copy the counter would be a replay. -/
theorem Once.not_accepts_of_hit {w : TwoCalls} {i : Side} (ho : Once calls sid w)
    (hepoch : (calls i.other).epoch = (calls i).epoch)
    (hcounter : (calls i.other).counter = (calls i).counter) (hst : w.stage i = .lookup) {r : Bool}
    (hr : (w.session sid).receiveState.Receivable (calls i).epoch (calls i).counter r) :
    (w.stage i.other).accepts sid = false := by
  have hreplay := ho.replay i.other
  rw [Side.other_other, hepoch, hcounter] at hreplay
  cases hother : (w.stage i.other).accepts sid with
  | false => rfl
  | true =>
      obtain ⟨hratcheted, hseen⟩ := hreplay hother hst
      cases r with
      | false =>
          have hnew := hr.2.2
          rw [hseen] at hnew
          cases hnew
      | true =>
          obtain ⟨⟨htrue, hfalse, -⟩, -⟩ := hr
          rw [hratcheted, htrue] at hfalse
          cases hfalse

/-- A call that is over without having accepted its datagram leaves nothing to the other copy. -/
theorem Once.of_done {w w' : TwoCalls} {i : Side} {st : Stage} {x : ReceiveState}
    (hdone : st.onSession = false) (hst : st.accepts sid = false) (hm : Moves P W top g sid w w' i st x) :
    Once calls sid w' := by
  constructor
  · intro j hj
    rcases i.eq_or j with rfl | rfl
    · rw [hm.stage_self, hst] at hj
      cases hj
    · rw [Side.other_other, hm.stage_self]
      exact ⟨hst, Stage.not_inFlight_of_done hdone⟩
  · intro j hj hlookup
    rcases i.eq_or j with rfl | rfl
    · rw [hm.stage_self, hst] at hj
      cases hj
    · rw [Side.other_other, hm.stage_self] at hlookup
      rw [hlookup] at hdone
      cases hdone

theorem Once.step (hs : Setting P W top g sid calls)
    (hsame : (calls .first).packetData = (calls .second).packetData) {w s : TwoCalls} {i : Side}
    (h : Simulates P rng cfg calls W top g sid w s) (ho : Once calls sid w)
    (hu : Undisturbed P calls sid g w i) : Once calls sid (advance P rng cfg calls w i) := by
  obtain ⟨hepoch, hcounter⟩ := hs.same_counter hsame i
  have hheld := h.held i
  unfold Undisturbed at hu
  cases hst : w.stage i with
  | lookup =>
      rw [hst] at hu
      rcases hu with ⟨r, hr⟩ | ⟨hrefused, -⟩
      · exact Once.of_moves (ho.not_accepts_of_hit hepoch hcounter hst hr)
          (moves_lookup rng cfg hs h.continues hst hr) fun haccepts => by cases haccepts
      · obtain ⟨st, hdone, hst', hm⟩ := moves_refused rng cfg hs h.continues hst hrefused
        exact Once.of_done hdone hst' hm
  | decrypt t =>
      rw [hst] at hheld
      obtain ⟨r, rfl, hr⟩ := hheld
      obtain ⟨keys, hkeys, -⟩ := hr.epochKeys
      have hm := moves_decrypt rng cfg h.continues hst hr.1 hkeys
      refine Once.of_moves (ho.not_accepts (by rw [hst]; rfl)) hm fun haccepts => ?_
      cases hopened : opened P keys (calls i) with
      | error e =>
          rw [hopened] at haccepts
          cases haccepts
      | ok padded =>
          rw [hopened] at haccepts
          cases r with
          | false => cases haccepts
          | true => cases haccepts
  | ratchet t padded =>
      rw [hst] at hheld
      obtain ⟨rfl, -⟩ := hheld
      exact Once.of_moves (ho.not_accepts (by rw [hst]; rfl))
        (moves_ratchet rng cfg hs h.continues hst) fun haccepts => by cases haccepts
  | mark t padded =>
      rw [hst] at hheld hu
      obtain ⟨⟨r, rfl⟩, hr, -⟩ := hheld
      refine Once.of_moves (ho.not_accepts (by rw [hst]; rfl))
        (moves_mark rng cfg hs h.continues hst) fun haccepts => ?_
      unfold closing at haccepts ⊢
      cases hstrip : stripPadding padded with
      | error e =>
          rw [hstrip] at haccepts
          cases haccepts
      | ok plaintext =>
          -- a copy in flight would be marked twice, which the condition excludes
          refine ⟨?_, fun _ => ⟨?_, ?_⟩⟩
          · cases hflight : (w.stage i.other).inFlight with
            | false => rfl
            | true => exact absurd hcounter (hu (by rw [hstrip]; rfl) hflight hepoch).1
          · exact (ReceiveState.mark_keys _ _).2.2.trans (Eq.symm hr.1)
          · have hmem := mem_countersAround.1 hr.2.1
            exact ReceiveState.isReplay_mark_self _ (by omega)
  | _ =>
      rw [advance_of_done (by rw [hst]; rfl)]
      exact ho

end

end TwoCalls

/-! ## Linearization -/

open TwoCalls

/-- The theorem without the run that leads to `g`, where the sections interleave. -/
theorem TwoCalls.Setting.linearizable {P : Primitives} {rng : Randomness} {cfg : GatewayConfig}
    {calls : Side → SessionCall} {W : Set Nat} {top : Nat} {g : Gateway} {sid : SessionId}
    (hs : Setting P W top g sid calls) {es : List Side}
    (hu : Along (TwoCalls.advance P rng cfg calls) (Undisturbed P calls sid g) (start g) es)
    (hdone : ∀ i, ((runFrom (TwoCalls.advance P rng cfg calls) (start g) es).stage i).onSession =
      false) : Linearizable P rng cfg calls sid g es := by
  have hstep : ∀ w i, (∃ s, Simulates P rng cfg calls W top g sid w s) →
      Undisturbed P calls sid g w i →
      ∃ s, Simulates P rng cfg calls W top g sid (TwoCalls.advance P rng cfg calls w i) s :=
    fun w i ⟨s, h⟩ hi => h.step hs hi
  refine ⟨?_, fun hsame => ?_, ?_⟩
  · obtain ⟨s, h⟩ := runFrom_invariant_of_along hstep ⟨start g, simulates_start hs⟩ hu
    rcases h.serial with rfl | ⟨i, rfl | rfl⟩
    -- in the serial run both calls have ended as well
    · have hended := (h.ended .first (hdone .first)).1
      cases hended
    · have hended := (h.ended i.other (hdone i.other)).1
      rw [whole_stage_other] at hended
      cases hended
    · refine ⟨i, fun j => (h.ended j (hdone j)).2.symm, ?_⟩
      rcases h.state with heq | ⟨-, -, j, padded, hmark⟩
      · exact heq
      · have hj := hdone j
        rw [hmark] at hj
        cases hj
  · have hboth : ∀ w i, (∃ s, Simulates P rng cfg calls W top g sid w s ∧ Once calls sid w) →
        Undisturbed P calls sid g w i →
        ∃ s, Simulates P rng cfg calls W top g sid (TwoCalls.advance P rng cfg calls w i) s ∧
          Once calls sid (TwoCalls.advance P rng cfg calls w i) := by
      rintro w i ⟨s, h, ho⟩ hi
      obtain ⟨s', h'⟩ := h.step hs hi
      exact ⟨s', h', ho.step hs hsame h hi⟩
    obtain ⟨-, -, ho⟩ :=
      runFrom_invariant_of_along hboth ⟨start g, simulates_start hs, once_start⟩ hu
    cases hfirst : ((runFrom (TwoCalls.advance P rng cfg calls) (start g) es).stage .first).accepts
      sid with
    | false => exact ⟨.first, hfirst⟩
    | true => exact ⟨.second, (ho.other .first hfirst).1⟩
  · refine Along.imp_of_invariant hstep (fun w i h _ t padded plaintext hst _ => ?_)
      ⟨start g, simulates_start hs⟩ hu
    obtain ⟨s, h⟩ := h
    have hheld := h.held i
    rw [hst] at hheld
    exact Eq.symm hheld.2.1.1

/-- Packets of one session are handled as if one after the other, as long as no call takes away what
the other one has validated. In every state that the gateway reaches, for two datagrams of a live
session and every interleaving of the lock sections of their calls: if each section leaves the other
call undisturbed, or if the calls come one after the other and find counters not accepted before, the
accepted datagrams and the counter, the bitmap and the keys in the end are those of one of the two
serial orders, two copies of one datagram are not both accepted, and no counter is marked in another
epoch than it was validated in. Tags do not collide among those that
lookups compute meanwhile, and secrets are distinct. -/
theorem linearizable_of_undisturbed (P : Primitives) (rng : Randomness) (cfg : GatewayConfig)
    (serverKeys : KeyPair) (signingKey : Key) (clientDb : Option (List ClientConfig))
    (past : List (Env × Gateway.Event)) {g : Gateway}
    (hg : g = runFrom (Gateway.step P rng cfg) (Gateway.new serverKeys signingKey clientDb) past)
    {sid : SessionId} (hlive : sid ∈ g.sessionManager.sessions) (calls : Side → SessionCall)
    (hgenuine : ∀ i, (calls i).Genuine P (g.session sid))
    (hsecrets : g.sessionManager.DistinctSecrets)
    (hfree : P.CollisionFree (g.sessionManager.triplesUpTo
      (Gateway.windowsOf past ∪ { w | ∃ i, w ∈ nearWindows (calls i).env.timeWindow })
      (max (calls .first).counter (calls .second).counter))) (es : List Side)
    (hu : Along (TwoCalls.advance P rng cfg calls) (Undisturbed P calls sid g) (start g) es ∨
      Along (TwoCalls.advance P rng cfg calls) (OneByOne P calls sid) (start g) es)
    (hdone : ∀ i, ((runFrom (TwoCalls.advance P rng cfg calls) (start g) es).stage i).onSession =
      false) : Linearizable P rng cfg calls sid g es := by
  have hs : Setting P (Gateway.windowsOf past ∪ { w | ∃ i, w ∈ nearWindows (calls i).env.timeWindow })
      (max (calls .first).counter (calls .second).counter) g sid calls := by
    refine ⟨?_, fun other => ?_, hsecrets, hfree, hlive, hgenuine, fun i w hw => Or.inr ⟨i, hw⟩,
      fun i => ?_⟩
    · rw [hg]
      exact tagInv_of_run P rng cfg serverKeys signingKey clientDb past
    · rw [hg]
      exact (cacheSound_of_run P rng cfg serverKeys signingKey clientDb past other).mono
        Set.subset_union_left
    · cases i with
      | first => exact Nat.le_max_left _ _
      | second => exact Nat.le_max_right _ _
  rcases hu with hu | hu
  · exact hs.linearizable hu hdone
  · exact linearizable_of_oneByOne hu hdone fun hsame i => hs.same_counter hsame i

/-- A call for a keepalive of the sample client, built one window after the tag tables of its
session. -/
def sampleKeepaliveCall (counter : Nat) (port : UInt16) : SessionCall where
  packetData := (buildZeroMdhPacket samplePrimitives 101 sampleDraw (sampleInitialKeys none) counter
    (buildInnerPacket .control 0 ControlPayload.keepalive.encode) none).1
  clientAddr := { sampleAddr with port := port }
  env := sampleEnv 101
  epoch := false
  counter := counter

/-- Two copies of one keepalive, from two ports. -/
def sampleCopies : Side → SessionCall
  | .first => sampleKeepaliveCall 1 4000
  | .second => sampleKeepaliveCall 1 4001

/-- Two keepalives, from one port. -/
def sampleKeepalives : Side → SessionCall
  | .first => sampleKeepaliveCall 1 4000
  | .second => sampleKeepaliveCall 2 4000

/-- Two keepalives beyond the tag window of the session. -/
def sampleRecovered : Side → SessionCall
  | .first => sampleKeepaliveCall 300 4000
  | .second => sampleKeepaliveCall 301 4000

/-- A keepalive under the initial keys, and one under the pending keys of the session. -/
def sampleAcrossRatchet : Side → SessionCall
  | .first => sampleKeepaliveCall 1 4000
  | .second =>
      { sampleKeepaliveCall 0 4000 with
        packetData := (buildZeroMdhPacket samplePrimitives 101 sampleDraw
          ((sampleAfterInit.session 0).ratchetedKeys.getD (sampleInitialKeys none)) 0
          (buildInnerPacket .control 0 ControlPayload.keepalive.encode) none).1
        epoch := true }

theorem sampleKeepaliveCall_genuine (port : UInt16) {counter : Nat}
    (h : counter ∈ [1, 2, 300, 301]) :
    (sampleKeepaliveCall counter port).Genuine samplePrimitives (sampleAfterInit.session 0) := by
  have hkeys : (sampleAfterInit.session 0).receiveState.epochKeys false =
      some (sampleInitialKeys none) := by decide +kernel
  -- the port makes no difference to the datagram
  have hdatagrams : ∀ c ∈ [1, 2, 300, 301],
      tagSize + 2 ≤ (sampleKeepaliveCall c 0).packetData.length ∧
      samplePrimitives.generateResonanceTag (sampleInitialKeys none).tagSecret c 101 =
        readArray 8 0 (sampleKeepaliveCall c 0).packetData := by decide +kernel
  obtain ⟨hlength, htag⟩ := hdatagrams counter h
  have hnear : 101 ∈ nearWindows (sampleEnv 101).timeWindow := by decide
  exact ⟨hlength, _, hkeys, 101, hnear, htag⟩

/-- The tag of a keepalive of the next window is not in the tag map yet, so that two copies of it
from two ports go to two of sixteen workers. When both of them look up the session before either
marks the counter, both are accepted, which neither serial order does. -/
theorem copies_both_accepted :
    let es : List Side := [.first, .second, .first, .second, .first, .second]
    (∀ i, (sampleCopies i).Genuine samplePrimitives (sampleAfterInit.session 0)) ∧
    sampleAfterInit.workerIndexForPacket (sampleCopies .first).packetData
        (sampleCopies .first).clientAddr 16 ≠
      sampleAfterInit.workerIndexForPacket (sampleCopies .second).packetData
        (sampleCopies .second).clientAddr 16 ∧
    (∀ i, ((runFrom (TwoCalls.advance samplePrimitives sampleRandomness sampleConfig sampleCopies)
      (start sampleAfterInit) es).stage i).accepts 0 = true) ∧
    (∀ i, ((TwoCalls.serial samplePrimitives sampleRandomness sampleConfig sampleCopies
      sampleAfterInit i).stage i.other).accepts 0 = false) ∧
    ¬ Linearizable samplePrimitives sampleRandomness sampleConfig sampleCopies 0 sampleAfterInit
      es := by
  intro es
  -- the runs are evaluated once for all of their facts
  have hfacts :
      sampleAfterInit.workerIndexForPacket (sampleCopies .first).packetData
          (sampleCopies .first).clientAddr 16 ≠
        sampleAfterInit.workerIndexForPacket (sampleCopies .second).packetData
          (sampleCopies .second).clientAddr 16 ∧
      (((runFrom (TwoCalls.advance samplePrimitives sampleRandomness sampleConfig sampleCopies)
          (start sampleAfterInit) es).stage .first).accepts 0 = true ∧
        ((runFrom (TwoCalls.advance samplePrimitives sampleRandomness sampleConfig sampleCopies)
          (start sampleAfterInit) es).stage .second).accepts 0 = true) ∧
      ((TwoCalls.serial samplePrimitives sampleRandomness sampleConfig sampleCopies
          sampleAfterInit .first).stage (Side.other .first)).accepts 0 = false ∧
      ((TwoCalls.serial samplePrimitives sampleRandomness sampleConfig sampleCopies
          sampleAfterInit .second).stage (Side.other .second)).accepts 0 = false := by
    decide +kernel
  obtain ⟨hworkers, ⟨hfirst, hsecond⟩, hafterFirst, hafterSecond⟩ := hfacts
  refine ⟨fun i => ?_, hworkers, fun i => ?_, fun i => ?_, fun h => ?_⟩
  · cases i with
    | first => exact sampleKeepaliveCall_genuine 4000 (by decide)
    | second => exact sampleKeepaliveCall_genuine 4001 (by decide)
  · cases i with
    | first => exact hfirst
    | second => exact hsecond
  · cases i with
    | first => exact hafterFirst
    | second => exact hafterSecond
  · obtain ⟨i, hi⟩ := h.once rfl
    cases i with
    | first =>
        rw [hfirst] at hi
        cases hi
    | second =>
        rw [hsecond] at hi
        cases hi

/-- When one call completes the ratchet after the other has validated and decrypted under the
initial keys, the other marks its counter among those of the ratcheted keys. -/
theorem ratchet_between_sections :
    let es : List Side := [.first, .first, .second, .second, .second, .first, .second]
    let s := (runFrom (TwoCalls.advance samplePrimitives sampleRandomness sampleConfig
      sampleAcrossRatchet) (start sampleAfterInit) es).session 0
    (s.isRatcheted = true ∧ s.receiveState.isReplay 1 = true) ∧
      ¬ Linearizable samplePrimitives sampleRandomness sampleConfig sampleAcrossRatchet 0
        sampleAfterInit es := by
  intro es s
  have hfacts : (s.isRatcheted = true ∧ s.receiveState.isReplay 1 = true) ∧
      ((runFrom (TwoCalls.advance samplePrimitives sampleRandomness sampleConfig
        sampleAcrossRatchet) (start sampleAfterInit)
        [.first, .first, .second, .second, .second]).session 0).isRatcheted = true ∧
      (match (runFrom (TwoCalls.advance samplePrimitives sampleRandomness sampleConfig
          sampleAcrossRatchet) (start sampleAfterInit)
          [.first, .first, .second, .second, .second]).stage .first with
        | .mark _ padded => (stripPadding padded).isOk
        | _ => false) = true := by
    decide +kernel
  obtain ⟨hend, hratcheted, hmark⟩ := hfacts
  refine ⟨hend, fun h => ?_⟩
  -- the state in which the first call marks
  have hepoch := ((along_append _ _ _ [Side.first, .first, .second, .second, .second]
    [Side.first, .second]).1 h.epoch).2.1
  beta_reduce at hepoch
  rw [hratcheted] at hepoch
  revert hmark hepoch
  cases (runFrom (TwoCalls.advance samplePrimitives sampleRandomness sampleConfig
      sampleAcrossRatchet) (start sampleAfterInit)
      [.first, .first, .second, .second, .second]).stage .first with
  | mark t padded =>
      intro hmark hepoch
      cases hstrip : stripPadding padded with
      | error e =>
          simp only [hstrip] at hmark
          cases hmark
      | ok plaintext => exact absurd (hepoch t padded plaintext rfl hstrip) (by decide)
  | _ => exact fun hmark _ => by cases hmark

/-- The tags that the lookups of two calls in window 101 compute do not collide. -/
theorem sampleAfterInit_collisionFree {calls : Side → SessionCall}
    (henv : ∀ i, (calls i).env = sampleEnv 101) {top : Nat} (htop : top < 2 ^ 16) :
    samplePrimitives.CollisionFree (sampleAfterInit.sessionManager.triplesUpTo
      (Gateway.windowsOf [(sampleEnv 100, .packet (sampleInit none 101) sampleAddr)] ∪
        { w | ∃ i, w ∈ nearWindows (calls i).env.timeWindow }) top) := by
  obtain ⟨hone, hprefixes, hcounter, hbase, -⟩ := sampleAfterInit_state
  have hnear : ∀ w ∈ nearWindows (sampleEnv 101).timeWindow, w < 2 ^ 24 := by decide
  refine (samplePrimitives_collisionFree hprefixes).mono ?_
  rintro x ⟨other, hother, hsecret, hc, hw⟩
  rw [hone] at hother
  obtain rfl := List.mem_singleton.1 hother
  rw [← Gateway.session_eq_heap, hcounter, hbase] at hc
  refine ⟨hsecret, ?_, ?_⟩
  · have hrange : Session.recoveryRange = 2 ^ 16 := rfl
    omega
  · rcases hw with ⟨e, he, hw⟩ | ⟨i, hw⟩
    · obtain rfl := List.mem_singleton.1 he
      exact hw ▸ (by decide)
    · rw [henv i] at hw
      exact hnear _ hw

/-- Two keepalives of the sample client, of which the second is marked first, and two that come one
after the other, of which the first is recovered. -/
theorem sampleKeepalives_linearizable :
    Linearizable samplePrimitives sampleRandomness sampleConfig sampleKeepalives 0 sampleAfterInit
      [.first, .second, .first, .second, .second, .first] ∧
    Linearizable samplePrimitives sampleRandomness sampleConfig sampleRecovered 0 sampleAfterInit
      [.first, .first, .first, .second, .second, .second] := by
  have hkeepalives : Along (TwoCalls.advance samplePrimitives sampleRandomness sampleConfig
        sampleKeepalives) (Undisturbed samplePrimitives sampleKeepalives 0 sampleAfterInit)
        (start sampleAfterInit) [.first, .second, .first, .second, .second, .first] ∧
      ((runFrom (TwoCalls.advance samplePrimitives sampleRandomness sampleConfig sampleKeepalives)
        (start sampleAfterInit) [.first, .second, .first, .second, .second, .first]).stage
        .first).onSession = false ∧
      ((runFrom (TwoCalls.advance samplePrimitives sampleRandomness sampleConfig sampleKeepalives)
        (start sampleAfterInit) [.first, .second, .first, .second, .second, .first]).stage
        .second).onSession = false := by
    decide +kernel
  have hrecovered : Along (TwoCalls.advance samplePrimitives sampleRandomness sampleConfig
        sampleRecovered) (OneByOne samplePrimitives sampleRecovered 0)
        (start sampleAfterInit) [.first, .first, .first, .second, .second, .second] ∧
      ((runFrom (TwoCalls.advance samplePrimitives sampleRandomness sampleConfig sampleRecovered)
        (start sampleAfterInit) [.first, .first, .first, .second, .second, .second]).stage
        .first).onSession = false ∧
      ((runFrom (TwoCalls.advance samplePrimitives sampleRandomness sampleConfig sampleRecovered)
        (start sampleAfterInit) [.first, .first, .first, .second, .second, .second]).stage
        .second).onSession = false := by
    decide +kernel
  have hsecrets : sampleAfterInit.sessionManager.DistinctSecrets :=
    (sampleAfterInit_ideal fun w hw => absurd hw (Set.notMem_empty w)).secrets
  have hlive : 0 ∈ sampleAfterInit.sessionManager.sessions := by
    rw [sampleAfterInit_state.1]
    exact List.mem_singleton_self _
  constructor
  · refine linearizable_of_undisturbed samplePrimitives sampleRandomness sampleConfig
      sampleServerKeys default none [(sampleEnv 100, .packet (sampleInit none 101) sampleAddr)]
      (show sampleAfterInit = _ from rfl) hlive sampleKeepalives (fun i => ?_) hsecrets
      (sampleAfterInit_collisionFree (fun i => ?_) (by decide)) _ (Or.inl hkeepalives.1)
      (fun i => ?_)
    · cases i with
      | first => exact sampleKeepaliveCall_genuine 4000 (by decide)
      | second => exact sampleKeepaliveCall_genuine 4000 (by decide)
    · cases i with
      | first => rfl
      | second => rfl
    · cases i with
      | first => exact hkeepalives.2.1
      | second => exact hkeepalives.2.2
  · refine linearizable_of_undisturbed samplePrimitives sampleRandomness sampleConfig
      sampleServerKeys default none [(sampleEnv 100, .packet (sampleInit none 101) sampleAddr)]
      (show sampleAfterInit = _ from rfl) hlive sampleRecovered (fun i => ?_) hsecrets
      (sampleAfterInit_collisionFree (fun i => ?_) (by decide)) _ (Or.inr hrecovered.1)
      (fun i => ?_)
    · cases i with
      | first => exact sampleKeepaliveCall_genuine 4000 (by decide)
      | second => exact sampleKeepaliveCall_genuine 4000 (by decide)
    · cases i with
      | first => rfl
      | second => rfl
    · cases i with
      | first => exact hrecovered.2.1
      | second => exact hrecovered.2.2

end Aivpn
