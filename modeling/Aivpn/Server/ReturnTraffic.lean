import Aivpn.Server.WorkerSteps
import Aivpn.Server.LegacyMode

/-!
# Return traffic

The TUN read loop sends to the session that `get_session_by_vpn_ip` returns. `create_session`
publishes a session before its tag is validated, so every live session is validated or belongs to
a call between the two (`Pool.Accounted`), and the session returned is a validated one exactly
when no call is in between with the session that the address leads to (`returns_validated_iff`).
A datagram that no client has made diverts the packets of a connected client for that time
(`stranger_diverts_traffic`).
-/

set_option autoImplicit false

namespace Aivpn

open Aivpn.Lib

namespace Pool

/-- Every live session was validated, or the call that has created it is still to validate it. -/
structure Accounted (p : Pool) : Prop where
  ownership : p.Ownership
  live : ∀ sid ∈ p.gateway.sessionManager.sessions,
    .valid sid ∈ p.milestones ∨ ∃ i, (p.calls i).stage.unvalidated = some sid
  unvalidated : ∀ i sid, (p.calls i).stage.unvalidated = some sid → .valid sid ∉ p.milestones

end Pool

/-- A call that is still to validate a session owns it. -/
theorem Stage.owns_of_unvalidated {st : Stage} {sid : SessionId} (h : st.unvalidated = some sid) :
    st.owns = some sid := by
  cases st with
  | revalidate client sid' =>
      cases client with
      | none => exact h
      | some client => cases h
  | discard client sid' =>
      cases client with
      | none => exact h
      | some client => cases h
  | assignVpnIp a ip sid' => exact h
  | validate a client sid' => exact h
  | rollback a sid' => exact h
  | _ => cases h

namespace LockSection

variable {addr : SocketAddr} {call : Nat} {st st' : Stage} {g g' : Gateway} {ms : Option Milestone}

/-- A session that is live behind a section of a call still to validate it stays so, or the section
has validated it. -/
theorem live_unvalidated (h : LockSection addr call st g st' g' ms) {sid : SessionId}
    (hlive : sid ∈ g'.sessionManager.sessions) (hst : st.unvalidated = some sid) :
    st'.unvalidated = some sid ∨ ms = some (.valid sid) := by
  cases h with
  | quiet hbook hquiet => exact Or.inl (hquiet.unvalidated.trans hst)
  -- its tag validates in this section, or in the next look at the offer
  | validated a client sid' =>
      cases hst
      exact Or.inr rfl
  | @offered client sid' t g ht =>
      cases client with
      | none =>
          cases hst
          exact Or.inr rfl
      | some client => cases hst
  | drawn => cases hst
  | inserted => cases hst
  | assigned a ip sid' =>
      cases hst
      exact Or.inl (a.resume_ok sid).2.2.1
  -- a rollback removes the session that the call has not validated
  | @rolledBack st st' sid' g hst' =>
      have hmem : sid ≠ sid' := by
        have h := hlive
        simp only [Gateway.withManager, SessionManager.rollbackFailedSession_sessions,
          SessionManager.mem_removeSession] at h
        exact h.2
      rcases hst' with ⟨a, rfl⟩ | ⟨client, rfl⟩
      · cases hst
        exact absurd rfl hmem
      · cases client with
        | none =>
            cases hst
            exact absurd rfl hmem
        | some client => cases hst
  | cleaned => cases hst
  | marked => cases hst
  | removed => cases hst

/-- A call comes to hold an unvalidated session by inserting it, and then it is not validated. -/
theorem unvalidated_cases (h : LockSection addr call st g st' g' ms) {sid : SessionId}
    (hst : st'.unvalidated = some sid) :
    (∀ other, ms ≠ some (.valid other)) ∧
      (st.unvalidated = some sid ∨ ∃ a ip s, st = .insertSession a ip s ∧ s.sessionId = sid) := by
  cases h with
  | quiet hbook hquiet =>
      exact ⟨fun _ h => (by cases h), Or.inl (hquiet.unvalidated ▸ hst)⟩
  | validated a client sid' => cases hst
  | offered t => cases hst
  | drawn => cases hst
  | inserted a ip s =>
      cases hst
      exact ⟨fun _ h => (by cases h), Or.inr ⟨a, ip, s, rfl, rfl⟩⟩
  | assigned a ip sid' =>
      rw [(a.resume_ok sid').2.2.1] at hst
      cases hst
      refine ⟨fun other h => ?_, Or.inl rfl⟩
      obtain ⟨vpnIp, -, h⟩ := Option.map_eq_some_iff.1 h
      cases h
  | rolledBack g hst' howns hassigned hunvalidated =>
      rw [hunvalidated] at hst
      cases hst
  | cleaned => cases hst
  | marked => cases hst
  | removed => cases hst

/-- A session is validated by the call that owns it. -/
theorem owns_of_valid (h : LockSection addr call st g st' g' ms) {sid : SessionId}
    (hms : ms = some (.valid sid)) : st.owns = some sid := by
  cases h with
  | quiet => cases hms
  | validated a client sid' =>
      cases hms
      rfl
  | @offered client sid' t g ht =>
      cases hms
      rfl
  | drawn => cases hms
  | inserted => cases hms
  | assigned a ip sid' =>
      obtain ⟨vpnIp, -, h⟩ := Option.map_eq_some_iff.1 hms
      cases h
  | rolledBack => cases hms
  | cleaned client t =>
      obtain ⟨vpnIp, -, h⟩ := Option.map_eq_some_iff.1 hms
      cases h
  | marked => cases hms
  | removed => cases hms

end LockSection

namespace Pool

section

variable {P : Primitives} {rng : Randomness} {cfg : GatewayConfig} {workerCount : Nat}

theorem Accounted.move {p : Pool} (hp : p.Accounted) {i : Nat} {st : Stage} {g : Gateway}
    {ms : Option Milestone} (hi : i < p.arrived)
    (h : LockSection (p.calls i).clientAddr i (p.calls i).stage p.gateway st g ms) :
    (p.move i st g ms).Accounted where
  ownership := hp.ownership.move hi h
  live := by
    intro sid hsid
    rcases h.sessions_mem hsid with hold | ⟨a, ip, s, hst, rfl⟩
    · rcases hp.live sid hold with hvalid | ⟨j, hj⟩
      · exact Or.inl (List.mem_append_right _ hvalid)
      by_cases hji : j = i
      · subst hji
        rcases h.live_unvalidated hsid hj with hst | hms
        · exact Or.inr ⟨j, by rw [move_stage, if_pos rfl, hst]⟩
        · exact Or.inl (List.mem_append_left _ (Option.mem_toList.2 hms))
      · exact Or.inr ⟨j, by rw [move_stage, if_neg hji, hj]⟩
    · -- the call has just inserted the session
      refine Or.inr ⟨i, ?_⟩
      rw [move_stage, if_pos rfl]
      rw [hst] at h
      cases h with
      | quiet hbook hquiet => exact hquiet.quiet.elim
      | inserted => rfl
      | rolledBack g hst' => rcases hst' with ⟨a, ha⟩ | ⟨client, ha⟩ <;> cases ha
  unvalidated := by
    intro j sid hj hmem
    rw [move_stage] at hj
    have hold : .valid sid ∉ p.milestones := by
      by_cases hji : j = i
      · rw [if_pos hji] at hj
        rcases (h.unvalidated_cases hj).2 with hst | ⟨a, ip, s, hst, rfl⟩
        · exact hp.unvalidated i sid hst
        · intro hvalid
          exact (hp.ownership.reached _ hvalid).inserted i a ip s hst rfl
      · rw [if_neg hji] at hj
        exact hp.unvalidated j sid hj
    rcases List.mem_append.1 hmem with hnew | hmem
    · have hms : ms = some (.valid sid) := Option.mem_toList.1 hnew
      by_cases hji : j = i
      · rw [if_pos hji] at hj
        exact (h.unvalidated_cases hj).1 sid hms
      · rw [if_neg hji] at hj
        exact hji (hp.ownership.unique j i sid (Stage.owns_of_unvalidated hj)
          (h.owns_of_valid hms))
    · exact hold hmem

theorem Accounted.step {p : Pool} (hp : p.Accounted) (e : Env × Event) :
    (p.step P rng cfg workerCount e).Accounted := by
  have howner := hp.ownership.step P rng cfg workerCount e
  rcases step_cases P rng cfg workerCount p e with
    ⟨packetData, addr, -, hstep⟩ | ⟨i, st, g, ms, -, hready, hsec, hstep, -⟩ | ⟨t, -, hstep⟩ |
    ⟨-, hstep⟩
  · rw [hstep] at howner ⊢
    -- the number of the new call was free
    have hold : ∀ j sid, (p.calls j).stage.unvalidated = some sid → j ≠ p.arrived := by
      rintro j sid hj rfl
      have hfinished := hp.ownership.arrived p.arrived le_rfl
      cases hst : (p.calls p.arrived).stage with
      | finished r =>
          rw [hst] at hj
          cases hj
      | _ =>
          rw [hst] at hfinished
          cases hfinished
    refine ⟨howner, fun sid hsid => ?_, fun j sid hj => ?_⟩
    · rcases hp.live sid hsid with hvalid | ⟨j, hj⟩
      · exact Or.inl hvalid
      · exact Or.inr ⟨j, by simp only [Function.update_of_ne (hold j sid hj), hj]⟩
    · by_cases hji : j = p.arrived
      · subst hji
        simp only [Function.update_self] at hj
        cases hj
      · simp only [Function.update_of_ne hji] at hj
        exact hp.unvalidated j sid hj
  · rw [hstep]
    exact hp.move hready.1 hsec
  · rw [hstep] at howner ⊢
    refine ⟨howner, fun sid hsid => hp.live sid ?_, hp.unvalidated⟩
    exact List.Subperm.subset (task_sessions P rng cfg e.1 t p.gateway).2 hsid
  · rw [hstep]
    exact hp

theorem accounted_of_run (serverKeys : KeyPair) (signingKey : Key)
    (clientDb : Option (List ClientConfig)) (es : List (Env × Event)) :
    (runFrom (Pool.step P rng cfg workerCount)
      (start (Gateway.new serverKeys signingKey clientDb)) es).Accounted := by
  refine runFrom_invariant (fun _ e hp => hp.step e) ⟨Ownership.start fun _ h => ?_, ?_, ?_⟩ es
  · cases h
  · intro sid h
    cases h
  · intro i sid h
    cases h

end

end Pool

/-- The session that an address leads to is a validated one exactly when no call that has created
it is still to validate it. -/
theorem returns_validated_iff (P : Primitives) (rng : Randomness) (cfg : GatewayConfig)
    (workerCount : Nat) (serverKeys : KeyPair) (signingKey : Key)
    (clientDb : Option (List ClientConfig)) (es : List (Env × Pool.Event)) (ip : Ipv4Addr) :
    let p := runFrom (Pool.step P rng cfg workerCount)
      (Pool.start (Gateway.new serverKeys signingKey clientDb)) es
    (∀ sid, p.gateway.sessionManager.getSessionByVpnIp ip = some sid →
      .valid sid ∈ p.milestones) ↔
    ¬ ∃ i sid, (p.calls i).stage.unvalidated = some sid ∧
      p.gateway.sessionManager.vpnIpMap ip = some sid ∧
      sid ∈ p.gateway.sessionManager.sessions := by
  intro p
  have haccounted : p.Accounted := Pool.accounted_of_run serverKeys signingKey clientDb es
  constructor
  · rintro hall ⟨i, sid, hi, hmap, hlive⟩
    refine haccounted.unvalidated i sid hi (hall sid ?_)
    unfold SessionManager.getSessionByVpnIp
    rw [hmap]
    exact if_pos hlive
  · intro hnone sid hget
    unfold SessionManager.getSessionByVpnIp at hget
    split at hget
    · next sid' hmap =>
        split_ifs at hget with hlive
        cases hget
        -- a live session that is not validated is still in the hands of a call
        rcases haccounted.live sid hlive with hvalid | ⟨i, hi⟩
        · exact hvalid
        · exact absurd ⟨i, sid, hi, hmap, hlive⟩ hnone
    · cases hget

/-- The sample client connects, and a stranger's datagram has got as far as its VPN address. -/
def sampleDiverted : Pool :=
  runFrom (Pool.step samplePrimitives sampleRandomness sampleConfig 16)
    (Pool.start (Gateway.new sampleServerKeys default (some [sampleClient])))
    ((sampleEnv 100, .arrive (sampleInit (some sampleClient.psk) 100) sampleAddr) ::
      List.replicate 14 (sampleEnv 100, .advance 0) ++
      (sampleEnv 100, .arrive sampleFlood sampleOtherAddr) ::
        List.replicate 7 (sampleEnv 100, .advance 1))

/-- While the stranger's datagram is tried with the PSK of the connected client, the packets for
the client go to the stranger's address. -/
theorem stranger_diverts_traffic :
    .valid 0 ∈ sampleDiverted.milestones ∧
    0 ∈ sampleDiverted.gateway.sessionManager.sessions ∧
    (sampleDiverted.gateway.session 0).clientId = some sampleClient.id ∧
    sampleDiverted.gateway.sessionManager.getSessionByVpnIp sampleClient.vpnIp = some 1 ∧
    (sampleDiverted.gateway.session 1).clientAddr = sampleOtherAddr ∧
    .valid 1 ∉ sampleDiverted.milestones := by
  decide +kernel

end Aivpn
