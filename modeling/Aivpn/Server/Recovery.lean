import Aivpn.Server.SessionLife
import Aivpn.Server.ReplayWindow
import Aivpn.Common.ClientWire

/-!
# Counter recovery in runs of the gateway

`recover_session_by_tag` is reached when neither the tag map nor a refresh of the tag windows
knows the tag. It searches upwards from a session's highest counter, and starts at that counter
itself, which it does not test for replay. In every run of the gateway no counter above the
highest one has been accepted, so recovery returns an accepted counter in one case only: the
highest counter was accepted and the tag is its tag in one of the three windows
(`recovered_not_accepted`). `recovery_accepts_replay` is such a case.
-/

set_option autoImplicit false

namespace Aivpn

open Aivpn.Lib

variable (P : Primitives)

namespace Session

/-- No recovery search of the session, past or next, runs over `u64::MAX`. -/
def RecoveryBounded (s : Session) : Prop :=
  ∀ base ∈ s.counter :: s.recoveredFrom, base + recoveryRange ≤ 2 ^ 64

theorem receive_receiveState (env : Env) (s : Session) (c : Nat) (isNew : Bool) (addr : SocketAddr)
    (len : Nat) : (s.receive P env c isNew addr len).1.counter = (s.markTagReceived c).counter ∧
      (s.receive P env c isNew addr len).1.accepted = c :: s.accepted ∧
      (s.receive P env c isNew addr len).1.recoveredFrom = s.recoveredFrom := by
  have hfrom : (s.markTagReceived c).recoveredFrom = s.recoveredFrom := by
    unfold markTagReceived
    simp only
    split_ifs <;> rfl
  have hacc := s.markTagReceived_accepted c
  unfold receive
  simp only
  generalize s.markTagReceived c = t at hfrom hacc
  rw [← hfrom, ← hacc]
  split_ifs <;> exact ⟨rfl, rfl, rfl⟩

theorem AcceptedBelow.congr {s t : Session} (h : s.AcceptedBelow) (hc : t.counter = s.counter)
    (ha : t.accepted = s.accepted) : t.AcceptedBelow := by
  intro c hmem
  rw [ha] at hmem
  rw [hc]
  exact h c hmem

/-- As long as the recovery searches of a session stay in range, each of its changes keeps the
accepted counters at or below the highest one. -/
theorem Change.acceptedBelow {e : Env × Gateway.Event} {s s' : Session}
    (hch : Session.Change P e s s')
    (h : (∀ base ∈ s.recoveredFrom, base + recoveryRange ≤ 2 ^ 64) → s.AcceptedBelow)
    (hfrom : ∀ base ∈ s'.recoveredFrom, base + recoveryRange ≤ 2 ^ 64) : s'.AcceptedBelow := by
  cases hch with
  | refresh =>
      have hsame : ((s.updateTagWindow P e.1.timeWindow).updateRatchetedTagWindow P
          e.1.timeWindow).recoveredFrom = s.recoveredFrom := by
        unfold updateRatchetedTagWindow
        split <;> (unfold updateTagWindow; rfl)
      rw [hsame] at hfrom
      exact (h hfrom).congr (by simp) (by simp)
  -- the base that is added is the counter before the step, and the search ends `recoveryRange`
  -- above
  | @recover tag c hfind =>
      have hbase : ∀ base ∈ s.counter :: s.recoveredFrom, base + recoveryRange ≤ 2 ^ 64 := by
        simpa [recoverAt, updateTagWindow] using hfrom
      have hle := le_of_recoverySearch P hfind (hbase _ List.mem_cons_self)
      have hs := h fun base hmem => hbase base (List.mem_cons_of_mem _ hmem)
      intro x hx
      exact Nat.le_trans (hs x (by simpa [recoverAt] using hx)) (by simpa [recoverAt] using hle)
  | ratchet hkeys hopens =>
      rcases s.completeRatchet_cases with heq | hun
      · rw [heq] at hfrom ⊢
        exact h hfrom
      · exact hun.acceptedBelow
  | receive c isNew addr len =>
      obtain ⟨hcounter, hacc, hsame⟩ := s.receive_receiveState P e.1 c isNew addr len
      rw [hsame] at hfrom
      exact ((h hfrom).markTagReceived c).congr hcounter (by rw [hacc, markTagReceived_accepted])
  | identify clientId hnone => exact h hfrom
  | takeSeq => exact h hfrom
  | send => exact h hfrom

end Session

namespace SessionManager

/-- A new session has received nothing. -/
theorem Creates.unreceived {P : Primitives} {rng : Randomness} {env : Env} {m : SessionManager}
    {ephPub : Key} {psk : Option Key} {s : Session} (h : m.Creates P rng env ephPub psk s) :
    s.Unreceived := by
  obtain ⟨addr, dh1, dh2, vpnIp, -, -, rfl⟩ := h
  constructor
  · simp [initialSession, Session.new]
  · simp [initialSession, Session.new]
  · simp [initialSession, Session.new]

end SessionManager

variable (rng : Randomness) (cfg : GatewayConfig)

/-- In every run of the gateway the accepted counters of a session lie at or below its highest
one, unless a recovery search has overflowed. -/
theorem acceptedBelow_of_run (serverKeys : KeyPair) (signingKey : Key)
    (clientDb : Option (List ClientConfig)) (es : List (Env × Gateway.Event)) (sid : SessionId)
    (hbound : ((runFrom (Gateway.step P rng cfg) (Gateway.new serverKeys signingKey clientDb)
      es).session sid).RecoveryBounded) :
    ((runFrom (Gateway.step P rng cfg) (Gateway.new serverKeys signingKey clientDb)
      es).session sid).AcceptedBelow := by
  have hrun := @Gateway.session_of_change P rng cfg
    (fun s => (∀ base ∈ s.recoveredFrom, base + Session.recoveryRange ≤ 2 ^ 64) → s.AcceptedBelow)
    (Gateway.new serverKeys signingKey clientDb) (fun _ _ c hc => by cases hc)
    (fun env m ephPub psk s hs _ => hs.unreceived.acceptedBelow)
    (fun e s s' hs hch hfrom => hch.acceptedBelow P hs hfrom) es sid
  exact hrun fun base hmem => hbound base (List.mem_cons_of_mem _ hmem)

/-- Neither the tag map nor a refresh of the tag windows knows the tag. -/
def FallsThrough (tw : Nat) (m : SessionManager) (tag : Tag) : Prop :=
  m.getSessionByTag tag = none ∧ (m.refreshAndFindByTag P tw tag).1 = none

instance (tw : Nat) (m : SessionManager) (tag : Tag) : Decidable (FallsThrough P tw m tag) :=
  inferInstanceAs (Decidable (_ ∧ _))

/-- If the tag falls through, no live session of the client IP has accepted its highest counter with
`tag` being the tag of that counter in one of the three windows. -/
def HighestNotReplayed (tw : Nat) (m : SessionManager) (tag : Tag) (ip : IpAddr) : Prop :=
  FallsThrough P tw m tag → ∀ sid ∈ m.sessions, (m.heap sid).clientAddr.ip = ip →
    (m.heap sid).counter ∈ (m.heap sid).accepted →
    ∀ w ∈ [tw, wrappingPred tw, wrappingAdd tw 1],
      P.generateResonanceTag (m.heap sid).keys.tagSecret (m.heap sid).counter w ≠ tag

/-- The recovery search of the session comes by the counter, in a window where the tag is its. -/
def Session.Visits (tw : Nat) (s : Session) (tag : Tag) (c : Nat) : Prop :=
  ∃ i w, i < recoveryRange ∧ w ∈ [tw, wrappingPred tw, wrappingAdd tw 1] ∧
    c = wrappingAdd s.counter i ∧ P.generateResonanceTag s.keys.tagSecret c w = tag

/-- Tags do not collide: the recovery searches of the client IP come by the tag at one counter of one
session at most. -/
def FoundOnce (tw : Nat) (m : SessionManager) (tag : Tag) (ip : IpAddr) : Prop :=
  ∀ sid ∈ m.sessions, ∀ sid' ∈ m.sessions, (m.heap sid).clientAddr.ip = ip →
    (m.heap sid').clientAddr.ip = ip → ∀ c c', (m.heap sid).Visits P tw tag c →
    (m.heap sid').Visits P tw tag c' → sid = sid' ∧ c = c'

/-- Recovery hits the only counter at which the searches come by the tag. -/
theorem recoveryHit_of_visits {tw : Nat} {m : SessionManager} {tag : Tag} {ip : IpAddr}
    (hone : FoundOnce P tw m tag ip) {sid : SessionId} (hmem : sid ∈ m.sessions)
    (hip : (m.heap sid).clientAddr.ip = ip) {c : Nat} (hc : (m.heap sid).Visits P tw tag c) :
    m.recoveryHit P tw tag ip = some (sid, c) := by
  cases hhit : m.recoveryHit P tw tag ip with
  | none =>
      -- the search of the session would find the tag
      have hnone := List.findSome?_eq_none_iff.1 hhit sid hmem
      rw [if_neg (not_not.2 hip), Option.map_eq_none_iff] at hnone
      obtain ⟨i, w, hi, hw, rfl, htag⟩ := hc
      have hwindow := List.findSome?_eq_none_iff.1 hnone w hw
      rw [Option.map_eq_none_iff, List.find?_eq_none] at hwindow
      exact absurd (decide_eq_true htag) (hwindow i (List.mem_range'_1.2 ⟨Nat.zero_le i, by omega⟩))
  | some hit =>
      obtain ⟨sid', c'⟩ := hit
      obtain ⟨hmem', hip', hfind⟩ := SessionManager.recoveryHit_mem P hhit
      obtain ⟨rfl, rfl⟩ :=
        hone sid hmem sid' hmem' hip hip' c c' hc (Session.recoverySearch_eq_some P hfind)
      rfl

/-- A recovered counter with its session, in the manager before the refresh. -/
theorem recovered_cases {tw : Nat} {m : SessionManager} {tag : Tag} {ip : IpAddr}
    {sid : SessionId} {c : Nat} {r : Bool}
    (h : ((m.refreshAndFindByTag P tw tag).2.recoverSessionByTag P tw tag ip).1 =
      some (sid, c, r)) :
    sid ∈ m.sessions ∧ (m.heap sid).clientAddr.ip = ip ∧
      (m.heap sid).recoverySearch P tw tag = some c := by
  have hhit : m.recoveryHit P tw tag ip = some (sid, c) := by
    rw [← SessionManager.recoveryHit_refresh]
    unfold SessionManager.recoverSessionByTag at h
    split at h
    · cases h
    · next sid' c' hhit =>
        simp only [Option.some.injEq, Prod.mk.injEq] at h
        obtain ⟨rfl, rfl, -⟩ := h
        exact hhit
  exact SessionManager.recoveryHit_mem P hhit

/-- On a tag that falls through, recovery returns no counter that its session has accepted. -/
def RecoverySafe (tw : Nat) (m : SessionManager) (tag : Tag) (ip : IpAddr) : Prop :=
  FallsThrough P tw m tag →
    ∀ sid c r, ((m.refreshAndFindByTag P tw tag).2.recoverSessionByTag P tw tag ip).1 =
      some (sid, c, r) → c ∉ (m.heap sid).accepted

/-- On a tag that falls through, of a counter `c` that a session has accepted, and that is the tag of
no other counter the recovery search visits, recovery does not return that session. -/
def CopyNotRecovered (tw : Nat) (m : SessionManager) (tag : Tag) (ip : IpAddr) : Prop :=
  FallsThrough P tw m tag → ∀ sid, ∀ c ∈ (m.heap sid).accepted,
    (∀ i < Session.recoveryRange, ∀ w ∈ [tw, wrappingPred tw, wrappingAdd tw 1],
      P.generateResonanceTag (m.heap sid).keys.tagSecret ((m.heap sid).counter + i) w = tag →
        (m.heap sid).counter + i = c) →
    ∀ c' r, ((m.refreshAndFindByTag P tw tag).2.recoverSessionByTag P tw tag ip).1 ≠
      some (sid, c', r)

/-- Where tags do not collide, recovery is safe only if no accepted highest counter has the tag. -/
theorem RecoverySafe.highestNotReplayed {tw : Nat} {m : SessionManager} {tag : Tag} {ip : IpAddr}
    (h : RecoverySafe P tw m tag ip) (hone : FoundOnce P tw m tag ip)
    (hbound : ∀ sid ∈ m.sessions, (m.heap sid).clientAddr.ip = ip →
      (m.heap sid).RecoveryBounded) : HighestNotReplayed P tw m tag ip := by
  intro hfall sid hmem hip hacc w hw htag
  -- the search begins at the highest counter
  have hrange := hbound sid hmem hip _ List.mem_cons_self
  have hself : (m.heap sid).counter = wrappingAdd (m.heap sid).counter 0 := by
    rw [wrappingAdd, Nat.add_zero, Nat.mod_eq_of_lt (by unfold Session.recoveryRange at hrange; omega)]
  have hvisits : (m.heap sid).Visits P tw tag (m.heap sid).counter :=
    ⟨0, w, by decide, hw, hself, htag⟩
  have hhit := recoveryHit_of_visits P hone hmem hip hvisits
  rw [← SessionManager.recoveryHit_refresh] at hhit
  refine h hfall sid (m.heap sid).counter false ?_ hacc
  unfold SessionManager.recoverSessionByTag
  rw [hhit]

/-- In every run of the gateway, counter recovery returns no accepted counter and does not accept
a copy of an accepted datagram, unless the datagram's tag falls through and is that of an accepted
highest counter; in that case it does return one, if tags do not collide. -/
theorem recovered_not_accepted (serverKeys : KeyPair) (signingKey : Key)
    (clientDb : Option (List ClientConfig)) (es : List (Env × Gateway.Event)) {m : SessionManager}
    (hm : m = (runFrom (Gateway.step P rng cfg) (Gateway.new serverKeys signingKey clientDb)
      es).sessionManager) (tw : Nat) (tag : Tag) (ip : IpAddr)
    (hbound : ∀ sid ∈ m.sessions, (m.heap sid).clientAddr.ip = ip →
      (m.heap sid).RecoveryBounded) :
    (HighestNotReplayed P tw m tag ip →
      RecoverySafe P tw m tag ip ∧ CopyNotRecovered P tw m tag ip) ∧
    (FoundOnce P tw m tag ip → RecoverySafe P tw m tag ip → HighestNotReplayed P tw m tag ip) := by
  refine ⟨fun hhigh => ?_, fun hone hsafe => hsafe.highestNotReplayed P hone hbound⟩
  -- a recovered counter lies at or above the highest one, an accepted counter at or below it
  have hsafe : RecoverySafe P tw m tag ip := by
    intro hfall sid c r hrec hacc
    obtain ⟨hmem, hip, hfind⟩ := recovered_cases P hrec
    have hbd := hbound sid hmem hip
    have hbelow : (m.heap sid).AcceptedBelow := by
      subst hm
      exact acceptedBelow_of_run P rng cfg serverKeys signingKey clientDb es sid hbd
    have hge := Session.le_of_recoverySearch P hfind (hbd _ List.mem_cons_self)
    have heq : c = (m.heap sid).counter := Nat.le_antisymm (hbelow c hacc) hge
    obtain ⟨i, w, -, hw, -, htag⟩ := Session.recoverySearch_eq_some P hfind
    subst heq
    exact hhigh hfall sid hmem hip hacc w hw htag
  refine ⟨hsafe, fun hfall sid c hc honly c' r hrec => ?_⟩
  obtain ⟨hmem, hip, hfind⟩ := recovered_cases P hrec
  obtain ⟨i, w, hi, hw, hc', htag⟩ := Session.recoverySearch_eq_some P hfind
  have hrange := hbound sid hmem hip _ List.mem_cons_self
  have hnowrap : c' = (m.heap sid).counter + i := by
    rw [hc', wrappingAdd, Nat.mod_eq_of_lt (by omega)]
  have heq : c' = c := by
    rw [hnowrap] at htag ⊢
    exact honly i hi w hw htag
  exact hsafe hfall sid c' r hrec (heq ▸ hc)

/-! ## A replay accepted through recovery -/

/-- A server key pair. -/
def sampleServerKeys : KeyPair := samplePrimitives.fromPrivateKey (ByteArr.replicate 32 1)

/-- A client key pair. -/
def sampleClientKeys : KeyPair := samplePrimitives.fromPrivateKey (ByteArr.replicate 32 5)

/-- Server ephemeral keys that differ from session to session. -/
def sampleRandomness : Randomness where
  serverEph sid := ByteArr.replicate 32 (UInt8.ofNat (sid + 16))
  padding _ := default

/-- A gateway configuration. -/
def sampleConfig : GatewayConfig where
  enableNat := true
  tunAddr := ⟨10, 0, 0, 1⟩
  headerTemplate := [0, 1, 2, 3]

/-- The clocks in the given time window. -/
def sampleEnv (tw : Nat) : Env := ⟨tw * 10000, tw * 10000, true⟩

/-- A client address. -/
def sampleAddr : SocketAddr := ⟨.v4 ⟨192, 0, 2, 1⟩, 4000⟩

/-- The random choices of a client packet. -/
def sampleDraw : PacketRandomness := ⟨0, 0, fun _ => 0⟩

/-- The keys that the sample client and server derive from DH1. -/
def sampleInitialKeys (psk : Option Key) : SessionKeys :=
  samplePrimitives.deriveSessionKeys
    (samplePrimitives.x25519 sampleClientKeys.privateKeyBytes sampleServerKeys.publicKeyBytes) psk
    sampleClientKeys.publicKeyBytes

/-- The init datagram of the sample client, built in the given time window. -/
def sampleInit (psk : Option Key) (tw : Nat) : Bytes :=
  (buildZeroMdhPacket samplePrimitives tw sampleDraw (sampleInitialKeys psk) 0
    (buildInnerPacket .control 0 ControlPayload.keepalive.encode)
    (some (obfuscateClientEphPub samplePrimitives sampleClientKeys
      sampleServerKeys.publicKeyBytes))).1

/-- A gateway without client database, after one init datagram. The client's clock is one window
ahead of the server's. -/
def sampleAfterInit : Gateway :=
  runFrom (Gateway.step samplePrimitives sampleRandomness sampleConfig)
    (Gateway.new sampleServerKeys default none)
    [(sampleEnv 100, .packet (sampleInit none 101) sampleAddr)]

/-- One window later, a copy of the init datagram is not known to the tag map, refused as a replay
after the refresh, and then accepted by counter recovery with the counter 0 it was accepted with
before. -/
theorem recovery_accepts_replay :
    ¬ RecoverySafe samplePrimitives 101 sampleAfterInit.sessionManager
      (readArray 8 0 (sampleInit none 101)) sampleAddr.ip := by
  intro h
  exact h ⟨by decide +kernel, by decide +kernel⟩ 0 0 false (by decide +kernel) (by decide +kernel)

/-- For the tag of a counter beyond the tag window the same gateway meets the condition. -/
theorem recovered_not_accepted_counter_300 :
    let tag := samplePrimitives.generateResonanceTag (sampleInitialKeys none).tagSecret 300 101
    RecoverySafe samplePrimitives 101 sampleAfterInit.sessionManager tag sampleAddr.ip ∧
      CopyNotRecovered samplePrimitives 101 sampleAfterInit.sessionManager tag sampleAddr.ip := by
  refine (recovered_not_accepted samplePrimitives sampleRandomness sampleConfig sampleServerKeys
    default none [(sampleEnv 100, .packet (sampleInit none 101) sampleAddr)] rfl 101 _ _ ?_).1 ?_
  · show ∀ sid ∈ sampleAfterInit.sessionManager.sessions, _ → ∀ base ∈ _, _
    decide +kernel
  · show _ → ∀ sid ∈ sampleAfterInit.sessionManager.sessions, _ → _ → ∀ w ∈ _, _
    decide +kernel

end Aivpn
