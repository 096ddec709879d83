import Aivpn.Server.Recovery
import Aivpn.Server.SessionMap

/-!
# Datagrams that fail authentication

`handle_packet` looks up a session, recovers a counter or opens a session before it decrypts the
payload. When the decryption then fails, the session opened by the handshake branch stays and a
recovered counter stays; only `rollback_failed_session`, on a tag mismatch, undoes anything.
`sameSessions_iff_of_decryptFails` says when a failed decryption leaves the sessions as they were.
-/

set_option autoImplicit false

namespace Aivpn

open Aivpn.Lib Action

namespace Gateway

variable (P : Primitives) (rng : Randomness) (cfg : GatewayConfig) (env : Env)

/-- `handle_packet` finds or opens a session for the datagram, and its payload does not decrypt
under the key selected for it. -/
def DecryptFails (g : Gateway) (packetData : Bytes) (clientAddr : SocketAddr) : Prop :=
  tagSize + 2 ≤ packetData.length ∧ ∃ t g', identify P rng env packetData clientAddr g =
    (.ok t, g') ∧ decryptDatagram P (g'.session t.sessionId) t packetData =
      .error (.crypto "aead::Error")

theorem decryptFails_of_identify {g : Gateway} {packetData : Bytes} {clientAddr : SocketAddr}
    {t : TagMatch} (hlen : tagSize + 2 ≤ packetData.length)
    (hid : (identify P rng env packetData clientAddr g).1 = .ok t)
    (hdec : decryptDatagram P ((identify P rng env packetData clientAddr g).2.session t.sessionId)
      t packetData = .error (.crypto "aead::Error")) :
    DecryptFails P rng env g packetData clientAddr :=
  ⟨hlen, t, _, Prod.ext hid rfl, hdec⟩

/-- The datagram's session is found through the tag map or after the refresh, or counter recovery
finds it at the highest counter of the session, which then stays where it is. -/
def FoundInPlace (g : Gateway) (packetData : Bytes) (clientAddr : SocketAddr) : Prop :=
  let tag : Tag := readArray 8 0 packetData
  (g.sessionManager.getSessionByTag tag).isSome ∨
    (g.sessionManager.refreshAndFindByTag P env.timeWindow tag).1.isSome ∨
    ∃ sid, g.sessionManager.recoveryHit P env.timeWindow tag clientAddr.ip =
      some (sid, (g.sessionManager.heap sid).counter)

/-- On such a datagram `handle_packet` stops with the error of `decrypt_payload`, in the state in
which the session was found or opened. -/
theorem handlePacket_of_decryptFails {g g' : Gateway} {packetData : Bytes}
    {clientAddr : SocketAddr} {t : TagMatch} (hlen : tagSize + 2 ≤ packetData.length)
    (hid : identify P rng env packetData clientAddr g = (.ok t, g'))
    (hdec : decryptDatagram P (g'.session t.sessionId) t packetData =
      .error (.crypto "aead::Error")) :
    handlePacket P rng cfg env packetData clientAddr g = (err (.crypto "aead::Error"), g') := by
  have hrecv : receivePacket P rng env packetData clientAddr g =
      (err (.crypto "aead::Error"), g') := by
    unfold receivePacket
    rw [if_neg (by omega), bind_of_ok hid, bind_of_ok (gets_apply _ _), hdec]
    rfl
  unfold handlePacket
  exact bind_of_error hrecv _

include cfg in
/-- A handshake that succeeds ends with a new live session. -/
theorem handshake_opens {g g' : Gateway} {packetData : Bytes} {tag : Tag} {addr : SocketAddr}
    {t : TagMatch} (h : handshake P rng env packetData tag addr g = (.ok t, g')) :
    g.sessionManager.nextId ≤ t.sessionId ∧ t.sessionId ∈ g'.sessionManager.sessions := by
  unfold handshake at h
  obtain ⟨⟨sid, client, counter, isRatcheted⟩, g₁, hoffer, h⟩ := bind_eq_ok.1 h
  obtain ⟨_, g₂, haccept, h⟩ := bind_eq_ok.1 h
  cases h
  rcases offerSession_cases P rng cfg (env, .cleanup) hoffer with
    ⟨⟨e, he⟩, -⟩ | ⟨sid', client', counter', isRatcheted', ip, g₀, m, hr, hch, hnew, rfl⟩
  · cases he
  cases hr
  obtain ⟨hsessions, -, rfl⟩ := SessionManager.createSession_sessions hnew
  refine ⟨hch.nextId_le, ?_⟩
  have hrouting := routing_acceptHandshake P rng env g₀.sessionManager.nextId client addr
    { g₀ with sessionManager := m }
  rw [haccept] at hrouting
  have hlive : g'.sessionManager.sessions = (m.establish g₀.sessionManager.nextId
      (client.map ClientConfig.psk)).sessions := congrArg Prod.fst hrouting
  rw [hlive]
  exact SessionManager.establish_live hnew _

/-- A recovery keeps the sessions as they were exactly when it finds the highest counter. -/
theorem sameSessions_recover_iff {m : SessionManager} {tw : Nat} {tag : Tag} {ip : IpAddr}
    {sid : SessionId} {c : Nat} (hhit : m.recoveryHit P tw tag ip = some (sid, c)) :
    SameSessions m ((m.refreshAndFindByTag P tw tag).2.recoverSessionByTag P tw tag ip).2 ↔
      c = (m.heap sid).counter := by
  have hrefresh := SessionManager.sameSessions_refresh P tw m tag
  have hhit' : (m.refreshAndFindByTag P tw tag).2.recoveryHit P tw tag ip = some (sid, c) := by
    rw [SessionManager.recoveryHit_refresh, hhit]
  have hheap := SessionManager.recoverSessionByTag_of_hit P hhit'
  generalize (m.refreshAndFindByTag P tw tag).2 = m' at hrefresh hhit' hheap
  obtain ⟨hmem, -, -⟩ := SessionManager.recoveryHit_mem P hhit
  constructor
  · intro hsame
    have hview := congrArg SessionView.counter (hsame.view sid hmem)
    rw [hheap, Function.update_self] at hview
    simpa [Session.view, Session.recoverAt] using hview
  · intro hc
    have hsid : ((m'.heap sid).recoverAt P tw c).view = (m'.heap sid).view := by
      have hcounter : (m'.heap sid).counter = c :=
        (congrArg SessionView.counter (hrefresh.view sid hmem)).trans hc.symm
      simp [Session.view, Session.recoverAt, Session.updateTagWindow, hcounter]
    refine ⟨fun other => ?_, fun other hother => ?_, ?_⟩
    · rw [← hrefresh.live other]
      simp [SessionManager.recoverSessionByTag, hhit', SessionManager.setSession]
    · rw [hheap, ← hrefresh.view other hother]
      by_cases heq : other = sid
      · subst heq
        rw [Function.update_self, hsid]
      · rw [Function.update_of_ne heq]
    · rw [← hrefresh.routes]
      simp [SessionManager.recoverSessionByTag, hhit', SessionManager.setSession]

/-- When the payload does not decrypt, `handle_packet` returns the error of `decrypt_payload`, and
it leaves the sessions as they were exactly when it found the session in place. -/
theorem sameSessions_iff_of_decryptFails {g : Gateway} {packetData : Bytes}
    {clientAddr : SocketAddr} (hg : g.sessionManager.Allocated)
    (h : DecryptFails P rng env g packetData clientAddr) :
    (handlePacket P rng cfg env packetData clientAddr g).1 = err (.crypto "aead::Error") ∧
    (SameSessions g.sessionManager
      (handlePacket P rng cfg env packetData clientAddr g).2.sessionManager ↔
        FoundInPlace P env g packetData clientAddr) := by
  obtain ⟨hlen, t, g', hid, hdec⟩ := h
  rw [handlePacket_of_decryptFails P rng cfg env hlen hid hdec]
  refine ⟨rfl, ?_⟩
  unfold FoundInPlace
  simp only
  unfold identify at hid
  generalize (readArray 8 0 packetData : Tag) = tag at hid
  obtain ⟨hit, g₁, hfind, hid⟩ := bind_eq_ok.1 hid
  rcases g.sessionManager.findSession_cases P env tag clientAddr.ip with
    ⟨sid, hget, hfs | ⟨c, r, -, hfs⟩⟩ | ⟨hget, ⟨hit', href, hfs⟩ | ⟨href, hfs⟩⟩
  · rw [managerExcept_of_error hfs] at hfind
    cases hfind
  · rw [managerExcept_of_ok hfs] at hfind
    cases hfind
    cases hid
    exact iff_of_true (SameSessions.refl _) (Or.inl (by simp [hget]))
  · rw [managerExcept_of_ok hfs] at hfind
    cases hfind
    cases hid
    exact iff_of_true (SessionManager.sameSessions_refresh P _ _ _)
      (Or.inr (Or.inl (by simp [href])))
  · rw [managerExcept_of_ok hfs] at hfind
    cases hfind
    simp only [hget, href, Option.isSome_none, Bool.false_eq_true, false_or]
    cases hhit : g.sessionManager.recoveryHit P env.timeWindow tag clientAddr.ip with
    | some found =>
        obtain ⟨sid, c⟩ := found
        have hhit' := SessionManager.recoveryHit_refresh P env.timeWindow g.sessionManager tag
          clientAddr.ip
        rw [hhit] at hhit'
        have hrec : ((g.sessionManager.refreshAndFindByTag P env.timeWindow tag).2.recoverSessionByTag
            P env.timeWindow tag clientAddr.ip).1 = some (sid, c, false) := by
          simp [SessionManager.recoverSessionByTag, hhit']
        rw [hrec] at hid
        cases hid
        rw [sameSessions_recover_iff P hhit]
        constructor
        · intro hc
          exact ⟨sid, by rw [hc]⟩
        · rintro ⟨sid', heq⟩
          simp only [Option.some.injEq, Prod.mk.injEq] at heq
          obtain ⟨rfl, hc⟩ := heq
          exact hc
    | none =>
        have hrec : (g.sessionManager.refreshAndFindByTag P env.timeWindow tag).2.recoverSessionByTag
            P env.timeWindow tag clientAddr.ip =
            (none, (g.sessionManager.refreshAndFindByTag P env.timeWindow tag).2) := by
          simp [SessionManager.recoverSessionByTag, SessionManager.recoveryHit_refresh, hhit]
        rw [hrec] at hid
        -- the handshake branch: the new session is live and was not before
        obtain ⟨hnext, hlive⟩ := handshake_opens P rng cfg env hid
        refine iff_of_false (fun hsame => ?_) (by simp)
        have hmem := (hsame.live t.sessionId).1 hlive
        have hlt := hg t.sessionId hmem
        have hsameNext : (g.sessionManager.refreshAndFindByTag P env.timeWindow tag).2.nextId =
            g.sessionManager.nextId := SessionManager.refreshLoop_nextId P _ _ _ _
        exact Nat.not_le.2 hlt (hsameNext ▸ hnext)

end Gateway

/-- A datagram of the sample client without PSK with a broken ciphertext: its init for counter 0,
or a later one. -/
def sampleBroken (counter : Nat) : Bytes :=
  (buildZeroMdhPacket samplePrimitives 100 sampleDraw (sampleInitialKeys none) counter
    (buildInnerPacket .control 0 ControlPayload.keepalive.encode)
    (some (obfuscateClientEphPub samplePrimitives sampleClientKeys
      sampleServerKeys.publicKeyBytes))).1.dropLast ++ [1]

/-- For a broken init datagram a new gateway opens a session before the decryption fails, and the
session stays. -/
theorem broken_init_opens_session :
    let g := Gateway.new sampleServerKeys default none
    Gateway.DecryptFails samplePrimitives sampleRandomness (sampleEnv 100) g (sampleBroken 0)
      sampleAddr ∧
    ¬ SameSessions g.sessionManager (Gateway.handlePacket samplePrimitives sampleRandomness
      sampleConfig (sampleEnv 100) (sampleBroken 0) sampleAddr g).2.sessionManager := by
  refine ⟨?_, fun h => ?_⟩
  · exact Gateway.decryptFails_of_identify samplePrimitives sampleRandomness (sampleEnv 100)
      (t := ⟨0, 0, false, true⟩) (by decide +kernel) (by decide +kernel) (by decide +kernel)
  · have hlive := (h.live 0).1 (by decide +kernel)
    cases hlive

/-- A later broken datagram of the same client is found through the tag map and changes nothing. -/
theorem broken_copy_changes_nothing :
    SameSessions sampleAfterInit.sessionManager (Gateway.handlePacket samplePrimitives
      sampleRandomness sampleConfig (sampleEnv 100) (sampleBroken 1) sampleAddr
      sampleAfterInit).2.sessionManager := by
  have hfails : Gateway.DecryptFails samplePrimitives sampleRandomness (sampleEnv 100)
      sampleAfterInit (sampleBroken 1) sampleAddr :=
    Gateway.decryptFails_of_identify samplePrimitives sampleRandomness (sampleEnv 100)
      (t := ⟨0, 1, false, false⟩) (by decide +kernel) (by decide +kernel) (by decide +kernel)
  have halloc : sampleAfterInit.sessionManager.Allocated := by
    show ∀ sid ∈ _, _
    decide +kernel
  exact (Gateway.sameSessions_iff_of_decryptFails samplePrimitives sampleRandomness sampleConfig
    (sampleEnv 100) halloc hfails).2.2 (Or.inl (by decide +kernel))

end Aivpn
