import Aivpn.Server.Lookup

/-!
# What the stages of a packet leave alone

The routing of the gateway is its session map with the routes and the next session id. The stages
of `handle_packet` behind the identification of the session leave it alone, with one exception: a
Shutdown removes its session (`routing_processInnerPayload`). So the session of a datagram is live
when its inner packet is processed (`receivePacket_live`).
-/

set_option autoImplicit false

namespace Aivpn

open Aivpn.Lib

namespace SessionManager

variable {P : Primitives} {rng : Randomness}

/-! ## The session map -/

theorem mem_removeSession {m : SessionManager} {sid sid' : SessionId} :
    sid' ∈ (m.removeSession sid).sessions ↔ sid' ∈ m.sessions ∧ sid' ≠ sid := by
  unfold removeSession
  split_ifs with hmem
  · simp
  · constructor
    · intro h
      exact ⟨h, fun heq => hmem (heq ▸ h)⟩
    · exact fun h => h.1

theorem mem_removeSessions {m : SessionManager} {sids : List SessionId} {sid : SessionId} :
    sid ∈ (m.removeSessions sids).sessions ↔ sid ∈ m.sessions ∧ sid ∉ sids := by
  induction sids generalizing m with
  | nil => simp [removeSessions]
  | cons sid' rest ih =>
      show sid ∈ (removeSessions (m.removeSession sid') rest).sessions ↔ _
      rw [ih, mem_removeSession, List.mem_cons]
      tauto

/-- A session is opened under the next id, and only sessions of its VPN address go. -/
theorem mem_establish {m : SessionManager} {sid sid' : SessionId} {psk : Option Key} :
    sid' ∈ (m.establish sid psk).sessions ↔ sid' ∈ m.sessions ∧
      (sid' = sid ∨ (m.heap sid).vpnIp = none ∨ (m.heap sid').vpnIp ≠ (m.heap sid).vpnIp) := by
  unfold establish cleanupOldSessionsForVpnIp
  simp only
  split
  · next ip hip =>
      rw [mem_removeSessions, List.mem_filter]
      simp only [hip, decide_eq_true_eq]
      constructor
      · rintro ⟨hmem, hnot⟩
        refine ⟨hmem, ?_⟩
        by_cases heq : sid' = sid
        · exact Or.inl heq
        · exact Or.inr (Or.inr fun hvpn => hnot ⟨hmem, hvpn, heq⟩)
      · rintro ⟨hmem, hcase⟩
        refine ⟨hmem, ?_⟩
        rintro ⟨-, hvpn, hne⟩
        rcases hcase with heq | hnone | hne'
        · exact hne heq
        · cases hnone
        · exact hne' hvpn
  · next hip => simp [hip]

/-- A `create_session` that succeeds found room, takes the next session id, and registers a new
session. -/
theorem createSession_ok {env : Env} {m m' : SessionManager} {addr : SocketAddr} {ephPub : Key}
    {psk : Option Key} {ip : Option Ipv4Addr} {sid : SessionId}
    (h : m.createSession P rng env addr ephPub psk ip = (.ok sid, m')) :
    m.sessions.length < maxSessions ∧ m.ipCount addr < 5 ∧ sid = m.nextId ∧
    ∃ dh1 dh2, P.computeShared m.serverKeys ephPub = .ok dh1 ∧
      P.computeShared (P.fromPrivateKey (rng.serverEph m.nextId)) ephPub = .ok dh2 ∧
      m' = m.register (m.initialSession P env addr ephPub (P.deriveSessionKeys dh1 psk ephPub)
          (P.fromPrivateKey (rng.serverEph m.nextId)) dh2)
        (m.assignVpnIp ip (m.reusedVpnIp addr)).1 (m.assignVpnIp ip (m.reusedVpnIp addr)).2 := by
  unfold createSession at h
  split_ifs at h with hmax hip
  · cases (Prod.mk.inj h).1
  · cases (Prod.mk.inj h).1
  · split at h
    · cases (Prod.mk.inj h).1
    · next dh1 hdh1 =>
        simp only at h
        split at h
        · cases (Prod.mk.inj h).1
        · next dh2 hdh2 =>
            obtain ⟨hsid, hm⟩ := Prod.mk.inj h
            exact ⟨by omega, by omega, (Except.ok.inj hsid).symm, dh1, dh2, hdh1, hdh2, hm.symm⟩

theorem register_sessions (m : SessionManager) (s : Session) (ip : Option Ipv4Addr) (octet : Nat) :
    (m.register s ip octet).sessions = m.sessions ++ [m.nextId] := rfl

theorem createSession_sessions {env : Env} {m m' : SessionManager} {addr : SocketAddr}
    {ephPub : Key} {psk : Option Key} {ip : Option Ipv4Addr} {sid : SessionId}
    (h : m.createSession P rng env addr ephPub psk ip = (.ok sid, m')) :
    m'.sessions = m.sessions ++ [m.nextId] ∧ m'.nextId = m.nextId + 1 ∧ sid = m.nextId := by
  obtain ⟨-, -, hsid, dh1, dh2, -, -, rfl⟩ := createSession_ok h
  exact ⟨rfl, rfl, hsid⟩

/-- An accepted session is live. -/
theorem establish_live {env : Env} {m m' : SessionManager} {addr : SocketAddr} {ephPub : Key}
    {psk : Option Key} {ip : Option Ipv4Addr} {sid : SessionId}
    (h : m.createSession P rng env addr ephPub psk ip = (.ok sid, m')) (psk' : Option Key) :
    sid ∈ (m'.establish sid psk').sessions := by
  obtain ⟨hsessions, -, rfl⟩ := createSession_sessions h
  rw [mem_establish, hsessions]
  exact ⟨by simp, Or.inl rfl⟩

@[simp] theorem removeSession_heap (m : SessionManager) (sid : SessionId) :
    (m.removeSession sid).heap = m.heap := by
  unfold removeSession
  split_ifs <;> rfl

@[simp] theorem removeSessions_heap (m : SessionManager) (sids : List SessionId) :
    (m.removeSessions sids).heap = m.heap := by
  induction sids generalizing m with
  | nil => rfl
  | cons sid rest ih =>
      show (removeSessions (m.removeSession sid) rest).heap = m.heap
      rw [ih, removeSession_heap]

@[simp] theorem establish_heap (m : SessionManager) (sid : SessionId) (psk : Option Key) :
    (m.establish sid psk).heap = m.heap := by
  unfold establish cleanupOldSessionsForVpnIp
  simp only
  split
  · exact removeSessions_heap m _
  · rfl

@[simp] theorem rollbackFailedSession_heap (m : SessionManager) (sid : SessionId) :
    (m.rollbackFailedSession sid).heap = m.heap := by
  unfold rollbackFailedSession
  simp only
  split
  · exact removeSession_heap m sid
  · split
    · exact removeSession_heap m sid
    · exact removeSession_heap m sid

/-- A new session belongs to no client yet. -/
theorem createSession_clientId {env : Env} {m m' : SessionManager} {addr : SocketAddr}
    {ephPub : Key} {psk : Option Key} {ip : Option Ipv4Addr} {sid : SessionId}
    (h : m.createSession P rng env addr ephPub psk ip = (.ok sid, m')) :
    (m'.heap sid).clientId = none := by
  obtain ⟨-, -, rfl, dh1, dh2, -, -, rfl⟩ := createSession_ok h
  show (Function.update m.heap m.nextId _ m.nextId).clientId = none
  rw [Function.update_self]
  unfold initialSession Session.updateRatchetedTagWindow
  simp only
  split <;> rfl

@[simp] theorem refreshSessionTags_sessions (m : SessionManager) (sid : SessionId) :
    (m.refreshSessionTags sid).sessions = m.sessions := by
  unfold refreshSessionTags
  split_ifs <;> rfl

@[simp] theorem refreshSessionTags_nextId (m : SessionManager) (sid : SessionId) :
    (m.refreshSessionTags sid).nextId = m.nextId := by
  unfold refreshSessionTags
  split_ifs <;> rfl

@[simp] theorem refreshSessionTags_vpnIpMap (m : SessionManager) (sid : SessionId) :
    (m.refreshSessionTags sid).vpnIpMap = m.vpnIpMap := by
  unfold refreshSessionTags
  split_ifs <;> rfl

end SessionManager

namespace Gateway

open Action

variable (P : Primitives) (rng : Randomness) (env : Env)

/-- The part of the gateway that decides which sessions are live and where addresses go. -/
def routing (g : Gateway) : List SessionId × (Ipv4Addr → Option SessionId) × SessionId :=
  (g.sessionManager.sessions, g.sessionManager.vpnIpMap, g.sessionManager.nextId)

theorem keeps_routing_sendTo (sid : SessionId) (packet : Bytes) (addr : SocketAddr) :
    Keeps routing (sendTo env sid packet addr) := by
  unfold sendTo
  split_ifs
  · exact fun _ => rfl
  · exact keeps_throw _

theorem keeps_routing_sendServerHello (sid : SessionId) (addr : SocketAddr) :
    Keeps routing (sendServerHello P rng env sid addr) := by
  unfold sendServerHello
  refine Keeps.bind (keeps_gets _) fun s => ?_
  split
  · exact Keeps.bind (fun _ => rfl) fun packet => keeps_routing_sendTo env sid packet addr
  · exact keeps_throw _

theorem keeps_routing_recordClient (sid : SessionId) (client : Option ClientConfig) :
    Keeps routing (recordClient sid client) := by
  cases client with
  | none => exact keeps_pure _
  | some client => exact Keeps.bind (fun _ => rfl) fun _ => fun _ => rfl

/-- The session map behind an accepted handshake is that of `establish`. -/
theorem routing_acceptHandshake (sid : SessionId) (client : Option ClientConfig)
    (addr : SocketAddr) (g : Gateway) :
    routing (acceptHandshake P rng env sid client addr g).2 =
      routing { g with sessionManager :=
        g.sessionManager.establish sid (client.map ClientConfig.psk) } := by
  have htail : Keeps routing (do
      modify fun g : Gateway => { g with
        handshakeCooldowns := Function.update g.handshakeCooldowns addr.ip none }
      recordClient sid client
      sendServerHello P rng env sid addr) :=
    Keeps.bind (fun _ => rfl) fun _ => Keeps.bind (keeps_routing_recordClient sid client) fun _ =>
      keeps_routing_sendServerHello P rng env sid addr
  exact htail _

theorem keeps_routing_sendControlMessage (payload : ControlPayload) (sid : SessionId) :
    Keeps routing (sendControlMessage P rng env payload sid) := by
  unfold sendControlMessage
  refine Keeps.bind (fun _ => rfl) fun seqNum => ?_
  refine Keeps.bind (fun _ => rfl) fun packet => ?_
  exact Keeps.bind (keeps_gets _) fun s => keeps_routing_sendTo env sid packet _

theorem keeps_routing_ratchet (t : TagMatch) : Keeps routing (ratchet t) := by
  unfold ratchet
  split_ifs
  · intro g
    have hmap : ∀ m : SessionManager, (m.completeSessionRatchet t.sessionId).sessions = m.sessions ∧
        (m.completeSessionRatchet t.sessionId).vpnIpMap = m.vpnIpMap ∧
        (m.completeSessionRatchet t.sessionId).nextId = m.nextId := by
      intro m
      unfold SessionManager.completeSessionRatchet
      split_ifs <;> exact ⟨rfl, rfl, rfl⟩
    obtain ⟨h1, h2, h3⟩ := hmap g.sessionManager
    simp [routing, modifyManager, h1, h2, h3]
  · exact keeps_pure _

theorem keeps_routing_receive (t : TagMatch) (addr : SocketAddr) (len : Nat) :
    Keeps routing (manager fun m => m.receive P env t addr len) := by
  intro g
  unfold manager routing SessionManager.receive
  simp only [update_apply]
  split_ifs <;> simp [SessionManager.setSession]

theorem keeps_routing_recordTraffic (flush : Option (String × Nat)) :
    Keeps routing (recordTraffic flush) := by
  cases flush with
  | none => exact keeps_pure _
  | some flush =>
      unfold recordTraffic
      refine Keeps.bind (keeps_gets _) fun clientDb => ?_
      split_ifs
      · exact fun _ => rfl
      · exact keeps_pure _

/-- What comes of a control message: nothing, an answer, or the end of the session. -/
theorem handleControlMessage_cases (payload : Bytes) (sid : SessionId) (addr : SocketAddr)
    (g : Gateway) :
    (handleControlMessage P rng env payload sid addr g).2 = g ∨
    (∃ control, (handleControlMessage P rng env payload sid addr g).2 =
      (sendControlMessage P rng env control sid g).2) ∨
    (handleControlMessage P rng env payload sid addr g).2 =
      (sendServerHello P rng env sid addr g).2 ∨
    ∃ reason, ControlPayload.decode payload = .ok (.shutdown reason) ∧
      (handleControlMessage P rng env payload sid addr g).2 =
        { g with sessionManager := g.sessionManager.removeSession sid } := by
  unfold handleControlMessage
  cases hdec : ControlPayload.decode payload with
  | error e => exact Or.inl rfl
  | ok control =>
      rw [bind_of_ok (ofExec_apply _ _)]
      cases control with
      | keepalive =>
          simp only
          rw [bind_of_ok (gets_apply _ _)]
          split_ifs
          · exact Or.inr (Or.inl ⟨_, rfl⟩)
          · exact Or.inr (Or.inr (Or.inl rfl))
      | telemetryRequest flags => exact Or.inr (Or.inl ⟨_, rfl⟩)
      | shutdown reason => exact Or.inr (Or.inr (Or.inr ⟨reason, rfl, rfl⟩))
      | keyRotate key => exact Or.inl rfl
      | maskUpdate mask signature => exact Or.inl rfl
      | telemetryResponse loss rtt jitter buffer => exact Or.inl rfl
      | timeSync ts => exact Or.inl rfl
      | controlAck seq subtype => exact Or.inl rfl
      | serverHello key signature => exact Or.inl rfl

/-- What comes of an inner payload: it is dropped or written to the TUN device, it is answered, or it is
a Shutdown, which removes the session. -/
theorem processInnerPayload_cases (cfg : GatewayConfig) (plaintext : Bytes) (sid : SessionId)
    (addr : SocketAddr) (g : Gateway) :
    (processInnerPayload P rng cfg env plaintext sid addr g).2 = g ∨
    (∃ payload, (processInnerPayload P rng cfg env plaintext sid addr g).2 =
      { g with effects := .tunWrite payload :: g.effects }) ∨
    (∃ control, (processInnerPayload P rng cfg env plaintext sid addr g).2 =
      (sendControlMessage P rng env control sid g).2) ∨
    (processInnerPayload P rng cfg env plaintext sid addr g).2 =
      (sendServerHello P rng env sid addr g).2 ∨
    ∃ header reason, InnerHeader.decode plaintext = .ok header ∧ header.innerType = .control ∧
      ControlPayload.decode (plaintext.drop 4) = .ok (.shutdown reason) ∧
      (processInnerPayload P rng cfg env plaintext sid addr g).2 =
        { g with sessionManager := g.sessionManager.removeSession sid } := by
  unfold processInnerPayload
  split
  · exact Or.inl rfl
  cases hdec : InnerHeader.decode plaintext with
  | error e => exact Or.inl rfl
  | ok header =>
      rw [bind_of_ok (ofExec_apply _ _)]
      cases htype : header.innerType with
      | data =>
          simp only
          split_ifs
          · exact Or.inr (Or.inl ⟨_, rfl⟩)
          · exact Or.inl rfl
      | fragment => exact Or.inl rfl
      | ack => exact Or.inl rfl
      | control =>
          rcases handleControlMessage_cases P rng env (plaintext.drop 4) sid addr g with
            heq | ⟨control, heq⟩ | heq | ⟨reason, hreason, heq⟩
          · exact Or.inl heq
          · exact Or.inr (Or.inr (Or.inl ⟨control, heq⟩))
          · exact Or.inr (Or.inr (Or.inr (Or.inl heq)))
          · exact Or.inr (Or.inr (Or.inr (Or.inr ⟨header, reason, rfl, htype, hreason, heq⟩)))

/-- An inner packet leaves the session map alone or, when it is a Shutdown, removes its session. -/
theorem routing_processInnerPayload (cfg : GatewayConfig) (plaintext : Bytes) (sid : SessionId)
    (addr : SocketAddr) (g : Gateway) :
    routing (processInnerPayload P rng cfg env plaintext sid addr g).2 = routing g ∨
      routing (processInnerPayload P rng cfg env plaintext sid addr g).2 =
        routing { g with sessionManager := g.sessionManager.removeSession sid } := by
  rcases processInnerPayload_cases P rng env cfg plaintext sid addr g with
    heq | ⟨payload, heq⟩ | ⟨control, heq⟩ | heq | ⟨header, reason, -, -, -, heq⟩
  · rw [heq]
    exact Or.inl rfl
  · rw [heq]
    exact Or.inl rfl
  · rw [heq]
    exact Or.inl (keeps_routing_sendControlMessage P rng env control sid g)
  · rw [heq]
    exact Or.inl (keeps_routing_sendServerHello P rng env sid addr g)
  · rw [heq]
    exact Or.inr rfl

theorem receivePacket_short {packetData : Bytes} (hlen : packetData.length < tagSize + 2)
    (addr : SocketAddr) (g : Gateway) :
    receivePacket P rng env packetData addr g = (err (.invalidPacket "Too short"), g) := by
  unfold receivePacket
  rw [if_pos hlen]
  rfl

/-- `handle_packet` up to `process_inner_payload` leaves the session map as the identification of
the session left it, and goes on only with a payload that decrypts. -/
theorem receivePacket_cases {packetData : Bytes} (hlen : ¬ packetData.length < tagSize + 2)
    {addr : SocketAddr} {g g' : Gateway} {r : Outcome (TagMatch × Bytes)}
    (h : receivePacket P rng env packetData addr g = (r, g')) :
    routing g' = routing (identify P rng env packetData addr g).2 ∧
      ∀ t plaintext, r = .ok (t, plaintext) →
        (identify P rng env packetData addr g).1 = .ok t ∧ ∃ padded,
          decryptDatagram P ((identify P rng env packetData addr g).2.session t.sessionId) t
            packetData = .ok padded := by
  unfold receivePacket at h
  rw [if_neg hlen] at h
  rcases hid : identify P rng env packetData addr g with ⟨e | t, g₁⟩
  · rw [bind_of_error hid] at h
    cases h
    exact ⟨rfl, fun t plaintext hr => by cases hr⟩
  · rw [bind_of_ok hid, bind_of_ok (gets_apply _ _)] at h
    simp only
    cases hdec : decryptDatagram P (g₁.session t.sessionId) t packetData with
    | error e =>
        rw [hdec, bind_of_error (ofExcept_error _ _)] at h
        cases h
        exact ⟨rfl, fun t plaintext hr => by cases hr⟩
    | ok padded =>
        rw [hdec, bind_of_ok (ofExcept_ok _ _)] at h
        -- behind the decryption nothing touches the routing
        constructor
        · have htail : Keeps routing (do
              ratchet t
              let plaintext ← ofExcept (stripPadding padded)
              let flush ← manager fun m => m.receive P env t addr packetData.length
              recordTraffic flush
              pure (t, plaintext)) := by
            refine Keeps.bind (keeps_routing_ratchet t) fun _ => ?_
            refine Keeps.bind (keeps_ofExcept _) fun plaintext => ?_
            refine Keeps.bind (keeps_routing_receive P env t addr _) fun flush => ?_
            exact Keeps.bind (keeps_routing_recordTraffic flush) fun _ => keeps_pure _
          have hg := htail g₁
          rw [h] at hg
          exact hg
        · rintro t' plaintext rfl
          obtain ⟨_, _, -, h⟩ := bind_eq_ok.1 h
          obtain ⟨_, _, -, h⟩ := bind_eq_ok.1 h
          obtain ⟨_, _, -, h⟩ := bind_eq_ok.1 h
          obtain ⟨_, _, -, h⟩ := bind_eq_ok.1 h
          cases h
          exact ⟨rfl, padded, hdec⟩

/-- A datagram that was found to belong to a live session was found by the lookup chain. -/
theorem identify_found {packetData : Bytes} {addr : SocketAddr} {g g' : Gateway} {t : TagMatch}
    (h : identify P rng env packetData addr g = (.ok t, g')) (hnew : t.isNewSession = false) :
    ∃ m, g.sessionManager.findSession P env (readArray 8 0 packetData) addr.ip =
        (.ok (some (t.sessionId, t.counter, t.isRatchetedTag)), m) ∧
      g' = { g with sessionManager := m } := by
  unfold identify at h
  rcases hfs : g.sessionManager.findSession P env (readArray 8 0 packetData) addr.ip with ⟨r, m⟩
  rcases r with e | _ | ⟨sid, counter, isRatcheted⟩
  · rw [bind_of_error (managerExcept_of_error hfs)] at h
    cases h
  · rw [bind_of_ok (managerExcept_of_ok hfs)] at h
    simp only [handshake] at h
    obtain ⟨_, _, -, h⟩ := bind_eq_ok.1 h
    obtain ⟨_, _, -, h⟩ := bind_eq_ok.1 h
    cases h
    cases hnew
  · rw [bind_of_ok (managerExcept_of_ok hfs)] at h
    cases h
    exact ⟨m, rfl, rfl⟩

/-- The session of a datagram that opened none is live. -/
theorem receivePacket_live {packetData : Bytes} (hlen : ¬ packetData.length < tagSize + 2)
    {addr : SocketAddr} {g g' : Gateway} {t : TagMatch} {plaintext : Bytes}
    (h : receivePacket P rng env packetData addr g = (.ok (t, plaintext), g'))
    (hnew : t.isNewSession = false) : t.sessionId ∈ g'.sessionManager.sessions := by
  obtain ⟨hrouting, hok⟩ := receivePacket_cases P rng env hlen h
  obtain ⟨hid, -⟩ := hok t plaintext rfl
  rcases hr : identify P rng env packetData addr g with ⟨r, g₁⟩
  rw [hr] at hid hrouting
  cases hid
  obtain ⟨m, hfs, rfl⟩ := identify_found P rng env hr hnew
  have hsessions : g'.sessionManager.sessions = m.sessions := congrArg Prod.fst hrouting
  have hmap := (g.sessionManager.findSession_map P env (readArray 8 0 packetData) addr.ip).1
  rw [hfs] at hmap
  rw [hsessions, hmap]
  exact SessionManager.findSession_mem P hfs

end Gateway

end Aivpn
