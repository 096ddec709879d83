import Aivpn.Server.SessionLife

/-!
# `handle_packet` in lock sections

`handle_packet` takes and releases its locks several times. `Stage` says where a call stands
between two sections, with the local variables it goes on with, and `advance` runs the next
section. `create_session` takes four of them: the iteration over the session map for the limits,
the tag map, the session map, and the VPN address.

Run without interruption, the sections of a call do what `handlePacket` does (`reaches_handlePacket`).
-/

set_option autoImplicit false

namespace Aivpn

open Aivpn.Lib Action Relation

/-- A session that `handle_packet` tries to create: the client key of the datagram, the client
whose PSK is tried, if there is a database, and the clients left after it. -/
structure Attempt where
  ephPub : Key
  client : Option ClientConfig
  rest : List ClientConfig

/-- Where a call of `handle_packet` stands. -/
inductive Stage where
  /-- Before the lookup chain. -/
  | lookup
  /-- The tag is unknown: before the cooldown test. -/
  | unknownTag
  /-- The loop over the clients, with those not yet tried. -/
  | nextClient (ephPub : Key) (clients : List ClientConfig)
  /-- Before the first part of `create_session`, which reads the session map. -/
  | checkLimits (a : Attempt)
  /-- Below the limits: before the keys and the tags of the session. -/
  | publishTags (a : Attempt) (reusedVpnIp : Option Ipv4Addr)
  /-- Before the insertion of the session in the session map. -/
  | insertSession (a : Attempt) (reusedVpnIp : Option Ipv4Addr) (s : Session)
  /-- Before the VPN address of the session is chosen and mapped. -/
  | assignVpnIp (a : Attempt) (reusedVpnIp : Option Ipv4Addr) (sid : SessionId)
  /-- Before the validation in the loop over the clients. -/
  | validate (a : Attempt) (client : ClientConfig) (sid : SessionId)
  /-- The tag did not validate for this client: before the rollback. -/
  | rollback (a : Attempt) (sid : SessionId)
  /-- Before the validation behind the loop. -/
  | revalidate (client : Option ClientConfig) (sid : SessionId)
  /-- The tag did not validate behind the loop: before the rollback. -/
  | discard (client : Option ClientConfig) (sid : SessionId)
  /-- The tag is valid: before `cleanup_old_sessions_for_vpn_ip`. -/
  | cleanup (client : Option ClientConfig) (t : TagMatch)
  /-- Before the ServerHello. -/
  | welcome (client : Option ClientConfig) (t : TagMatch)
  | decrypt (t : TagMatch)
  | ratchet (t : TagMatch) (padded : Bytes)
  /-- Before the update of the session with `mark_tag_received`. -/
  | mark (t : TagMatch) (padded : Bytes)
  | inner (t : TagMatch) (plaintext : Bytes)
  | finished (r : Outcome Unit)

/-- How `handle_packet` goes on when `create_session` returns. With a database the tag is validated
in the loop over the clients, and an error moves the loop on; without one an error ends the call. -/
def Attempt.resume (a : Attempt) : Except Error SessionId → Stage
  | .ok sid => match a.client with
    | some client => .validate a client sid
    | none => .revalidate none sid
  | .error e => match a.client with
    | some _ => .nextClient a.ephPub a.rest
    | none => .finished (err e)

/-- Where a call stands when the handshake branch has got past the validation. -/
def Stage.offered : Outcome (SessionId × Option ClientConfig × Nat × Bool) → Stage
  | .ok (sid, client, counter, isRatcheted) => .cleanup client ⟨sid, counter, isRatcheted, true⟩
  | .error e => .finished (.error e)

/-- Where a call stands when the session of its datagram is known. -/
def Stage.identified : Outcome TagMatch → Stage
  | .ok t => .decrypt t
  | .error e => .finished (.error e)

namespace SessionManager

/-- The tags of a session in the making, which has drawn its id. -/
def publishTags (m : SessionManager) (s : Session) : SessionManager :=
  { m with
    nextId := m.nextId + 1
    tagMap := insertTags s.pendingTags s.sessionId (insertTags s.currentTags s.sessionId m.tagMap) }

/-- `sessions.insert` for a session in the making. -/
def insertSession (m : SessionManager) (s : Session) : SessionManager :=
  { m with
    heap := Function.update m.heap s.sessionId s
    sessions := m.sessions ++ [s.sessionId] }

/-- The last part of `create_session`: the VPN address. -/
def mapVpnIp (m : SessionManager) (sid : SessionId) (staticVpnIp reusedVpnIp : Option Ipv4Addr) :
    SessionManager :=
  let (vpnIp, nextIpOctet) := m.assignVpnIp staticVpnIp reusedVpnIp
  match vpnIp with
  | some ip => { m with
      heap := Function.update m.heap sid { m.heap sid with vpnIp := some ip }
      vpnIpMap := Function.update m.vpnIpMap ip (some sid)
      nextIpOctet := nextIpOctet }
  | none => { m with nextIpOctet := nextIpOctet }

end SessionManager

namespace Gateway

/-- The gateway with the session manager changed. -/
def withManager (g : Gateway) (m : SessionManager) : Gateway := { g with sessionManager := m }

section

variable (P : Primitives) (rng : Randomness) (cfg : GatewayConfig) (env : Env)

/-- What `handle_packet` does behind the cleanup of older sessions. -/
def welcome (client : Option ClientConfig) (sid : SessionId) (clientAddr : SocketAddr) :
    Action Gateway Error Unit := do
  modify fun g => { g with
    handshakeCooldowns := Function.update g.handshakeCooldowns clientAddr.ip none }
  recordClient sid client
  sendServerHello P rng env sid clientAddr

/-- The section that marks the counter and records the traffic. -/
def markReceived (t : TagMatch) (clientAddr : SocketAddr) (len : Nat) :
    Action Gateway Error Unit := do
  let flush ← manager fun m => m.receive P env t clientAddr len
  recordTraffic flush

/-- The next section of a call for the datagram `packetData` from `clientAddr`. -/
def advance (packetData : Bytes) (clientAddr : SocketAddr) : Stage → Gateway → Stage × Gateway
  | .lookup, g =>
      if packetData.length < tagSize + 2 then (.finished (err (.invalidPacket "Too short")), g)
      else match g.sessionManager.findSession P env (readArray 8 0 packetData) clientAddr.ip with
        | (.error e, m) => (.finished (err e), g.withManager m)
        | (.ok (some (sid, counter, isRatcheted)), m) =>
            (.decrypt ⟨sid, counter, isRatcheted, false⟩, g.withManager m)
        | (.ok none, m) => (.unknownTag, g.withManager m)
  | .unknownTag, g =>
      if cooldownActive env g clientAddr.ip then
        (.finished (err (.invalidPacket "Handshake cooldown active")), g)
      else if packetData.length < tagSize + mdhLen + 32 then
        (.finished (err (.invalidPacket "Too short for session init")), g)
      else
        let ephPub := handshakeEphPub P g.sessionManager.serverKeys.publicKeyBytes packetData
        match g.clientDb with
        | some clients => (.nextClient ephPub clients, g)
        | none => (.checkLimits ⟨ephPub, none, []⟩, g)
  | .nextClient _ [], g =>
      (.finished (err (.invalidPacket "No registered client matches this handshake")),
        failedHandshake env g clientAddr.ip)
  | .nextClient ephPub (client :: rest), g =>
      if client.enabled then (.checkLimits ⟨ephPub, some client, rest⟩, g)
      else (.nextClient ephPub rest, g)
  | .checkLimits a, g =>
      let m := g.sessionManager
      if maxSessions ≤ m.sessions.length then (a.resume (.error (.session "Max sessions reached")), g)
      else if 5 ≤ m.ipCount clientAddr then
        (a.resume (.error (.session "Per-IP session limit reached")), g)
      else (.publishTags a (m.reusedVpnIp clientAddr), g)
  | .publishTags a reusedVpnIp, g =>
      let m := g.sessionManager
      match P.computeShared m.serverKeys a.ephPub with
      | .error e => (a.resume (.error e), g)
      | .ok dh1 =>
          let initialKeys := P.deriveSessionKeys dh1 (a.client.map ClientConfig.psk) a.ephPub
          let serverEphKp := P.fromPrivateKey (rng.serverEph m.nextId)
          match P.computeShared serverEphKp a.ephPub with
          | .error e => (a.resume (.error e), g)
          | .ok dh2 =>
              let s := m.initialSession P env clientAddr a.ephPub initialKeys serverEphKp dh2
              (.insertSession a reusedVpnIp s, g.withManager (m.publishTags s))
  | .insertSession a reusedVpnIp s, g =>
      (.assignVpnIp a reusedVpnIp s.sessionId, g.withManager (g.sessionManager.insertSession s))
  | .assignVpnIp a reusedVpnIp sid, g =>
      (a.resume (.ok sid),
        g.withManager (g.sessionManager.mapVpnIp sid (a.client.map ClientConfig.vpnIp) reusedVpnIp))
  | .validate a client sid, g =>
      if ((g.session sid).validateTag P env.timeWindow (readArray 8 0 packetData)).isSome then
        (.revalidate (some client) sid, g)
      else (.rollback a sid, g)
  | .rollback a sid, g =>
      (.nextClient a.ephPub a.rest, g.withManager (g.sessionManager.rollbackFailedSession sid))
  | .revalidate client sid, g =>
      match (g.session sid).validateTag P env.timeWindow (readArray 8 0 packetData) with
      | none => (.discard client sid, g)
      | some (counter, isRatcheted) => (.cleanup client ⟨sid, counter, isRatcheted, true⟩, g)
  | .discard _ sid, g =>
      (.finished (err (.invalidPacket "Tag mismatch on new session")),
        g.withManager (g.sessionManager.rollbackFailedSession sid))
  | .cleanup client t, g =>
      (.welcome client t,
        g.withManager (g.sessionManager.establish t.sessionId (client.map ClientConfig.psk)))
  | .welcome client t, g =>
      match welcome P rng env client t.sessionId clientAddr g with
      | (.ok _, g') => (.decrypt t, g')
      | (.error e, g') => (.finished (.error e), g')
  | .decrypt t, g =>
      match decryptDatagram P (g.session t.sessionId) t packetData with
      | .error e => (.finished (err e), g)
      | .ok padded => (if t.isRatchetedTag then .ratchet t padded else .mark t padded, g)
  | .ratchet t padded, g =>
      (.mark t padded, g.withManager
        ((g.sessionManager.completeSessionRatchet t.sessionId).refreshSessionTags t.sessionId))
  | .mark t padded, g =>
      match stripPadding padded with
      | .error e => (.finished (err e), g)
      | .ok plaintext =>
          (.inner t plaintext, (markReceived P env t clientAddr packetData.length g).2)
  | .inner t plaintext, g =>
      if t.isNewSession then (.finished (.ok ()), g)
      else
        let r := processInnerPayload P rng cfg env plaintext t.sessionId clientAddr g
        (.finished r.1, r.2)
  | .finished r, g => (.finished r, g)

/-- The sections of a call, one after the other, with nothing in between. -/
abbrev Reaches (packetData : Bytes) (clientAddr : SocketAddr) :
    Stage × Gateway → Stage × Gateway → Prop :=
  ReflTransGen fun x y => advance P rng cfg env packetData clientAddr x.1 x.2 = y

end

end Gateway

/-! ## The sections of `create_session` -/

theorem SessionManager.initialSession_new (P : Primitives) (env : Env) (m : SessionManager)
    (clientAddr : SocketAddr) (ephPub : Key) (initialKeys : SessionKeys) (serverEphKp : KeyPair)
    (dh2 : Key) :
    (m.initialSession P env clientAddr ephPub initialKeys serverEphKp dh2).sessionId = m.nextId ∧
    (m.initialSession P env clientAddr ephPub initialKeys serverEphKp dh2).vpnIp = none ∧
    (m.initialSession P env clientAddr ephPub initialKeys serverEphKp dh2).clientAddr =
      clientAddr := by
  refine ⟨?_, ?_, ?_⟩
  · simp [initialSession, Session.updateRatchetedTagWindow, Session.updateTagWindow, Session.new]
  · simp [initialSession, Session.updateRatchetedTagWindow, Session.updateTagWindow, Session.new]
  · simp [initialSession, Session.updateRatchetedTagWindow, Session.updateTagWindow, Session.new]

/-- The three publications of a new session make its registration. -/
theorem SessionManager.register_sections {m : SessionManager} {s : Session}
    (hid : s.sessionId = m.nextId) (hip : s.vpnIp = none)
    (staticVpnIp reusedVpnIp : Option Ipv4Addr) :
    ((m.publishTags s).insertSession s).mapVpnIp m.nextId staticVpnIp reusedVpnIp =
      m.register s (m.assignVpnIp staticVpnIp reusedVpnIp).1
        (m.assignVpnIp staticVpnIp reusedVpnIp).2 := by
  have hassign : ((m.publishTags s).insertSession s).assignVpnIp staticVpnIp reusedVpnIp =
      m.assignVpnIp staticVpnIp reusedVpnIp := rfl
  unfold mapVpnIp
  rw [hassign]
  rcases m.assignVpnIp staticVpnIp reusedVpnIp with ⟨vpnIp, octet⟩
  cases vpnIp with
  | some ip =>
      simp only [insertSession, publishTags, register, hid, Function.update_self,
        Function.update_idem]
  | none =>
      have hs : ({ s with vpnIp := none } : Session) = s := by
        cases s
        cases hip
        rfl
      simp only [register, hs]
      simp only [insertSession, publishTags, hid]

namespace Gateway

section

variable {P : Primitives} {rng : Randomness} {cfg : GatewayConfig} {env : Env}
  {packetData : Bytes} {clientAddr : SocketAddr}

theorem Reaches.next {st : Stage} {g : Gateway} {y z : Stage × Gateway}
    (h : advance P rng cfg env packetData clientAddr st g = y)
    (hrest : Reaches P rng cfg env packetData clientAddr y z) :
    Reaches P rng cfg env packetData clientAddr (st, g) z :=
  ReflTransGen.head h hrest

theorem Reaches.last {st : Stage} {g : Gateway} {y : Stage × Gateway}
    (h : advance P rng cfg env packetData clientAddr st g = y) :
    Reaches P rng cfg env packetData clientAddr (st, g) y :=
  ReflTransGen.single h

/-- The sections of `create_session` end where `create_session` does. -/
theorem reaches_createSession {a : Attempt} {g : Gateway} {r : Except Error SessionId}
    {m : SessionManager} (h : g.sessionManager.createSession P rng env clientAddr a.ephPub
      (a.client.map ClientConfig.psk) (a.client.map ClientConfig.vpnIp) = (r, m)) :
    Reaches P rng cfg env packetData clientAddr (.checkLimits a, g) (a.resume r, g.withManager m) := by
  unfold SessionManager.createSession at h
  by_cases hmax : maxSessions ≤ g.sessionManager.sessions.length
  · rw [if_pos hmax] at h
    cases h
    exact Reaches.last (by simp [advance, hmax, withManager])
  by_cases hip : 5 ≤ g.sessionManager.ipCount clientAddr
  · rw [if_neg hmax, if_pos hip] at h
    cases h
    exact Reaches.last (by simp [advance, hmax, hip, withManager])
  rw [if_neg hmax, if_neg hip] at h
  have hlimits : advance P rng cfg env packetData clientAddr (.checkLimits a) g =
      (.publishTags a (g.sessionManager.reusedVpnIp clientAddr), g) := by
    simp [advance, hmax, hip]
  refine Reaches.next hlimits ?_
  cases hdh1 : P.computeShared g.sessionManager.serverKeys a.ephPub with
  | error e =>
      rw [hdh1] at h
      cases h
      exact Reaches.last (by simp [advance, hdh1, withManager])
  | ok dh1 =>
      rw [hdh1] at h
      simp only at h
      cases hdh2 : P.computeShared (P.fromPrivateKey (rng.serverEph g.sessionManager.nextId))
          a.ephPub with
      | error e =>
          rw [hdh2] at h
          cases h
          exact Reaches.last (by simp [advance, hdh1, hdh2, withManager])
      | ok dh2 =>
          rw [hdh2] at h
          simp only at h
          obtain ⟨hid, hnone, -⟩ := g.sessionManager.initialSession_new P env clientAddr a.ephPub
            (P.deriveSessionKeys dh1 (a.client.map ClientConfig.psk) a.ephPub)
            (P.fromPrivateKey (rng.serverEph g.sessionManager.nextId)) dh2
          -- the session is made in the second section; the others only publish it
          have htags : ∃ s, s = g.sessionManager.initialSession P env clientAddr a.ephPub
                (P.deriveSessionKeys dh1 (a.client.map ClientConfig.psk) a.ephPub)
                (P.fromPrivateKey (rng.serverEph g.sessionManager.nextId)) dh2 ∧
              advance P rng cfg env packetData clientAddr
                (.publishTags a (g.sessionManager.reusedVpnIp clientAddr)) g =
                  (.insertSession a (g.sessionManager.reusedVpnIp clientAddr) s,
                    g.withManager (g.sessionManager.publishTags s)) :=
            ⟨_, rfl, by simp [advance, hdh1, hdh2]⟩
          obtain ⟨s, hs, htags⟩ := htags
          rw [← hs] at h hid hnone
          cases h
          refine Reaches.next htags (Reaches.next rfl (Reaches.last ?_))
          rw [← SessionManager.register_sections hid hnone, ← hid]
          rfl

/-- The loop over the clients ends where `tryClients` does: before the validation behind the loop,
or, with no client left, before the failure is counted. -/
theorem reaches_tryClients {ephPub : Key} {clients : List ClientConfig} {g : Gateway}
    {found : Option (SessionId × ClientConfig)} {m : SessionManager}
    (h : SessionManager.tryClients P env rng clientAddr ephPub (readArray 8 0 packetData) clients
      g.sessionManager = (found, m)) :
    Reaches P rng cfg env packetData clientAddr (.nextClient ephPub clients, g)
      (found.elim (.nextClient ephPub []) fun x => .revalidate (some x.2) x.1,
        g.withManager m) := by
  induction clients generalizing g with
  | nil =>
      cases h
      exact ReflTransGen.refl
  -- the clients behind this one are the induction's, whichever way its attempt ends
  | cons client rest ih =>
      unfold SessionManager.tryClients at h
      by_cases henabled : client.enabled = true
      · rw [if_pos henabled] at h
        have hfirst : advance P rng cfg env packetData clientAddr
            (.nextClient ephPub (client :: rest)) g =
              (.checkLimits ⟨ephPub, some client, rest⟩, g) := by
          simp [advance, henabled]
        refine Reaches.next hfirst ?_
        rcases hnew : g.sessionManager.createSession P rng env clientAddr ephPub (some client.psk)
          (some client.vpnIp) with ⟨r, m₁⟩
        rw [hnew] at h
        refine (reaches_createSession (a := ⟨ephPub, some client, rest⟩) hnew).trans ?_
        cases r with
        | error e => exact ih (g := g.withManager m₁) h
        | ok sid =>
            simp only at h
            by_cases hvalid : ((m₁.heap sid).validateTag P env.timeWindow
                (readArray 8 0 packetData)).isSome
            · rw [if_pos hvalid] at h
              cases h
              exact Reaches.last (by simp [advance, hvalid, Attempt.resume, withManager, session])
            · rw [if_neg hvalid] at h
              -- the session is rolled back in a section of its own
              have hmiss : advance P rng cfg env packetData clientAddr
                  (.validate ⟨ephPub, some client, rest⟩ client sid) (g.withManager m₁) =
                    (.rollback ⟨ephPub, some client, rest⟩ sid, g.withManager m₁) := by
                simp [advance, hvalid, withManager, session]
              refine Reaches.next hmiss (Reaches.next rfl ?_)
              exact ih (g := g.withManager (m₁.rollbackFailedSession sid)) h
      · rw [if_neg henabled] at h
        have hskip : advance P rng cfg env packetData clientAddr
            (.nextClient ephPub (client :: rest)) g = (.nextClient ephPub rest, g) := by
          simp [advance, henabled]
        exact Reaches.next hskip (ih h)

end

section

variable (P : Primitives) (rng : Randomness) (cfg : GatewayConfig) (env : Env)

/-- `handle_packet` behind the identification of the session. -/
def handleIdentified (packetData : Bytes) (clientAddr : SocketAddr) (t : TagMatch) :
    Action Gateway Error Unit := do
  let s ← gets fun g => g.session t.sessionId
  let padded ← ofExcept (decryptDatagram P s t packetData)
  ratchet t
  let plaintext ← ofExcept (stripPadding padded)
  markReceived P env t clientAddr packetData.length
  if t.isNewSession then pure ()
  else processInnerPayload P rng cfg env plaintext t.sessionId clientAddr

end

section

variable {P : Primitives} {rng : Randomness} {cfg : GatewayConfig} {env : Env}
  {packetData : Bytes} {clientAddr : SocketAddr}

variable (P env clientAddr) in
/-- Marking a counter does not fail. -/
theorem markReceived_ok (t : TagMatch) (len : Nat) (g : Gateway) :
    (markReceived P env t clientAddr len g).1 = .ok () := by
  have hrecord : ∀ flush g, (recordTraffic flush g).1 = .ok () := by
    intro flush g
    rcases flush with _ | ⟨clientId, bytesIn⟩
    · rfl
    · unfold recordTraffic
      simp only
      rw [bind_of_ok (gets_apply _ _)]
      split_ifs <;> rfl
  exact hrecord _ _

theorem handlePacket_of_identified {g g₁ : Gateway} {t : TagMatch}
    (hlen : ¬ packetData.length < tagSize + 2)
    (h : identify P rng env packetData clientAddr g = (.ok t, g₁)) :
    handlePacket P rng cfg env packetData clientAddr g =
      handleIdentified P rng cfg env packetData clientAddr t g₁ := by
  unfold handlePacket receivePacket handleIdentified markReceived
  rw [if_neg hlen]
  simp only [bind_bind, pure_bind']
  rw [bind_of_ok h]

/-- The sections behind the identification of the session. -/
theorem reaches_handleIdentified (t : TagMatch) {g g' : Gateway} {r : Outcome Unit}
    (h : handleIdentified P rng cfg env packetData clientAddr t g = (r, g')) :
    Reaches P rng cfg env packetData clientAddr (.decrypt t, g) (.finished r, g') := by
  unfold handleIdentified at h
  rw [bind_of_ok (gets_apply _ _)] at h
  cases hdec : decryptDatagram P (g.session t.sessionId) t packetData with
  | error e =>
      rw [hdec, bind_of_error (ofExcept_error _ _)] at h
      cases h
      exact Reaches.last (by simp [advance, hdec])
  | ok padded =>
      rw [hdec, bind_of_ok (ofExcept_ok _ _)] at h
      -- behind the ratchet the call waits to mark the counter
      have hmark : ∃ g₁, ratchet t g = (.ok (), g₁) ∧
          Reaches P rng cfg env packetData clientAddr (.decrypt t, g) (.mark t padded, g₁) := by
        unfold ratchet
        split_ifs with hr
        · have hfirst : advance P rng cfg env packetData clientAddr (.decrypt t) g =
              (.ratchet t padded, g) := by
            simp [advance, hdec, hr]
          exact ⟨_, rfl, Reaches.next hfirst (Reaches.last rfl)⟩
        · exact ⟨g, rfl, Reaches.last (by simp [advance, hdec, hr])⟩
      obtain ⟨g₁, hratchet, hreach⟩ := hmark
      refine hreach.trans ?_
      rw [bind_of_ok hratchet] at h
      cases hstrip : stripPadding padded with
      | error e =>
          rw [hstrip, bind_of_error (ofExcept_error _ _)] at h
          cases h
          exact Reaches.last (by simp [advance, hstrip])
      | ok plaintext =>
          rw [hstrip, bind_of_ok (ofExcept_ok _ _)] at h
          rcases hrec : markReceived P env t clientAddr packetData.length g₁ with ⟨u, g₂⟩
          obtain rfl : u = .ok () := by
            rw [← markReceived_ok P env clientAddr t packetData.length g₁, hrec]
          rw [bind_of_ok hrec] at h
          have hnext : advance P rng cfg env packetData clientAddr (.mark t padded) g₁ =
              (.inner t plaintext, g₂) := by
            simp [advance, hstrip, hrec]
          refine Reaches.next hnext (Reaches.last ?_)
          by_cases hnew : t.isNewSession
          · rw [if_pos hnew] at h
            cases h
            simp [advance, hnew]
          · rw [if_neg hnew] at h
            simp [advance, hnew, h]

/-- The validation behind the loop over the clients. -/
theorem reaches_revalidate (client : Option ClientConfig) (sid : SessionId) {g g' : Gateway}
    {r : Outcome (SessionId × Option ClientConfig × Nat × Bool)}
    (h : ((do
      let s ← gets fun g => g.session sid
      match s.validateTag P env.timeWindow (readArray 8 0 packetData) with
      | none => do
          modifyManager fun m => m.rollbackFailedSession sid
          throw (.invalidPacket "Tag mismatch on new session")
      | some (counter, isRatcheted) => pure (sid, client, counter, isRatcheted) :
        Action Gateway Error (SessionId × Option ClientConfig × Nat × Bool)) g) = (r, g')) :
    Reaches P rng cfg env packetData clientAddr (.revalidate client sid, g) (Stage.offered r, g') := by
  rw [bind_of_ok (gets_apply _ _)] at h
  cases hvalid : (g.session sid).validateTag P env.timeWindow (readArray 8 0 packetData) with
  | none =>
      rw [hvalid] at h
      cases h
      have hmiss : advance P rng cfg env packetData clientAddr (.revalidate client sid) g =
          (.discard client sid, g) := by
        simp [advance, hvalid]
      exact Reaches.next hmiss (Reaches.last rfl)
  | some found =>
      rw [hvalid] at h
      cases h
      exact Reaches.last (by simp [advance, hvalid, Stage.offered])

/-- The sections of the handshake branch up to the validation of the tag. -/
theorem reaches_offerSession {g g' : Gateway}
    {r : Outcome (SessionId × Option ClientConfig × Nat × Bool)}
    (h : offerSession P rng env packetData (readArray 8 0 packetData) clientAddr g = (r, g')) :
    Reaches P rng cfg env packetData clientAddr (.unknownTag, g) (Stage.offered r, g') := by
  unfold offerSession at h
  rw [bind_of_ok (gets_apply _ _)] at h
  -- the refusals: the address has to wait, or the datagram is too short
  by_cases hcool : cooldownActive env g clientAddr.ip = true
  · rw [id, if_pos hcool] at h
    cases h
    exact Reaches.last (by simp [advance, hcool, Stage.offered])
  by_cases hshort : packetData.length < tagSize + mdhLen + 32
  · rw [id, if_neg hcool, if_pos hshort] at h
    cases h
    exact Reaches.last (by simp [advance, hcool, hshort, Stage.offered])
  rw [id, if_neg hcool, if_neg hshort] at h
  cases hdb : g.clientDb with
  | none =>
      have hfirst : advance P rng cfg env packetData clientAddr .unknownTag g = (.checkLimits
          ⟨handshakeEphPub P g.sessionManager.serverKeys.publicKeyBytes packetData, none, []⟩, g) := by
        simp [advance, hcool, hshort, hdb]
      refine Reaches.next hfirst ?_
      rcases hnew : g.sessionManager.createSession P rng env clientAddr
          (handshakeEphPub P g.sessionManager.serverKeys.publicKeyBytes packetData) none none
        with ⟨e | sid, m⟩
      · rw [bind_of_error (openSession_of_failed P rng env hdb hnew)] at h
        cases h
        exact reaches_createSession (a := ⟨_, none, []⟩) hnew
      · rw [bind_of_ok (openSession_of_created P rng env hdb hnew)] at h
        exact (reaches_createSession (a := ⟨_, none, []⟩) hnew).trans
          (reaches_revalidate none sid h)
  | some clients =>
      have hfirst : advance P rng cfg env packetData clientAddr .unknownTag g = (.nextClient
          (handshakeEphPub P g.sessionManager.serverKeys.publicKeyBytes packetData) clients, g) := by
        simp [advance, hcool, hshort, hdb]
      refine Reaches.next hfirst ?_
      rcases htry : SessionManager.tryClients P env rng clientAddr (handshakeEphPub P
          g.sessionManager.serverKeys.publicKeyBytes packetData) (readArray 8 0 packetData) clients
          g.sessionManager with ⟨_ | ⟨sid, client⟩, m⟩
      · rw [bind_of_error (openSession_of_none P rng env hdb htry)] at h
        cases h
        exact (reaches_tryClients htry).trans (Reaches.last rfl)
      · rw [bind_of_ok (openSession_of_found P rng env hdb htry)] at h
        exact (reaches_tryClients htry).trans (reaches_revalidate (some client) sid h)

/-- The sections of the handshake branch: the call fails with the branch, or waits to decrypt the
datagram of the session that the branch returns. -/
theorem reaches_handshake {g g' : Gateway} {r : Outcome TagMatch}
    (h : handshake P rng env packetData (readArray 8 0 packetData) clientAddr g = (r, g')) :
    Reaches P rng cfg env packetData clientAddr (.unknownTag, g) (Stage.identified r, g') := by
  unfold handshake at h
  rcases hoffer : offerSession P rng env packetData (readArray 8 0 packetData) clientAddr g
    with ⟨e | ⟨sid, client, counter, isRatcheted⟩, g₁⟩
  · rw [bind_of_error hoffer] at h
    cases h
    exact reaches_offerSession hoffer
  · rw [bind_of_ok hoffer] at h
    simp only at h
    refine (reaches_offerSession hoffer).trans (Reaches.next rfl ?_)
    have haccept : acceptHandshake P rng env sid client clientAddr g₁ =
        welcome P rng env client sid clientAddr
          (g₁.withManager (g₁.sessionManager.establish sid (client.map ClientConfig.psk))) := rfl
    rcases hwelcome : welcome P rng env client sid clientAddr
        (g₁.withManager (g₁.sessionManager.establish sid (client.map ClientConfig.psk)))
      with ⟨e | u, g₂⟩
    · rw [bind_of_error (haccept.trans hwelcome)] at h
      cases h
      exact Reaches.last (by simp [advance, hwelcome, Stage.identified])
    · rw [bind_of_ok (haccept.trans hwelcome)] at h
      cases h
      exact Reaches.last (by simp [advance, hwelcome, Stage.identified])

/-- Run without interruption, the sections of a call do what `handle_packet` does. -/
theorem reaches_handlePacket (packetData : Bytes) (clientAddr : SocketAddr) (g : Gateway) :
    Reaches P rng cfg env packetData clientAddr (.lookup, g)
      (.finished (handlePacket P rng cfg env packetData clientAddr g).1,
        (handlePacket P rng cfg env packetData clientAddr g).2) := by
  by_cases hlen : packetData.length < tagSize + 2
  · refine Reaches.last ?_
    unfold handlePacket
    rw [bind_of_error (receivePacket_short P rng env hlen clientAddr g)]
    simp [advance, hlen]
  rcases hfs : g.sessionManager.findSession P env (readArray 8 0 packetData) clientAddr.ip
    with ⟨r, m⟩
  -- the lookup chain identifies the session, or the handshake branch does
  have hidentify : ∀ r' g', identify P rng env packetData clientAddr g = (r', g') →
      Reaches P rng cfg env packetData clientAddr (.lookup, g) (Stage.identified r', g') := by
    intro r' g' h
    unfold identify at h
    rcases r with e | _ | ⟨sid, counter, isRatcheted⟩
    · rw [bind_of_error (managerExcept_of_error hfs)] at h
      cases h
      exact Reaches.last (by simp [advance, hlen, hfs, Stage.identified, withManager])
    · rw [bind_of_ok (managerExcept_of_ok hfs)] at h
      have hmiss : advance P rng cfg env packetData clientAddr .lookup g =
          (.unknownTag, g.withManager m) := by
        simp [advance, hlen, hfs]
      exact Reaches.next hmiss (reaches_handshake h)
    · rw [bind_of_ok (managerExcept_of_ok hfs)] at h
      cases h
      exact Reaches.last (by simp [advance, hlen, hfs, Stage.identified, withManager])
  rcases hid : identify P rng env packetData clientAddr g with ⟨e | t, g₁⟩
  · have herror : handlePacket P rng cfg env packetData clientAddr g = (.error e, g₁) := by
      unfold handlePacket receivePacket
      rw [if_neg hlen, bind_of_error (bind_of_error hid _)]
    rw [herror]
    exact hidentify _ _ hid
  · rw [handlePacket_of_identified hlen hid]
    exact (hidentify _ _ hid).trans (reaches_handleIdentified t rfl)

end

end Gateway

end Aivpn
