import Aivpn.Server.Routing
import Aivpn.Lib.Runs

/-!
# What a gateway step can do

`SessionManager.Change` lists the changes that a step of the gateway makes to its sessions, one
constructor for each; `Gateway.Change` adds the gateway's own fields. A step is a sequence of such
changes, except that a packet whose handshake is accepted also opens one session in between
(`step_cases`). Every invariant of the gateway is proved from the constructors, never from the
text of `handle_packet` (`runFrom_of_change`).
-/

set_option autoImplicit false

namespace Aivpn

open Aivpn.Lib Relation

/-- The inner packets the server sends in a session: a ServerHello with the session's own
ephemeral key, another control message, or a packet from the TUN device. -/
inductive ServerInner (s : Session) : Bytes → Prop where
  | hello {serverEphPub : Key} {signature : ByteArr 64} (hkey : s.serverEphPub = some serverEphPub)
      (hsig : s.serverHelloSignature = some signature) :
      ServerInner s ((InnerHeader.mk .control 0).encode ++
        (ControlPayload.serverHello serverEphPub signature).encode)
  | control (seqNum : UInt16) {payload : ControlPayload}
      (hne : ∀ key signature, payload ≠ .serverHello key signature) :
      ServerInner s ((InnerHeader.mk .control seqNum).encode ++ payload.encode)
  | data (seqNum : UInt16) (packet : Bytes) :
      ServerInner s ((InnerHeader.mk .data seqNum).encode ++ packet)

/-- The event is a datagram that decrypts under `key` at one of the places where `handle_packet`
looks for the ciphertext. -/
def Gateway.Event.DecryptsUnder (P : Primitives) (key : Key) : Event → Prop
  | .packet packetData _ => ∃ offset counter padded,
      (offset = tagSize + mdhLen ∨ offset = tagSize + mdhLen + 32) ∧
      P.decryptPayload key (counterToNonce counter) (packetData.drop offset) = .ok padded
  | _ => False

section

variable (P : Primitives) (rng : Randomness) (e : Env × Gateway.Event)

/-- One change of the session manager while the event `e.2` is handled at the time of `e.1`.
`attempt` is the creation of a session that did not validate the tag, with its rollback; a session
ratchets after the datagram was decrypted under its pending keys. -/
inductive SessionManager.Change : SessionManager → SessionManager → Prop where
  | refresh {m : SessionManager} {sid : SessionId} (hlive : sid ∈ m.sessions) :
      Change m (m.refreshSession P e.1.timeWindow sid)
  | recover {m : SessionManager} {tag : Tag} {ip : IpAddr} {sid : SessionId} {c : Nat}
      (hhit : m.recoveryHit P e.1.timeWindow tag ip = some (sid, c)) :
      Change m (m.recoverSessionByTag P e.1.timeWindow tag ip).2
  | ratchet {m : SessionManager} {sid : SessionId} {keys : SessionKeys}
      (hkeys : (m.heap sid).ratchetedKeys = some keys)
      (hopens : e.2.DecryptsUnder P keys.sessionKey) :
      Change m ((m.completeSessionRatchet sid).refreshSessionTags sid)
  | receive (m : SessionManager) (t : TagMatch) (addr : SocketAddr) (len : Nat) :
      Change m (m.receive P e.1 t addr len).2
  | identify {m : SessionManager} {sid : SessionId} (clientId : String)
      (hnone : (m.heap sid).clientId = none) :
      Change m (m.setSession sid { m.heap sid with clientId := some clientId })
  | takeSeq (m : SessionManager) (sid : SessionId) : Change m (m.takeSeq sid).2
  | draw (m : SessionManager) : Change m { m with draws := m.draws + 1 }
  | encrypt {m : SessionManager} {sid : SessionId} {inner padding : Bytes} (mdh : Bytes)
      (hlive : sid ∈ m.sessions) (hinner : ServerInner (m.heap sid) inner)
      (hpad : padding.length ≤ 16) :
      Change m (m.sealPacket P e.1 sid mdh (padPlaintext inner padding)).2
  | attempt {m m' : SessionManager} {addr : SocketAddr} {ephPub : Key}
      {psk : Option Key} {ip : Option Ipv4Addr} {sid : SessionId}
      (hnew : m.createSession P rng e.1 addr ephPub psk ip = (.ok sid, m')) :
      Change m (m'.rollbackFailedSession sid)
  | remove (m : SessionManager) (sid : SessionId) : Change m (m.removeSession sid)
  | reorder {m : SessionManager} {sessions : List SessionId} (h : sessions.Perm m.sessions) :
      Change m { m with sessions := sessions }

/-- The opening of a session by an accepted handshake. -/
def SessionManager.Opens (m m' : SessionManager) (ephPub : Key) (psk : Option Key) : Prop :=
  ∃ addr ip sid m₁, m.createSession P rng e.1 addr ephPub psk ip = (.ok sid, m₁) ∧
    m' = m₁.establish sid psk

/-- The datagram `packet` carries one of the recorded encryptions of the session. -/
def SessionManager.Carries (P : Primitives) (cfg : GatewayConfig) (m : SessionManager)
    (sid : SessionId) (packet : Bytes) : Prop :=
  ∃ call ∈ m.encryptCalls, call.sessionId = sid ∧ ∃ (tag : Tag) (mdh : Bytes),
    (mdh = SessionManager.zeroMdh ∨ mdh = cfg.headerTemplate) ∧
    packet = tag.toList ++ mdh ++ P.encrypt call.key call.nonce call.plaintext

end

/-- One change of the gateway while `e` is handled. -/
inductive Gateway.Change (P : Primitives) (rng : Randomness) (cfg : GatewayConfig)
    (e : Env × Gateway.Event) : Gateway → Gateway → Prop where
  | manager {g : Gateway} {m : SessionManager}
      (h : SessionManager.Change P rng e g.sessionManager m) :
      Change P rng cfg e g { g with sessionManager := m }
  | emit {g : Gateway} {effect : Effect}
      (h : ∀ sid packet addr, effect = .send sid packet addr →
        g.sessionManager.Carries P cfg sid packet) :
      Change P rng cfg e g { g with effects := effect :: g.effects }
  | cooldowns (g : Gateway) (f : IpAddr → Option (Nat × Nat)) :
      Change P rng cfg e g { g with handshakeCooldowns := f }
  | clients {g : Gateway} {clients : List ClientConfig} (h : e.2 = .reload clients) :
      Change P rng cfg e g { g with clientDb := g.clientDb.map fun _ => clients }

/-! ## The session manager's operations -/

namespace SessionManager

variable (P : Primitives) (rng : Randomness) (e : Env × Gateway.Event)

/-- Changes one after the other. -/
abbrev Changes : SessionManager → SessionManager → Prop := ReflTransGen (Change P rng e)

theorem changes_refreshLoop (tag : Tag) (sids : List SessionId) (m : SessionManager)
    (hlive : ∀ sid ∈ sids, sid ∈ m.sessions) :
    Changes P rng e m (refreshLoop P e.1.timeWindow tag sids m).2 := by
  induction sids generalizing m with
  | nil => exact ReflTransGen.refl
  | cons sid rest ih =>
      have hsid : Change P rng e m (m.refreshSession P e.1.timeWindow sid) :=
        .refresh (hlive sid List.mem_cons_self)
      have hrest := ih (m.refreshSession P e.1.timeWindow sid) fun other hother => by
        rw [refreshSession_sessions]
        exact hlive other (List.mem_cons_of_mem _ hother)
      unfold refreshLoop
      simp only
      split
      · exact ReflTransGen.single hsid
      · exact ReflTransGen.head hsid hrest

theorem changes_recoverSessionByTag (m : SessionManager) (tag : Tag) (ip : IpAddr) :
    Changes P rng e m (m.recoverSessionByTag P e.1.timeWindow tag ip).2 := by
  cases hhit : m.recoveryHit P e.1.timeWindow tag ip with
  | none =>
      have heq : (m.recoverSessionByTag P e.1.timeWindow tag ip).2 = m := by
        simp [recoverSessionByTag, hhit]
      rw [heq]
  | some hit => exact ReflTransGen.single (.recover hhit)

theorem changes_findSession (m : SessionManager) (tag : Tag) (ip : IpAddr) :
    Changes P rng e m (m.findSession P e.1 tag ip).2 := by
  have hloop := changes_refreshLoop P rng e tag m.sessions m fun _ h => h
  unfold findSession refreshAndFindByTag
  split
  · split
    · exact ReflTransGen.refl
    · exact ReflTransGen.refl
  · split
    · next m' hm' =>
        rw [hm'] at hloop
        exact hloop
    · next m' hm' =>
        rw [hm'] at hloop
        exact hloop.trans (changes_recoverSessionByTag P rng e m' tag ip)

theorem changes_removeSessions (m : SessionManager) (sids : List SessionId) :
    Changes P rng e m (m.removeSessions sids) := by
  induction sids generalizing m with
  | nil => exact ReflTransGen.refl
  | cons sid rest ih => exact ReflTransGen.head (.remove m sid) (ih _)

theorem createSession_error {env : Env} {m m' : SessionManager} {addr : SocketAddr} {ephPub : Key}
    {psk : Option Key} {ip : Option Ipv4Addr} {e : Error}
    (h : m.createSession P rng env addr ephPub psk ip = (.error e, m')) : m' = m := by
  unfold createSession at h
  split_ifs at h
  · exact (Prod.mk.inj h).2.symm
  · exact (Prod.mk.inj h).2.symm
  · split at h
    · exact (Prod.mk.inj h).2.symm
    · simp only at h
      split at h
      · exact (Prod.mk.inj h).2.symm
      · cases (Prod.mk.inj h).1

theorem changes_buildPacket {m : SessionManager} {sid : SessionId} {inner : Bytes}
    (hlive : sid ∈ m.sessions) (hinner : ServerInner (m.heap sid) inner) :
    Changes P rng e m (m.buildPacket P rng e.1 sid inner).2 := by
  have hseal : Change P rng e { m with draws := m.draws + 1 } (m.buildPacket P rng e.1 sid inner).2 :=
    .encrypt zeroMdh hlive hinner (by simp)
  exact ReflTransGen.head (.draw m) (ReflTransGen.single hseal)

theorem changes_takeSeq_buildPacket {m : SessionManager} {sid : SessionId}
    {payload : ControlPayload} (hlive : sid ∈ m.sessions)
    (hne : ∀ key signature, payload ≠ .serverHello key signature) :
    Changes P rng e m ((m.takeSeq sid).2.buildPacket P rng e.1 sid
      ((InnerHeader.mk .control (m.takeSeq sid).1).encode ++ payload.encode)).2 :=
  ReflTransGen.head (.takeSeq m sid) (changes_buildPacket P rng e hlive (.control _ hne))

/-- A sealed packet carries the call it was sealed with. -/
theorem carries_sealPacket (cfg : GatewayConfig) (env : Env) (m : SessionManager)
    (sid : SessionId) {mdh : Bytes} (padded : Bytes)
    (hmdh : mdh = zeroMdh ∨ mdh = cfg.headerTemplate) :
    (m.sealPacket P env sid mdh padded).2.Carries P cfg sid
      (m.sealPacket P env sid mdh padded).1 :=
  ⟨_, List.mem_cons_self, rfl, _, mdh, hmdh, rfl⟩

theorem carries_buildPacket (cfg : GatewayConfig) (env : Env) (m : SessionManager)
    (sid : SessionId) (inner : Bytes) :
    (m.buildPacket P rng env sid inner).2.Carries P cfg sid
      (m.buildPacket P rng env sid inner).1 :=
  carries_sealPacket P cfg env _ sid _ (Or.inl rfl)

theorem getSessionByVpnIp_mem {m : SessionManager} {ip : Ipv4Addr} {sid : SessionId}
    (h : m.getSessionByVpnIp ip = some sid) : sid ∈ m.sessions := by
  unfold getSessionByVpnIp at h
  split at h
  · split_ifs at h with hmem
    exact Option.some.inj h ▸ hmem
  · cases h

/-- The loop over the clients makes attempts, and ends with a new session or with none. -/
theorem changes_tryClients {addr : SocketAddr} {ephPub : Key} {tag : Tag}
    {clients : List ClientConfig} {m m' : SessionManager}
    {found : Option (SessionId × ClientConfig)}
    (h : tryClients P e.1 rng addr ephPub tag clients m = (found, m')) :
    (found = none ∧ Changes P rng e m m') ∨ ∃ sid client m₀, found = some (sid, client) ∧
      Changes P rng e m m₀ ∧ m₀.createSession P rng e.1 addr ephPub (some client.psk)
        (some client.vpnIp) = (.ok sid, m') := by
  induction clients generalizing m with
  | nil =>
      cases h
      exact Or.inl ⟨rfl, ReflTransGen.refl⟩
  | cons client rest ih =>
      unfold tryClients at h
      split_ifs at h with henabled
      · split at h
        · next sid m₁ hnew =>
            split_ifs at h with hvalid
            · cases h
              exact Or.inr ⟨sid, client, m, rfl, ReflTransGen.refl, hnew⟩
            · have hstep : Change P rng e m (m₁.rollbackFailedSession sid) := .attempt hnew
              rcases ih h with ⟨hnone, hm⟩ | ⟨sid', client', m₀, hsome, hm, hnew'⟩
              · exact Or.inl ⟨hnone, ReflTransGen.head hstep hm⟩
              · exact Or.inr ⟨sid', client', m₀, hsome, ReflTransGen.head hstep hm, hnew'⟩
        · next e m₁ hnew =>
            rw [createSession_error P rng hnew] at h
            exact ih h
      · exact ih h

end SessionManager

/-! ## The gateway's commands -/

namespace Gateway

open Action

variable (P : Primitives) (rng : Randomness) (cfg : GatewayConfig) (e : Env × Event)

/-- Changes one after the other. -/
abbrev Changes : Gateway → Gateway → Prop := ReflTransGen (Change P rng cfg e)

theorem changes_of_manager {g : Gateway} {m : SessionManager}
    (h : SessionManager.Changes P rng e g.sessionManager m) :
    Changes P rng cfg e g { g with sessionManager := m } := by
  induction h with
  | refl => exact ReflTransGen.refl
  | tail _ hlast ih => exact ReflTransGen.tail ih (Change.manager hlast)

theorem reachesFrom_manager {α : Type} {f : SessionManager → α × SessionManager} {g : Gateway}
    (h : SessionManager.Changes P rng e g.sessionManager (f g.sessionManager).2) :
    ReachesFrom (Change P rng cfg e) (manager f) g :=
  changes_of_manager P rng cfg e h

theorem reachesFrom_modifyManager {f : SessionManager → SessionManager} {g : Gateway}
    (h : SessionManager.Changes P rng e g.sessionManager (f g.sessionManager)) :
    ReachesFrom (Change P rng cfg e) (modifyManager f) g :=
  changes_of_manager P rng cfg e h

theorem reachesFrom_sendTo (env : Env) {sid : SessionId} {packet : Bytes} {addr : SocketAddr}
    {g : Gateway}
    (h : g.sessionManager.Carries P cfg sid packet) :
    ReachesFrom (Change P rng cfg e) (sendTo env sid packet addr) g := by
  unfold sendTo
  split_ifs
  · refine reachesFrom_modify (Change.emit fun sid' packet' addr' he => ?_)
    cases he
    exact h
  · exact reachesFrom_throw _

theorem reachesFrom_sendServerHello {sid : SessionId} (addr : SocketAddr) {g : Gateway}
    (hlive : sid ∈ g.sessionManager.sessions) :
    ReachesFrom (Change P rng cfg e) (sendServerHello P rng e.1 sid addr) g := by
  unfold sendServerHello
  apply reachesFrom_gets_bind
  split
  · next key signature hkey hsig =>
      refine ReachesFrom.bind (reachesFrom_manager P rng cfg e
        (SessionManager.changes_buildPacket P rng e hlive (.hello hkey hsig))) fun packet g' hg' => ?_
      cases hg'
      exact reachesFrom_sendTo P rng cfg e e.1 (SessionManager.carries_buildPacket P rng cfg e.1 _ _ _)
  · exact reachesFrom_throw _

theorem reachesFrom_sendControlMessage {payload : ControlPayload}
    (hne : ∀ key signature, payload ≠ .serverHello key signature) {sid : SessionId} {g : Gateway}
    (hlive : sid ∈ g.sessionManager.sessions) :
    ReachesFrom (Change P rng cfg e) (sendControlMessage P rng e.1 payload sid) g := by
  unfold sendControlMessage
  refine ReachesFrom.bind (reachesFrom_manager P rng cfg e
    (ReflTransGen.single (.takeSeq _ sid))) fun seqNum g' hg' => ?_
  cases hg'
  refine ReachesFrom.bind (reachesFrom_manager P rng cfg e
    (SessionManager.changes_buildPacket P rng e hlive (.control _ hne))) fun packet g'' hg'' => ?_
  apply reachesFrom_gets_bind
  cases hg''
  exact reachesFrom_sendTo P rng cfg e e.1 (SessionManager.carries_buildPacket P rng cfg e.1 _ _ _)

theorem reachesFrom_handleControlMessage (payload : Bytes) {sid : SessionId} (addr : SocketAddr)
    {g : Gateway} (hlive : sid ∈ g.sessionManager.sessions) :
    ReachesFrom (Change P rng cfg e) (handleControlMessage P rng e.1 payload sid addr) g := by
  unfold handleControlMessage
  refine ReachesFrom.bind (reachesFrom_ofExec _) fun control g' hg' => ?_
  obtain rfl : g = g' := (Prod.mk.inj hg').2
  cases control with
  | keepalive =>
      apply reachesFrom_gets_bind
      split_ifs
      · exact reachesFrom_sendControlMessage P rng cfg e (by simp) hlive
      · exact reachesFrom_sendServerHello P rng cfg e addr hlive
  | telemetryRequest flags => exact reachesFrom_sendControlMessage P rng cfg e (by simp) hlive
  | shutdown reason =>
      exact reachesFrom_modifyManager P rng cfg e (ReflTransGen.single (.remove _ sid))
  | keyRotate key => exact reachesFrom_pure _
  | maskUpdate mask signature => exact reachesFrom_pure _
  | telemetryResponse loss rtt jitter buffer => exact reachesFrom_pure _
  | timeSync ts => exact reachesFrom_pure _
  | controlAck seq subtype => exact reachesFrom_pure _
  | serverHello key signature => exact reachesFrom_pure _

theorem reachesFrom_emit {effect : Effect} (h : ∀ sid packet addr, effect ≠ .send sid packet addr)
    (g : Gateway) : ReachesFrom (Change P rng cfg e) (emit effect) g :=
  reachesFrom_modify (Change.emit fun sid packet addr he => absurd he (h sid packet addr))

theorem reachesFrom_processInnerPayload (plaintext : Bytes) {sid : SessionId} (addr : SocketAddr)
    {g : Gateway} (hlive : sid ∈ g.sessionManager.sessions) :
    ReachesFrom (Change P rng cfg e) (processInnerPayload P rng cfg e.1 plaintext sid addr) g := by
  unfold processInnerPayload
  split
  · exact reachesFrom_throw _
  · refine ReachesFrom.bind (reachesFrom_ofExec _) fun header g' hg' => ?_
    obtain rfl : g = g' := (Prod.mk.inj hg').2
    cases header.innerType with
    | data =>
        simp only
        split_ifs
        · exact reachesFrom_emit P rng cfg e (by simp) g
        · exact reachesFrom_pure _
    | control => exact reachesFrom_handleControlMessage P rng cfg e _ addr hlive
    | fragment => exact reachesFrom_pure _
    | ack => exact reachesFrom_pure _

theorem reachesFrom_recordClient {sid : SessionId} (client : Option ClientConfig) {g : Gateway}
    (hnone : (g.session sid).clientId = none) :
    ReachesFrom (Change P rng cfg e) (recordClient sid client) g := by
  cases client with
  | none => exact reachesFrom_pure _
  | some client =>
      refine ReachesFrom.bind (reachesFrom_emit P rng cfg e (by simp) g) fun _ g' hg' => ?_
      cases hg'
      exact reachesFrom_modifyManager P rng cfg e (ReflTransGen.single (.identify _ hnone))

theorem reachesFrom_recordTraffic (flush : Option (String × Nat)) (g : Gateway) :
    ReachesFrom (Change P rng cfg e) (recordTraffic flush) g := by
  cases flush with
  | none => exact reachesFrom_pure _
  | some flush =>
      unfold recordTraffic
      apply reachesFrom_gets_bind
      split_ifs
      · exact reachesFrom_emit P rng cfg e (by simp) g
      · exact reachesFrom_pure _

theorem reachesFrom_tunRead (packet : Bytes) (g : Gateway) :
    ReachesFrom (Change P rng cfg e) (tunRead P cfg e.1 packet) g := by
  unfold tunRead
  split
  · exact reachesFrom_pure _
  · split
    · split
      · exact reachesFrom_emit P rng cfg e (by simp) g
      · exact reachesFrom_pure _
    · apply reachesFrom_gets_bind
      split
      · exact reachesFrom_pure _
      · next sid hsid =>
          have hlive := SessionManager.getSessionByVpnIp_mem hsid
          apply reachesFrom_gets_bind
          refine ReachesFrom.bind (reachesFrom_manager P rng cfg e
            (ReflTransGen.single (.takeSeq _ sid))) fun seqNum g' hg' => ?_
          cases hg'
          refine ReachesFrom.bind (reachesFrom_manager P rng cfg e (ReflTransGen.single
            (.encrypt cfg.headerTemplate hlive (.data _ packet)
              (show ([] : Bytes).length ≤ 16 by simp)))) fun sealed g'' hg'' => ?_
          cases hg''
          split
          · exact reachesFrom_sendTo P rng cfg e { e.1 with sendOk := true }
              (SessionManager.carries_sealPacket P cfg e.1 _ sid _ (Or.inr rfl))
          · exact reachesFrom_pure _

theorem reachesFrom_rotateMask (sid : SessionId) (maskData : Bytes) (g : Gateway) :
    ReachesFrom (Change P rng cfg e) (rotateMask P rng e.1 sid maskData) g := by
  unfold rotateMask
  apply reachesFrom_gets_bind
  split
  · next hlive =>
    refine ReachesFrom.bind (reachesFrom_manager P rng cfg e
      (SessionManager.changes_takeSeq_buildPacket P rng e hlive (by simp))) fun packet g' hg' => ?_
    cases hg'
    split
    · exact reachesFrom_sendTo P rng cfg e { e.1 with sendOk := true }
        (SessionManager.carries_buildPacket P rng cfg e.1 _ _ _)
    · exact reachesFrom_pure _
  · exact reachesFrom_pure _

/-! ## Handshakes -/

/-- A session is opened and nothing else changes. -/
def Opens (g g' : Gateway) (ephPub : Key) (psk : Option Key) : Prop :=
  ∃ m, g.sessionManager.Opens P rng e m ephPub psk ∧ g' = { g with sessionManager := m }

/-- Changes in which a session is opened for `opened`, when that is a client key and a PSK. -/
def ChangesOpening (opened : Option (Key × Option Key)) (g g' : Gateway) : Prop :=
  match opened with
  | none => Changes P rng cfg e g g'
  | some (ephPub, psk) => ∃ g₀ g₁, Changes P rng cfg e g g₀ ∧ Opens P rng e g₀ g₁ ephPub psk ∧
      Changes P rng cfg e g₁ g'

theorem ChangesOpening.trans {opened : Option (Key × Option Key)} {g g' g'' : Gateway}
    (h : ChangesOpening P rng cfg e opened g g') (h' : Changes P rng cfg e g' g'') :
    ChangesOpening P rng cfg e opened g g'' := by
  rcases opened with _ | ⟨ephPub, psk⟩
  · exact ReflTransGen.trans h h'
  · obtain ⟨g₀, g₁, h0, hopen, h1⟩ := h
    exact ⟨g₀, g₁, h0, hopen, h1.trans h'⟩

theorem Changes.opening {opened : Option (Key × Option Key)} {g g' g'' : Gateway}
    (h : Changes P rng cfg e g g') (h' : ChangesOpening P rng cfg e opened g' g'') :
    ChangesOpening P rng cfg e opened g g'' := by
  rcases opened with _ | ⟨ephPub, psk⟩
  · exact ReflTransGen.trans h h'
  · obtain ⟨g₀, g₁, h0, hopen, h1⟩ := h'
    exact ⟨g₀, g₁, h.trans h0, hopen, h1⟩

theorem openSession_of_found (env : Env) {addr : SocketAddr} {ephPub : Key} {tag : Tag} {g : Gateway}
    {clients : List ClientConfig} {sid : SessionId} {client : ClientConfig} {m : SessionManager}
    (hdb : g.clientDb = some clients)
    (htry : SessionManager.tryClients P env rng addr ephPub tag clients g.sessionManager =
      (some (sid, client), m)) :
    openSession P rng env addr ephPub tag g =
      (.ok (sid, some client), { g with sessionManager := m }) := by
  obtain ⟨sm, db, cooldowns, effects⟩ := g
  cases hdb
  unfold openSession
  rw [bind_of_ok (gets_apply _ _)]
  exact (bind_of_ok (manager_of_eq htry) _).trans rfl

theorem openSession_of_none (env : Env) {addr : SocketAddr} {ephPub : Key} {tag : Tag} {g : Gateway}
    {clients : List ClientConfig} {m : SessionManager} (hdb : g.clientDb = some clients)
    (htry : SessionManager.tryClients P env rng addr ephPub tag clients g.sessionManager =
      (none, m)) :
    openSession P rng env addr ephPub tag g =
      (err (.invalidPacket "No registered client matches this handshake"),
        failedHandshake env { g with sessionManager := m } addr.ip) := by
  obtain ⟨sm, db, cooldowns, effects⟩ := g
  cases hdb
  unfold openSession
  rw [bind_of_ok (gets_apply _ _)]
  exact (bind_of_ok (manager_of_eq htry) _).trans rfl

/-- Without a client database there is one attempt, with no pre-shared key. -/
theorem openSession_of_created (env : Env) {addr : SocketAddr} {ephPub : Key} {tag : Tag}
    {g : Gateway} {sid : SessionId} {m : SessionManager} (hdb : g.clientDb = none)
    (hnew : g.sessionManager.createSession P rng env addr ephPub none none = (.ok sid, m)) :
    openSession P rng env addr ephPub tag g =
      (.ok (sid, none), { g with sessionManager := m }) := by
  obtain ⟨sm, db, cooldowns, effects⟩ := g
  cases hdb
  unfold openSession
  rw [bind_of_ok (gets_apply _ _)]
  exact (bind_of_ok (managerExcept_of_ok hnew) _).trans rfl

theorem openSession_of_failed (env : Env) {addr : SocketAddr} {ephPub : Key} {tag : Tag}
    {g : Gateway} {e : Error} {m : SessionManager} (hdb : g.clientDb = none)
    (hnew : g.sessionManager.createSession P rng env addr ephPub none none = (.error e, m)) :
    openSession P rng env addr ephPub tag g = (err e, { g with sessionManager := m }) := by
  obtain ⟨sm, db, cooldowns, effects⟩ := g
  cases hdb
  unfold openSession
  rw [bind_of_ok (gets_apply _ _)]
  exact bind_of_error (managerExcept_of_error hnew) _

/-- The session for a handshake comes from one `create_session` after any number of attempts. -/
theorem openSession_cases {addr : SocketAddr} {ephPub : Key} {tag : Tag} {g g' : Gateway}
    {r : Outcome (SessionId × Option ClientConfig)}
    (h : openSession P rng e.1 addr ephPub tag g = (r, g')) :
    ((∃ e, r = .error e) ∧ Changes P rng cfg e g g') ∨
    ∃ sid client ip g₀ m, r = .ok (sid, client) ∧ Changes P rng cfg e g g₀ ∧
      g₀.sessionManager.createSession P rng e.1 addr ephPub (client.map ClientConfig.psk) ip =
        (.ok sid, m) ∧ g' = { g₀ with sessionManager := m } := by
  -- with a client database the clients are tried in turn, without one there is one attempt
  cases hdb : g.clientDb with
  | some clients =>
      rcases htry : SessionManager.tryClients P e.1 rng addr ephPub tag clients g.sessionManager
        with ⟨found, m⟩
      rcases SessionManager.changes_tryClients P rng e htry with
        ⟨rfl, hch⟩ | ⟨sid, client, m₀, rfl, hch, hnew⟩
      · rw [openSession_of_none P rng e.1 hdb htry] at h
        cases h
        exact Or.inl ⟨⟨_, rfl⟩, (changes_of_manager P rng cfg e hch).tail (Change.cooldowns _ _)⟩
      · rw [openSession_of_found P rng e.1 hdb htry] at h
        cases h
        exact Or.inr ⟨sid, some client, _, { g with sessionManager := m₀ }, m, rfl,
          changes_of_manager P rng cfg e hch, hnew, rfl⟩
  | none =>
      rcases hnew : g.sessionManager.createSession P rng e.1 addr ephPub none none with ⟨r', m⟩
      cases r' with
      | error e' =>
          rw [openSession_of_failed P rng e.1 hdb hnew] at h
          cases h
          rw [SessionManager.createSession_error P rng hnew]
          exact Or.inl ⟨⟨_, rfl⟩, ReflTransGen.refl⟩
      | ok sid =>
          rw [openSession_of_created P rng e.1 hdb hnew] at h
          cases h
          exact Or.inr ⟨sid, none, none, g, m, rfl, ReflTransGen.refl, hnew, rfl⟩

/-- So does the session whose tag was validated; without one, nothing is opened. -/
theorem offerSession_cases {packetData : Bytes} {tag : Tag} {addr : SocketAddr} {g g' : Gateway}
    {r : Outcome (SessionId × Option ClientConfig × Nat × Bool)}
    (h : offerSession P rng e.1 packetData tag addr g = (r, g')) :
    ((∃ e, r = .error e) ∧ Changes P rng cfg e g g') ∨
    ∃ sid client counter isRatcheted ip g₀ m, r = .ok (sid, client, counter, isRatcheted) ∧
      Changes P rng cfg e g g₀ ∧
      g₀.sessionManager.createSession P rng e.1 addr
        (handshakeEphPub P g.sessionManager.serverKeys.publicKeyBytes packetData)
        (client.map ClientConfig.psk) ip = (.ok sid, m) ∧
      g' = { g₀ with sessionManager := m } := by
  unfold offerSession at h
  rw [bind_of_ok (gets_apply _ _)] at h
  split_ifs at h
  · cases h
    exact Or.inl ⟨⟨_, rfl⟩, ReflTransGen.refl⟩
  · cases h
    exact Or.inl ⟨⟨_, rfl⟩, ReflTransGen.refl⟩
  · simp only [id_eq] at h
    rcases hopen : openSession P rng e.1 addr
      (handshakeEphPub P g.sessionManager.serverKeys.publicKeyBytes packetData) tag g
      with ⟨r', g₁⟩
    rcases openSession_cases P rng cfg e hopen with
      ⟨⟨e, rfl⟩, hch⟩ | ⟨sid, client, ip, g₀, m, rfl, hch, hnew, rfl⟩
    · rw [bind_of_error hopen] at h
      cases h
      exact Or.inl ⟨⟨_, rfl⟩, hch⟩
    · rw [bind_of_ok hopen] at h
      simp only at h
      rw [bind_of_ok (gets_apply _ _)] at h
      -- a session whose tag does not validate is rolled back, by a change of its own
      rcases hv : Session.validateTag P e.1.timeWindow
        (session { g₀ with sessionManager := m } sid) tag with _ | ⟨counter, isRatcheted⟩
      · rw [hv] at h
        cases h
        exact Or.inl ⟨⟨_, rfl⟩, hch.tail (Change.manager (.attempt hnew))⟩
      · rw [hv] at h
        cases h
        exact Or.inr ⟨sid, client, _, _, ip, g₀, m, rfl, hch, hnew, rfl⟩

theorem reachesFrom_acceptHandshake_tail {sid : SessionId} (client : Option ClientConfig)
    (addr : SocketAddr) {g : Gateway} (hlive : sid ∈ g.sessionManager.sessions)
    (hnone : (g.session sid).clientId = none) :
    ReachesFrom (Change P rng cfg e) (do
      modify fun g => { g with
        handshakeCooldowns := Function.update g.handshakeCooldowns addr.ip none }
      recordClient sid client
      sendServerHello P rng e.1 sid addr) g := by
  refine ReachesFrom.bind (reachesFrom_modify (Change.cooldowns _ _)) fun _ g' hg' => ?_
  cases hg'
  refine ReachesFrom.bind (reachesFrom_recordClient P rng cfg e client hnone) fun _ g'' hg'' => ?_
  have hkeeps := keeps_routing_recordClient sid client { g with
    handshakeCooldowns := Function.update g.handshakeCooldowns addr.ip none }
  rw [hg''] at hkeeps
  have hsessions : g''.sessionManager.sessions = g.sessionManager.sessions :=
    congrArg Prod.fst hkeeps
  exact reachesFrom_sendServerHello P rng cfg e addr (hsessions ▸ hlive)

/-- What the handshake branch does, by whether a session is offered. -/
theorem handshake_cases (packetData : Bytes) (tag : Tag) (addr : SocketAddr) (g : Gateway) :
    match offerSession P rng e.1 packetData tag addr g with
    | (.ok (_, client, _, _), _) => ChangesOpening P rng cfg e
        (some (handshakeEphPub P g.sessionManager.serverKeys.publicKeyBytes packetData,
          client.map ClientConfig.psk)) g (handshake P rng e.1 packetData tag addr g).2
    | (.error _, _) => Changes P rng cfg e g (handshake P rng e.1 packetData tag addr g).2 := by
  rcases hoffer : offerSession P rng e.1 packetData tag addr g with ⟨r, g'⟩
  unfold handshake
  rcases offerSession_cases P rng cfg e hoffer with
    ⟨⟨e, rfl⟩, hch⟩ | ⟨sid, client, counter, isRatcheted, ip, g₀, m, rfl, hch, hnew, rfl⟩
  · rw [bind_of_error hoffer]
    exact hch
  · rw [bind_of_ok hoffer]
    simp only
    refine ⟨g₀, { g₀ with sessionManager := m.establish sid (client.map ClientConfig.psk) }, hch,
      ⟨_, ⟨addr, ip, sid, m, hnew, rfl⟩, rfl⟩, ?_⟩
    have hnone : ((m.establish sid (client.map ClientConfig.psk)).heap sid).clientId = none := by
      rw [SessionManager.establish_heap]
      exact SessionManager.createSession_clientId hnew
    have htail := reachesFrom_acceptHandshake_tail P rng cfg e client addr
      (g := { g₀ with sessionManager := m.establish sid (client.map ClientConfig.psk) })
      (SessionManager.establish_live hnew _) hnone
    exact ReachesFrom.bind (R := Change P rng cfg e) htail fun _ _ _ => reachesFrom_pure _

theorem identify_opening {packetData : Bytes} (hlen : ¬ packetData.length < tagSize + 2)
    (addr : SocketAddr) (g : Gateway) :
    ChangesOpening P rng cfg e (acceptedHandshake P rng e.1 g packetData addr) g
      (identify P rng e.1 packetData addr g).2 := by
  unfold identify acceptedHandshake
  rw [if_neg hlen]
  simp only
  have hfind := SessionManager.changes_findSession P rng e g.sessionManager
    (readArray 8 0 packetData) addr.ip
  rcases hr : g.sessionManager.findSession P e.1 (readArray 8 0 packetData) addr.ip with ⟨r, m⟩
  rw [hr] at hfind
  rcases r with err | _ | ⟨sid, counter, isRatcheted⟩
  · rw [bind_of_error (managerExcept_of_error hr)]
    exact changes_of_manager P rng cfg e hfind
  · rw [bind_of_ok (managerExcept_of_ok hr)]
    simp only
    have hhand := handshake_cases P rng cfg e packetData (readArray 8 0 packetData) addr
      { g with sessionManager := m }
    refine Changes.opening P rng cfg e (changes_of_manager P rng cfg e hfind) ?_
    rcases hoffer : offerSession P rng e.1 packetData (readArray 8 0 packetData) addr
      { g with sessionManager := m } with ⟨err | ⟨sid, client, counter, isRatcheted⟩, g'⟩
    · rw [hoffer] at hhand
      exact hhand
    · rw [hoffer] at hhand
      exact hhand
  · rw [bind_of_ok (managerExcept_of_ok hr)]
    exact changes_of_manager P rng cfg e hfind

theorem payloadOffset_cases (s : Session) (t : TagMatch) (len : Nat) :
    payloadOffset s t len = tagSize + mdhLen ∨ payloadOffset s t len = tagSize + mdhLen + 32 := by
  unfold payloadOffset
  simp only
  split_ifs
  · exact Or.inr rfl
  · exact Or.inl rfl

/-- A datagram with a tag of the pending keys is decrypted under the pending keys. -/
theorem decryptDatagram_under {P : Primitives} {s : Session} {t : TagMatch}
    {packetData padded : Bytes} (hratcheted : t.isRatchetedTag = true)
    (h : decryptDatagram P s t packetData = .ok padded) :
    ∃ keys, s.ratchetedKeys = some keys ∧ P.decryptPayload keys.sessionKey
      (counterToNonce t.counter) (packetData.drop (payloadOffset s t packetData.length)) =
        .ok padded := by
  unfold decryptDatagram payloadKey at h
  simp only at h
  split_ifs at h
  cases hkeys : s.ratchetedKeys with
  | none =>
      rw [hkeys] at h
      cases h
  | some keys =>
      rw [hkeys] at h
      exact ⟨keys, rfl, h⟩

/-- The stages of `handle_packet` behind the identification of the session. -/
theorem reachesFrom_receive {packetData : Bytes} {addr : SocketAddr}
    (he : e.2 = .packet packetData addr) (t : TagMatch) (g : Gateway) :
    ReachesFrom (Change P rng cfg e) (do
      let s ← gets fun g => g.session t.sessionId
      let padded ← ofExcept (decryptDatagram P s t packetData)
      ratchet t
      let plaintext ← ofExcept (stripPadding padded)
      let flush ← manager fun m => m.receive P e.1 t addr packetData.length
      recordTraffic flush
      pure (t, plaintext)) g := by
  apply reachesFrom_gets_bind
  refine ReachesFrom.bind (reachesFrom_ofExcept _) fun padded g₁ hdec => ?_
  refine ReachesFrom.bind ?_ fun _ g₂ _ => ?_
  · unfold ratchet
    split_ifs with hratcheted
    · have hok : decryptDatagram P (g.session t.sessionId) t packetData = .ok padded ∧ g₁ = g := by
        rcases hd : decryptDatagram P (g.session t.sessionId) t packetData with err | padded'
        · rw [hd] at hdec
          cases hdec
        · rw [hd] at hdec
          cases hdec
          exact ⟨rfl, rfl⟩
      obtain ⟨hok, rfl⟩ := hok
      -- the ratchet rests on a ciphertext that opens under the ratcheted keys
      obtain ⟨keys, hkeys, hopens⟩ := decryptDatagram_under hratcheted hok
      refine reachesFrom_modifyManager P rng cfg e (ReflTransGen.single (.ratchet hkeys ?_))
      rw [he]
      exact ⟨_, _, _, payloadOffset_cases _ _ _, hopens⟩
    · exact reachesFrom_pure _
  refine ReachesFrom.bind (reachesFrom_ofExcept _) fun plaintext g₃ _ => ?_
  refine ReachesFrom.bind (reachesFrom_manager P rng cfg e
    (ReflTransGen.single (.receive _ t addr _))) fun flush g₄ _ => ?_
  refine ReachesFrom.bind (reachesFrom_recordTraffic P rng cfg e flush g₄) fun _ g₅ _ => ?_
  exact reachesFrom_pure _

/-- Once its session is identified, a datagram only makes changes. -/
theorem changes_handlePacket {packetData : Bytes} (hlen : ¬ packetData.length < tagSize + 2)
    {addr : SocketAddr} (he : e.2 = .packet packetData addr) (g : Gateway) :
    Changes P rng cfg e (identify P rng e.1 packetData addr g).2
      (handlePacket P rng cfg e.1 packetData addr g).2 := by
  have hreceived : Changes P rng cfg e (identify P rng e.1 packetData addr g).2
      (receivePacket P rng e.1 packetData addr g).2 := by
    unfold receivePacket
    rw [if_neg hlen, bind_apply]
    rcases identify P rng e.1 packetData addr g with ⟨err | t, g₁⟩
    · exact ReflTransGen.refl
    · exact reachesFrom_receive P rng cfg e he t g₁
  unfold handlePacket
  rcases hr : receivePacket P rng e.1 packetData addr g with ⟨err | ⟨t, plaintext⟩, g'⟩
  · rw [hr] at hreceived
    rw [bind_of_error hr]
    exact hreceived
  · rw [hr] at hreceived
    rw [bind_of_ok hr]
    simp only
    split_ifs with hnew
    · exact hreceived
    · exact hreceived.trans (reachesFrom_processInnerPayload P rng cfg e plaintext addr
        (receivePacket_live P rng e.1 hlen hr (by simpa using hnew)))

theorem handlePacket_opening {packetData : Bytes} {addr : SocketAddr}
    (he : e.2 = .packet packetData addr) (g : Gateway) :
    ChangesOpening P rng cfg e (acceptedHandshake P rng e.1 g packetData addr) g
      (handlePacket P rng cfg e.1 packetData addr g).2 := by
  by_cases hlen : packetData.length < tagSize + 2
  · unfold handlePacket
    rw [acceptedHandshake, if_pos hlen, bind_of_error (receivePacket_short P rng e.1 hlen addr g)]
    exact ReflTransGen.refl
  · exact (identify_opening P rng cfg e hlen addr g).trans P rng cfg e
      (changes_handlePacket P rng cfg e hlen he g)

/-! ## Steps and runs -/

/-- The client key and PSK for which a step opens a session. -/
def opened (g : Gateway) (e : Env × Event) : Option (Key × Option Key) :=
  match e.2 with
  | .packet packetData addr => acceptedHandshake P rng e.1 g packetData addr
  | _ => none

/-- A step makes changes, and opens the session of an accepted handshake. -/
theorem step_cases (g : Gateway) :
    ChangesOpening P rng cfg e (opened P rng g e) g (step P rng cfg g e) := by
  rcases e with ⟨env, event⟩
  cases event with
  | packet packetData addr => exact handlePacket_opening P rng cfg _ rfl g
  | tun packet => exact reachesFrom_tunRead P rng cfg _ packet g
  | rotateMask sid maskData => exact reachesFrom_rotateMask P rng cfg _ sid maskData g
  | cleanup =>
      exact reachesFrom_modifyManager P rng cfg _ (SessionManager.changes_removeSessions P rng _ _ _)
  | reload clients => exact reachesFrom_modify (Change.clients rfl)
  | rehash sessions =>
      refine reachesFrom_modifyManager P rng cfg _ ?_
      show SessionManager.Changes P rng _ g.sessionManager
        (if sessions.Perm g.sessionManager.sessions then _ else _)
      split_ifs with hperm
      · exact ReflTransGen.single (.reorder hperm)
      · exact ReflTransGen.refl

variable {e}

/-- What every change of the session manager keeps, changes of the gateway keep. -/
theorem Changes.of_change {Inv : SessionManager → Prop} {g g' : Gateway}
    (h : Changes P rng cfg e g g')
    (hchange : ∀ m m', Inv m → SessionManager.Change P rng e m m' → Inv m')
    (hg : Inv g.sessionManager) : Inv g'.sessionManager := by
  induction h with
  | refl => exact hg
  | tail _ hlast ih =>
      cases hlast with
      | manager hm => exact hchange _ _ ih hm
      | emit _ => exact ih
      | cooldowns _ => exact ih
      | clients _ => exact ih

theorem ChangesOpening.of_change {Inv : SessionManager → Prop} {g g' : Gateway}
    {opened : Option (Key × Option Key)} (h : ChangesOpening P rng cfg e opened g g')
    (hchange : ∀ m m', Inv m → SessionManager.Change P rng e m m' → Inv m')
    (hopen : ∀ m m' ephPub psk, Inv m → m.Opens P rng e m' ephPub psk → Inv m')
    (hg : Inv g.sessionManager) : Inv g'.sessionManager := by
  revert h
  rcases opened with _ | ⟨ephPub, psk⟩
  · exact fun h => Changes.of_change P rng cfg h hchange hg
  · rintro ⟨g₀, _, h0, ⟨m, hm, rfl⟩, h1⟩
    exact Changes.of_change P rng cfg h1 hchange
      (hopen _ _ ephPub psk (Changes.of_change P rng cfg h0 hchange hg) hm)

/-- The database changes only in a reload. -/
theorem Changes.clientDb {g g' : Gateway} (h : Changes P rng cfg e g g')
    (he : ∀ clients, e.2 ≠ .reload clients) : g'.clientDb = g.clientDb := by
  induction h with
  | refl => rfl
  | tail _ hlast ih =>
      cases hlast with
      | manager hm => exact ih
      | emit _ => exact ih
      | cooldowns _ => exact ih
      | clients hreload => exact absurd hreload (he _)

theorem ChangesOpening.clientDb {g g' : Gateway} {opened : Option (Key × Option Key)}
    (h : ChangesOpening P rng cfg e opened g g') (he : ∀ clients, e.2 ≠ .reload clients) :
    g'.clientDb = g.clientDb := by
  revert h
  rcases opened with _ | ⟨ephPub, psk⟩
  · exact fun h => Changes.clientDb P rng cfg h he
  · rintro ⟨g₀, _, h0, ⟨m, hm, rfl⟩, h1⟩
    have hbefore : g₀.clientDb = g.clientDb := Changes.clientDb P rng cfg h0 he
    rw [Changes.clientDb P rng cfg h1 he]
    exact hbefore

/-- The rule for one step: what every change and every opening of a session keeps, the step
keeps. -/
theorem step_of_change {Inv : SessionManager → Prop} {g : Gateway} (hg : Inv g.sessionManager)
    (hchange : ∀ m m', Inv m → SessionManager.Change P rng e m m' → Inv m')
    (hopen : ∀ m m' ephPub psk, Inv m → m.Opens P rng e m' ephPub psk → Inv m') :
    Inv (step P rng cfg g e).sessionManager :=
  ChangesOpening.of_change P rng cfg (step_cases P rng cfg e g) hchange hopen hg

/-- The induction rule for the gateway: an invariant of the session manager that every change and
every opening of a session keeps holds at the end of every run. -/
theorem runFrom_of_change {Inv : SessionManager → Prop} {g : Gateway} (h0 : Inv g.sessionManager)
    (hchange : ∀ e m m', Inv m → SessionManager.Change P rng e m m' → Inv m')
    (hopen : ∀ e m m' ephPub psk, Inv m → m.Opens P rng e m' ephPub psk → Inv m')
    (es : List (Env × Event)) : Inv (runFrom (step P rng cfg) g es).sessionManager := by
  have hrun := @runFrom_invariant Gateway (Env × Event) (step P rng cfg)
    (fun g => Inv g.sessionManager)
    (fun _ e hg => step_of_change P rng cfg hg (hchange e) (hopen e)) g h0 es
  exact hrun

end Gateway

end Aivpn
