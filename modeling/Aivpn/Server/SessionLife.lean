import Aivpn.Server.Evolution

/-!
# What happens to one session

A change of the session manager seen from one session: it leaves the session alone, or makes one
of the changes listed in `Session.Change`, or creates the session (`Change.heap_cases`). The keys
of a session move only when the session ratchets (`Session.Change.ratchet_cases`).
-/

set_option autoImplicit false

namespace Aivpn

open Aivpn.Lib

/-- The changes of a session while `e` is handled. -/
inductive Session.Change (P : Primitives) (e : Env × Gateway.Event) : Session → Session → Prop where
  | refresh (s : Session) : Change P e s
      ((s.updateTagWindow P e.1.timeWindow).updateRatchetedTagWindow P e.1.timeWindow)
  | recover {s : Session} {tag : Tag} {c : Nat}
      (hfind : s.recoverySearch P e.1.timeWindow tag = some c) :
      Change P e s (s.recoverAt P e.1.timeWindow c)
  | ratchet {s : Session} {keys : SessionKeys} (hkeys : s.ratchetedKeys = some keys)
      (hopens : e.2.DecryptsUnder P keys.sessionKey) : Change P e s s.completeRatchet
  | receive (s : Session) (counter : Nat) (isNewSession : Bool) (addr : SocketAddr)
      (len : Nat) : Change P e s (s.receive P e.1 counter isNewSession addr len).1
  | identify {s : Session} (clientId : String) (hnone : s.clientId = none) :
      Change P e s { s with clientId := some clientId }
  | takeSeq (s : Session) : Change P e s s.nextSeq.2
  | send (s : Session) : Change P e s s.nextSendNonce.2.2

/-! ## Key state -/

/-- The part of a session that decides how its packets are encrypted and which keys come next. -/
structure KeyState where
  keys : SessionKeys
  ephPub : Key
  sendCounter : Nat
  serverEphPub : Option Key
  ratchetedKeys : Option SessionKeys
  isRatcheted : Bool
deriving DecidableEq

namespace Session

/-- The key state of a session. -/
def keyState (s : Session) : KeyState where
  keys := s.keys
  ephPub := s.ephPub
  sendCounter := s.sendCounter
  serverEphPub := s.serverEphPub
  ratchetedKeys := s.ratchetedKeys
  isRatcheted := s.isRatcheted

variable (P : Primitives)

@[simp] theorem updateTagWindow_keyState (tw : Nat) (s : Session) :
    (s.updateTagWindow P tw).keyState = s.keyState := by
  simp only [keyState, updateTagWindow]

@[simp] theorem updateRatchetedTagWindow_keyState (tw : Nat) (s : Session) :
    (s.updateRatchetedTagWindow P tw).keyState = s.keyState := by
  unfold updateRatchetedTagWindow
  split <;> rfl

@[simp] theorem recoverAt_keyState (tw c : Nat) (s : Session) :
    (s.recoverAt P tw c).keyState = s.keyState := by
  unfold recoverAt
  rw [updateTagWindow_keyState]
  rfl

@[simp] theorem markTagReceived_keyState (s : Session) (c : Nat) :
    (s.markTagReceived c).keyState = s.keyState := by
  unfold markTagReceived
  simp only
  split_ifs <;> rfl

@[simp] theorem receive_keyState (env : Env) (s : Session) (c : Nat) (isNew : Bool)
    (addr : SocketAddr) (len : Nat) :
    (s.receive P env c isNew addr len).1.keyState = s.keyState := by
  have hmark := s.markTagReceived_keyState c
  unfold receive
  simp only
  generalize s.markTagReceived c = t at hmark
  rw [← hmark]
  split_ifs <;> rfl

/-- A change keeps the keys of a session and the stage of its ratchet, unless the session ratchets
on a datagram under its pending keys. -/
theorem Change.ratchet_cases {e : Env × Gateway.Event} {s s' : Session}
    (h : Session.Change P e s s') :
    (s'.keys = s.keys ∧ s'.ratchetedKeys = s.ratchetedKeys ∧ s'.isRatcheted = s.isRatcheted) ∨
    ∃ keys, s.ratchetedKeys = some keys ∧ e.2.DecryptsUnder P keys.sessionKey ∧
      s' = s.completeRatchet := by
  have hsame : ∀ {t : Session}, t.keyState = s.keyState →
      t.keys = s.keys ∧ t.ratchetedKeys = s.ratchetedKeys ∧ t.isRatcheted = s.isRatcheted :=
    fun ht => ⟨congrArg KeyState.keys ht, congrArg KeyState.ratchetedKeys ht,
      congrArg KeyState.isRatcheted ht⟩
  cases h with
  | refresh => exact Or.inl (hsame (by simp))
  | recover hfind => exact Or.inl (hsame (by simp))
  | ratchet hkeys hopens => exact Or.inr ⟨_, hkeys, hopens, rfl⟩
  | receive counter isNew addr len => exact Or.inl (hsame (by simp))
  | identify clientId hnone => exact Or.inl ⟨rfl, rfl, rfl⟩
  | takeSeq => exact Or.inl ⟨rfl, rfl, rfl⟩
  | send => exact Or.inl ⟨rfl, rfl, rfl⟩

theorem completeRatchet_of_pending {s : Session} {keys : SessionKeys}
    (h : s.ratchetedKeys = some keys) : s.completeRatchet.keys = keys ∧
      s.completeRatchet.ratchetedKeys = none ∧ s.completeRatchet.isRatcheted = true := by
  unfold completeRatchet
  rw [h]
  exact ⟨rfl, rfl, rfl⟩

end Session

/-- The lookup chain leaves the key states alone. -/
theorem SessionManager.findSession_keyState (P : Primitives) (env : Env) (m : SessionManager)
    (tag : Tag) (ip : IpAddr) (sid : SessionId) :
    ((m.findSession P env tag ip).2.heap sid).keyState = (m.heap sid).keyState :=
  findSession_heap P Session.keyState (fun tw s => by simp) (fun tw c s => by simp) env m tag ip sid

/-! ## Creation -/

namespace SessionManager

variable (P : Primitives) (rng : Randomness)

/-- `s` is what `create_session` makes for the given client key and PSK. -/
def Creates (env : Env) (m : SessionManager) (ephPub : Key) (psk : Option Key) (s : Session) :
    Prop :=
  ∃ addr dh1 dh2 vpnIp,
    P.computeShared m.serverKeys ephPub = .ok dh1 ∧
    P.computeShared (P.fromPrivateKey (rng.serverEph m.nextId)) ephPub = .ok dh2 ∧
    s = { m.initialSession P env addr ephPub (P.deriveSessionKeys dh1 psk ephPub)
      (P.fromPrivateKey (rng.serverEph m.nextId)) dh2 with vpnIp := vpnIp }

/-- The key state of a new session. -/
theorem initialSession_keyState (m : SessionManager) (env : Env) (addr : SocketAddr) (ephPub : Key)
    (initialKeys : SessionKeys) (serverEphKp : KeyPair) (dh2 : Key) :
    (m.initialSession P env addr ephPub initialKeys serverEphKp dh2).keyState =
      { keys := initialKeys
        ephPub := ephPub
        sendCounter := 0
        serverEphPub := some serverEphKp.publicKeyBytes
        ratchetedKeys := some (P.deriveSessionKeys dh2 (some initialKeys.sessionKey) ephPub)
        isRatcheted := false } := by
  unfold initialSession
  simp only [Session.updateRatchetedTagWindow_keyState, Session.updateTagWindow_keyState]
  rfl

variable {P rng}

theorem createSession_heap {env : Env} {m m' : SessionManager} {addr : SocketAddr} {ephPub : Key}
    {psk : Option Key} {ip : Option Ipv4Addr} {sid : SessionId}
    (h : m.createSession P rng env addr ephPub psk ip = (.ok sid, m')) :
    ∃ s, m.Creates P rng env ephPub psk s ∧ sid = m.nextId ∧
      m'.heap = Function.update m.heap m.nextId s := by
  obtain ⟨-, -, hsid, dh1, dh2, hdh1, hdh2, rfl⟩ := createSession_ok h
  exact ⟨_, ⟨addr, dh1, dh2, _, hdh1, hdh2, rfl⟩, hsid, rfl⟩

variable (P rng)

/-! ## What the operations do to the sessions' contents -/

@[simp] theorem removeSession_nextId (m : SessionManager) (sid : SessionId) :
    (m.removeSession sid).nextId = m.nextId := by
  unfold removeSession
  split_ifs <;> rfl

@[simp] theorem removeSessions_nextId (m : SessionManager) (sids : List SessionId) :
    (m.removeSessions sids).nextId = m.nextId := by
  induction sids generalizing m with
  | nil => rfl
  | cons sid rest ih =>
      show (removeSessions (m.removeSession sid) rest).nextId = m.nextId
      rw [ih, removeSession_nextId]

@[simp] theorem establish_nextId (m : SessionManager) (sid : SessionId) (psk : Option Key) :
    (m.establish sid psk).nextId = m.nextId := by
  unfold establish cleanupOldSessionsForVpnIp
  simp only
  split
  · exact removeSessions_nextId m _
  · rfl

@[simp] theorem rollbackFailedSession_nextId (m : SessionManager) (sid : SessionId) :
    (m.rollbackFailedSession sid).nextId = m.nextId := by
  unfold rollbackFailedSession
  simp only
  split
  · exact removeSession_nextId m sid
  · split
    · exact removeSession_nextId m sid
    · exact removeSession_nextId m sid

@[simp] theorem refreshSessionTags_heap (m : SessionManager) (sid : SessionId) :
    (m.refreshSessionTags sid).heap = m.heap := by
  unfold refreshSessionTags
  split_ifs <;> rfl

theorem completeSessionRatchet_heap (m : SessionManager) (sid : SessionId) :
    (m.completeSessionRatchet sid).heap = m.heap ∨
      (m.completeSessionRatchet sid).heap =
        Function.update m.heap sid (m.heap sid).completeRatchet := by
  unfold completeSessionRatchet
  split_ifs
  · exact Or.inr rfl
  · exact Or.inl rfl

theorem receive_heap (env : Env) (m : SessionManager) (t : TagMatch) (addr : SocketAddr)
    (len : Nat) : (m.receive P env t addr len).2.heap = Function.update m.heap t.sessionId
      ((m.heap t.sessionId).receive P env t.counter t.isNewSession addr len).1 := by
  unfold receive
  simp only
  split_ifs
  · rw [refreshSessionTags_heap]
    rfl
  · rfl

variable {P rng} {e : Env × Gateway.Event}

/-- A change seen from one session. -/
theorem Change.heap_cases {m m' : SessionManager} (h : Change P rng e m m') (sid : SessionId) :
    m'.heap sid = m.heap sid ∨ Session.Change P e (m.heap sid) (m'.heap sid) ∨
      ∃ ephPub psk, sid = m.nextId ∧ sid < m'.nextId ∧
        m.Creates P rng e.1 ephPub psk (m'.heap sid) := by
  -- a change that rewrites the cell of one session concerns no other session
  have hupd : ∀ {sid' : SessionId} {s : Session}, m'.heap = Function.update m.heap sid' s →
      Session.Change P e (m.heap sid') s →
      m'.heap sid = m.heap sid ∨ Session.Change P e (m.heap sid) (m'.heap sid) ∨
        ∃ ephPub psk, sid = m.nextId ∧ sid < m'.nextId ∧
          m.Creates P rng e.1 ephPub psk (m'.heap sid) := by
    intro sid' s hheap hs
    rw [hheap]
    by_cases heq : sid = sid'
    · subst heq
      rw [Function.update_self]
      exact Or.inr (Or.inl hs)
    · rw [Function.update_of_ne heq]
      exact Or.inl rfl
  cases h with
  | refresh hlive => exact hupd rfl (.refresh _)
  | recover hhit =>
      exact hupd (recoverSessionByTag_of_hit P hhit) (.recover (recoveryHit_mem P hhit).2.2)
  | @ratchet sid' keys hkeys hopens =>
      rcases completeSessionRatchet_heap m sid' with hsame | hupdate
      · exact Or.inl (by rw [refreshSessionTags_heap, hsame])
      · exact hupd (by rw [refreshSessionTags_heap, hupdate]) (.ratchet hkeys hopens)
  | receive t addr len => exact hupd (receive_heap P e.1 m t addr len) (.receive _ _ _ _ _)
  | identify clientId hnone => exact hupd rfl (.identify clientId hnone)
  | takeSeq sid' => exact hupd rfl (.takeSeq _)
  | draw => exact Or.inl rfl
  | encrypt mdh hlive hinner hpad => exact hupd rfl (.send _)
  | attempt hnew =>
      obtain ⟨s, hs, -, hheap⟩ := createSession_heap hnew
      rw [rollbackFailedSession_heap, rollbackFailedSession_nextId,
        (createSession_sessions hnew).2.1, hheap]
      by_cases heq : sid = m.nextId
      · subst heq
        rw [Function.update_self]
        exact Or.inr (Or.inr ⟨_, _, rfl, Nat.lt_succ_self _, hs⟩)
      · rw [Function.update_of_ne heq]
        exact Or.inl rfl
  | remove sid' => exact Or.inl (by rw [removeSession_heap])
  | reorder hperm => exact Or.inl rfl

/-- The opening of a session seen from one session. -/
theorem Opens.heap_cases {m m' : SessionManager} {ephPub : Key} {psk : Option Key}
    (h : m.Opens P rng e m' ephPub psk) (sid : SessionId) :
    (sid ≠ m.nextId ∧ m'.heap sid = m.heap sid) ∨
      (sid = m.nextId ∧ m.Creates P rng e.1 ephPub psk (m'.heap sid)) := by
  obtain ⟨addr, ip, sid', m₁, hnew, rfl⟩ := h
  obtain ⟨s, hs, -, hheap⟩ := createSession_heap hnew
  rw [establish_heap, hheap]
  by_cases heq : sid = m.nextId
  · subst heq
    rw [Function.update_self]
    exact Or.inr ⟨rfl, hs⟩
  · rw [Function.update_of_ne heq]
    exact Or.inl ⟨heq, rfl⟩

end SessionManager

namespace SessionManager

/-! ## The server's key and the records -/

/-- The server's static key, the sessions established and the encryptions made so far. -/
def records (m : SessionManager) : KeyPair × List Established × List EncryptCall :=
  (m.serverKeys, m.established, m.encryptCalls)

@[simp] theorem removeSession_records (m : SessionManager) (sid : SessionId) :
    (m.removeSession sid).records = m.records := by
  unfold removeSession
  split_ifs <;> rfl

@[simp] theorem removeSessions_records (m : SessionManager) (sids : List SessionId) :
    (m.removeSessions sids).records = m.records := by
  induction sids generalizing m with
  | nil => rfl
  | cons sid rest ih =>
      show (removeSessions (m.removeSession sid) rest).records = m.records
      rw [ih, removeSession_records]

@[simp] theorem rollbackFailedSession_records (m : SessionManager) (sid : SessionId) :
    (m.rollbackFailedSession sid).records = m.records := by
  unfold rollbackFailedSession
  simp only
  split
  · exact removeSession_records m sid
  · split
    · exact removeSession_records m sid
    · exact removeSession_records m sid

@[simp] theorem refreshSessionTags_records (m : SessionManager) (sid : SessionId) :
    (m.refreshSessionTags sid).records = m.records := by
  unfold refreshSessionTags
  split_ifs <;> rfl

variable {P : Primitives} {rng : Randomness} {e : Env × Gateway.Event}

theorem createSession_records {env : Env} {m m' : SessionManager} {addr : SocketAddr}
    {ephPub : Key} {psk : Option Key} {ip : Option Ipv4Addr} {sid : SessionId}
    (h : m.createSession P rng env addr ephPub psk ip = (.ok sid, m')) :
    m'.records = m.records := by
  obtain ⟨-, -, -, dh1, dh2, -, -, rfl⟩ := createSession_ok h
  rfl

/-- Only an encryption adds to the records; the other changes move the key state of an allocated
session only when it ratchets. -/
theorem Change.records_cases {m m' : SessionManager} (h : Change P rng e m m') :
    (m'.records = m.records ∧ ∀ sid < m.nextId,
      (m'.heap sid).keyState = (m.heap sid).keyState ∨
        m'.heap sid = (m.heap sid).completeRatchet) ∨
    ∃ sid inner padding mdh, sid ∈ m.sessions ∧ ServerInner (m.heap sid) inner ∧
      padding.length ≤ 16 ∧ m' = (m.sealPacket P e.1 sid mdh (padPlaintext inner padding)).2 := by
  -- a change that rewrites the cell of one session concerns no other session
  have hupd : ∀ {sid' : SessionId} {s : Session}, m'.heap = Function.update m.heap sid' s →
      s.keyState = (m.heap sid').keyState ∨ s = (m.heap sid').completeRatchet →
      ∀ sid < m.nextId, (m'.heap sid).keyState = (m.heap sid).keyState ∨
        m'.heap sid = (m.heap sid).completeRatchet := by
    intro sid' s hheap hs sid _
    rw [hheap]
    by_cases heq : sid = sid'
    · subst heq
      rw [Function.update_self]
      exact hs
    · rw [Function.update_of_ne heq]
      exact Or.inl rfl
  cases h with
  | refresh hlive => exact Or.inl ⟨rfl, hupd rfl (Or.inl (by simp))⟩
  | recover hhit =>
      refine Or.inl ⟨by simp [recoverSessionByTag, hhit, setSession, records], ?_⟩
      exact hupd (recoverSessionByTag_of_hit P hhit) (Or.inl (by simp))
  | @ratchet sid keys hkeys hopens =>
      refine Or.inl ⟨?_, ?_⟩
      · rw [refreshSessionTags_records]
        unfold completeSessionRatchet
        split_ifs <;> rfl
      · rcases completeSessionRatchet_heap m sid with hsame | hupdate
        · exact fun sid' _ => Or.inl (by rw [refreshSessionTags_heap, hsame])
        · exact hupd (by rw [refreshSessionTags_heap, hupdate]) (Or.inr rfl)
  | receive t addr len =>
      refine Or.inl ⟨?_, hupd (receive_heap P e.1 m t addr len) (Or.inl (by simp))⟩
      unfold SessionManager.receive
      simp only
      split_ifs
      · rw [refreshSessionTags_records]
        rfl
      · rfl
  | identify clientId hnone => exact Or.inl ⟨rfl, hupd rfl (Or.inl rfl)⟩
  | takeSeq sid => exact Or.inl ⟨rfl, hupd rfl (Or.inl rfl)⟩
  | draw => exact Or.inl ⟨rfl, fun _ _ => Or.inl rfl⟩
  | encrypt mdh hlive hinner hpad =>
      exact Or.inr ⟨_, _, _, mdh, hlive, hinner, hpad, rfl⟩
  | attempt hnew =>
      refine Or.inl ⟨by rw [rollbackFailedSession_records, createSession_records hnew], ?_⟩
      intro sid hsid
      obtain ⟨s, -, -, hheap⟩ := createSession_heap hnew
      rw [rollbackFailedSession_heap, hheap, Function.update_of_ne (Nat.ne_of_lt hsid)]
      exact Or.inl rfl
  | remove sid => exact Or.inl ⟨by rw [removeSession_records], fun _ _ => Or.inl (by simp)⟩
  | reorder hperm => exact Or.inl ⟨rfl, fun _ _ => Or.inl rfl⟩

/-- The server's static key stays. -/
theorem Change.serverKeys {m m' : SessionManager} (h : Change P rng e m m') :
    m'.serverKeys = m.serverKeys := by
  rcases h.records_cases with ⟨hsame, -⟩ | ⟨sid, inner, padding, mdh, -, -, -, rfl⟩
  · exact congrArg Prod.fst hsame
  · rfl

theorem Changes.serverKeys {m m' : SessionManager} (h : Changes P rng e m m') :
    m'.serverKeys = m.serverKeys := by
  induction h with
  | refl => rfl
  | tail _ hlast ih => exact hlast.serverKeys.trans ih

theorem establish_records (m : SessionManager) (sid : SessionId) (psk : Option Key) :
    (m.establish sid psk).records =
      (m.serverKeys, ⟨sid, (m.heap sid).ephPub, psk⟩ :: m.established, m.encryptCalls) := by
  unfold establish cleanupOldSessionsForVpnIp
  simp only
  split
  · next ip hip =>
      have hclean := removeSessions_records m
        (m.sessions.filter fun other => (m.heap other).vpnIp = some ip ∧ other ≠ sid)
      simp only [records, Prod.mk.injEq] at hclean ⊢
      exact ⟨hclean.1, congrArg _ hclean.2.1, hclean.2.2⟩
  · rfl

/-- The opening of a session records it under the next id. -/
theorem Opens.records {m m' : SessionManager} {ephPub : Key} {psk : Option Key}
    (h : m.Opens P rng e m' ephPub psk) : m'.records =
      (m.serverKeys, ⟨m.nextId, ephPub, psk⟩ :: m.established, m.encryptCalls) := by
  obtain ⟨addr, ip, sid, m₁, hnew, rfl⟩ := h
  have hrecords := createSession_records hnew
  obtain ⟨s, ⟨addr', dh1, dh2, vpnIp, -, -, hs⟩, rfl, hheap⟩ := createSession_heap hnew
  have heph : (m₁.heap m.nextId).ephPub = ephPub := by
    rw [hheap, Function.update_self, hs]
    exact congrArg KeyState.ephPub (m.initialSession_keyState P e.1 addr' ephPub _ _ dh2)
  simp only [SessionManager.records, Prod.mk.injEq] at hrecords
  rw [establish_records, heph, hrecords.1, hrecords.2.1, hrecords.2.2]

end SessionManager

/-- The step rule for a property of single sessions: a step keeps it when new sessions have it and
every change of a session keeps it. -/
theorem Gateway.session_of_step {P : Primitives} {rng : Randomness} {cfg : GatewayConfig}
    {e : Env × Event} {Q : SessionId → Session → Prop} {g : Gateway}
    (hg : ∀ sid, Q sid (g.session sid))
    (hnew : ∀ m ephPub psk s, SessionManager.Creates P rng e.1 m ephPub psk s → Q m.nextId s)
    (hchange : ∀ sid s s', Q sid s → Session.Change P e s s' → Q sid s') (sid : SessionId) :
    Q sid ((step P rng cfg g e).session sid) := by
  have hstep := @step_of_change P rng cfg e (fun m => ∀ sid, Q sid (m.heap sid)) g hg
    (fun m m' hm h sid => by
      rcases h.heap_cases sid with heq | hs | ⟨ephPub, psk, rfl, -, hs⟩
      · rw [heq]
        exact hm sid
      · exact hchange sid _ _ (hm sid) hs
      · exact hnew m ephPub psk _ hs)
    (fun m m' ephPub psk hm h sid => by
      rcases h.heap_cases sid with ⟨-, heq⟩ | ⟨rfl, hs⟩
      · rw [heq]
        exact hm sid
      · exact hnew m ephPub psk _ hs)
  exact hstep sid

/-- The induction rule for such a property. -/
theorem Gateway.session_of_change {P : Primitives} {rng : Randomness} {cfg : GatewayConfig}
    {Q : Session → Prop} {g : Gateway} (h0 : ∀ sid, Q (g.session sid))
    (hnew : ∀ env m ephPub psk s, SessionManager.Creates P rng env m ephPub psk s → Q s)
    (hchange : ∀ e s s', Q s → Session.Change P e s s' → Q s') (es : List (Env × Event))
    (sid : SessionId) : Q ((runFrom (step P rng cfg) g es).session sid) := by
  have hrun := @runFrom_invariant Gateway (Env × Event) (step P rng cfg)
    (fun g => ∀ sid, Q (g.session sid))
    (fun g e hg => session_of_step (Q := fun _ s => Q s) hg (fun m => hnew e.1 m)
      (fun _ => hchange e)) g h0 es
  exact hrun sid

end Aivpn
