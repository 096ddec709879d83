import Aivpn.Server.SessionLife

/-!
# Live sessions and routes

Which sessions the session map holds after each operation, and the session a VPN address is routed
to. In every run of the gateway, live sessions have allocated ids, and `vpn_ip_map` sends an
address to a session exactly when that session is live and has the address (`mapInv_of_run`). The
second fact does not hold between the creation of a session and its acceptance or rollback, so it
is an invariant of the changes in `SessionManager.Change` and of nothing smaller.
-/

set_option autoImplicit false

namespace Aivpn

open Aivpn.Lib

/-- The ids of live sessions have been allocated. -/
def SessionManager.Allocated (m : SessionManager) : Prop := ∀ sid ∈ m.sessions, sid < m.nextId

namespace SessionManager

variable {P : Primitives} {rng : Randomness}

theorem rollbackFailedSession_sessions (m : SessionManager) (sid : SessionId) :
    (m.rollbackFailedSession sid).sessions = (m.removeSession sid).sessions := by
  unfold rollbackFailedSession
  simp only
  split
  · rfl
  · split
    · rfl
    · rfl

/-! ## Changes of the map -/

/-- The session map, the routes and the sessions' VPN addresses are the same. -/
structure SameMap (m m' : SessionManager) : Prop where
  sessions : m'.sessions = m.sessions
  nextId : m'.nextId = m.nextId
  vpnIpMap : m'.vpnIpMap = m.vpnIpMap
  vpnIp : ∀ sid, (m'.heap sid).vpnIp = (m.heap sid).vpnIp

theorem sameMap_of_update {m m' : SessionManager} {sid : SessionId} {s : Session}
    (hsessions : m'.sessions = m.sessions) (hnext : m'.nextId = m.nextId)
    (hmap : m'.vpnIpMap = m.vpnIpMap) (hheap : m'.heap = Function.update m.heap sid s)
    (hs : s.vpnIp = (m.heap sid).vpnIp) : SameMap m m' := by
  refine ⟨hsessions, hnext, hmap, fun sid' => ?_⟩
  rw [hheap]
  by_cases heq : sid' = sid
  · subst heq
    rw [Function.update_self, hs]
  · rw [Function.update_of_ne heq]

end SessionManager

theorem Session.updateTagWindow_vpnIp (P : Primitives) (tw : Nat) (s : Session) :
    (s.updateTagWindow P tw).vpnIp = s.vpnIp := by
  unfold Session.updateTagWindow
  rfl

theorem Session.updateTagWindow_clientId (P : Primitives) (tw : Nat) (s : Session) :
    (s.updateTagWindow P tw).clientId = s.clientId := by
  unfold Session.updateTagWindow
  rfl

/-- Once assigned, the VPN address of a session and its client stay. -/
theorem Session.Change.owner {P : Primitives} {e : Env × Gateway.Event} {s s' : Session}
    (h : Session.Change P e s s') :
    s'.vpnIp = s.vpnIp ∧ (s.clientId = none ∨ s'.clientId = s.clientId) := by
  cases h with
  | refresh =>
      unfold Session.updateRatchetedTagWindow
      split <;> simp [Session.updateTagWindow_vpnIp, Session.updateTagWindow_clientId]
  | recover hfind =>
      unfold Session.recoverAt
      simp [Session.updateTagWindow_vpnIp, Session.updateTagWindow_clientId]
  | ratchet hkeys hopens =>
      unfold Session.completeRatchet
      split <;> exact ⟨rfl, Or.inr rfl⟩
  | receive counter isNew addr len =>
      have hmark : (s.markTagReceived counter).vpnIp = s.vpnIp ∧
          (s.markTagReceived counter).clientId = s.clientId := by
        unfold Session.markTagReceived
        simp only
        split_ifs <;> exact ⟨rfl, rfl⟩
      unfold Session.receive
      simp only
      generalize s.markTagReceived counter = t at hmark
      rw [← hmark.1, ← hmark.2]
      split_ifs <;> exact ⟨rfl, Or.inr rfl⟩
  | identify clientId hnone => exact ⟨rfl, Or.inl hnone⟩
  | takeSeq => exact ⟨rfl, Or.inr rfl⟩
  | send => exact ⟨rfl, Or.inr rfl⟩

namespace SessionManager

variable {P : Primitives} {rng : Randomness} {e : Env × Gateway.Event}

theorem completeSessionRatchet_map (m : SessionManager) (sid : SessionId) :
    (m.completeSessionRatchet sid).sessions = m.sessions ∧
      (m.completeSessionRatchet sid).nextId = m.nextId ∧
      (m.completeSessionRatchet sid).vpnIpMap = m.vpnIpMap := by
  unfold completeSessionRatchet
  split_ifs
  · exact ⟨rfl, rfl, rfl⟩
  · exact ⟨rfl, rfl, rfl⟩

theorem receive_map (m : SessionManager) (env : Env) (t : TagMatch) (addr : SocketAddr) (len : Nat) :
    (m.receive P env t addr len).2.sessions = m.sessions ∧
      (m.receive P env t addr len).2.nextId = m.nextId ∧
      (m.receive P env t addr len).2.vpnIpMap = m.vpnIpMap := by
  unfold SessionManager.receive
  simp only
  split_ifs
  · rw [refreshSessionTags_sessions, refreshSessionTags_nextId, refreshSessionTags_vpnIpMap]
    exact ⟨rfl, rfl, rfl⟩
  · exact ⟨rfl, rfl, rfl⟩

/-- A change leaves the map alone, or is an attempt, a removal or a reordering. -/
theorem Change.map_cases {m m' : SessionManager} (h : Change P rng e m m') :
    SameMap m m' ∨
    (∃ addr ephPub psk ip sid m₁,
      m.createSession P rng e.1 addr ephPub psk ip = (.ok sid, m₁) ∧
      m' = m₁.rollbackFailedSession sid) ∨
    (∃ sid, m' = m.removeSession sid) ∨
    ∃ sessions, sessions.Perm m.sessions ∧ m' = { m with sessions := sessions } := by
  have hsame : ∀ {sid : SessionId} {s : Session}, m'.sessions = m.sessions →
      m'.nextId = m.nextId → m'.vpnIpMap = m.vpnIpMap →
      m'.heap = Function.update m.heap sid s → Session.Change P e (m.heap sid) s → SameMap m m' :=
    fun h1 h2 h3 h4 hs => sameMap_of_update h1 h2 h3 h4 hs.owner.1
  cases h with
  | refresh hlive => exact Or.inl (hsame rfl rfl rfl rfl (.refresh _))
  | recover hhit =>
      refine Or.inl (hsame ?_ ?_ ?_ (recoverSessionByTag_of_hit P hhit)
        (.recover (recoveryHit_mem P hhit).2.2))
      · simp [recoverSessionByTag, hhit, setSession]
      · simp [recoverSessionByTag, hhit, setSession]
      · simp [recoverSessionByTag, hhit, setSession]
  | @ratchet sid keys hkeys hopens =>
      -- keys and tags change, the address and the place in the map do not
      refine Or.inl ?_
      have hmap := m.completeSessionRatchet_map sid
      rcases completeSessionRatchet_heap m sid with hheap | hheap
      · exact ⟨by simp [hmap], by simp [hmap], by simp [hmap], fun sid' => by simp [hheap]⟩
      · rw [← refreshSessionTags_heap _ sid] at hheap
        exact hsame (by simp [hmap]) (by simp [hmap]) (by simp [hmap]) hheap
          (.ratchet hkeys hopens)
  | receive t addr len =>
      obtain ⟨hsessions, hnext, hmap⟩ := receive_map (P := P) m e.1 t addr len
      exact Or.inl (hsame hsessions hnext hmap (receive_heap P e.1 m t addr len)
        (.receive _ _ _ _ _))
  | identify clientId hnone => exact Or.inl (hsame rfl rfl rfl rfl (.identify clientId hnone))
  | takeSeq sid => exact Or.inl (hsame rfl rfl rfl rfl (.takeSeq _))
  | draw => exact Or.inl ⟨rfl, rfl, rfl, fun _ => rfl⟩
  | encrypt mdh hlive hinner hpad => exact Or.inl (hsame rfl rfl rfl rfl (.send _))
  | attempt hnew => exact Or.inr (Or.inl ⟨_, _, _, _, _, _, hnew, rfl⟩)
  | remove sid => exact Or.inr (Or.inr (Or.inl ⟨sid, rfl⟩))
  | reorder hperm => exact Or.inr (Or.inr (Or.inr ⟨_, hperm, rfl⟩))

/-- No change adds a live session. -/
theorem Change.sessions_subset {m m' : SessionManager} (h : Change P rng e m m') :
    ∀ sid ∈ m'.sessions, sid ∈ m.sessions := by
  intro sid hmem
  rcases h.map_cases with hsame | ⟨addr, ephPub, psk, ip, sid', m₁, hnew, rfl⟩ |
    ⟨sid', rfl⟩ | ⟨sessions, hperm, rfl⟩
  · rwa [hsame.sessions] at hmem
  · obtain ⟨hsessions, -, rfl⟩ := createSession_sessions hnew
    rw [rollbackFailedSession_sessions, mem_removeSession, hsessions] at hmem
    simpa [hmem.2] using hmem.1
  · exact (mem_removeSession.1 hmem).1
  · exact hperm.mem_iff.1 hmem

/-! ## Routes -/

/-- A VPN address is routed to a session exactly when the session is live and has the address. -/
def Routed (m : SessionManager) : Prop :=
  ∀ ip sid, m.vpnIpMap ip = some sid ↔ sid ∈ m.sessions ∧ (m.heap sid).vpnIp = some ip

/-- The invariant of the session map. -/
structure MapInv (m : SessionManager) : Prop where
  allocated : m.Allocated
  routed : m.Routed

theorem MapInv.of_sameMap {m m' : SessionManager} (h : m.MapInv) (hs : SameMap m m') :
    m'.MapInv := by
  constructor
  · intro sid hmem
    rw [hs.sessions] at hmem
    rw [hs.nextId]
    exact h.allocated sid hmem
  · intro ip sid
    rw [hs.vpnIpMap, hs.sessions, hs.vpnIp]
    exact h.routed ip sid

theorem removeSession_vpnIpMap (m : SessionManager) (sid : SessionId) (ip : Ipv4Addr) :
    (m.removeSession sid).vpnIpMap ip =
      if sid ∈ m.sessions ∧ (m.heap sid).vpnIp = some ip ∧ m.vpnIpMap ip = some sid then none
      else m.vpnIpMap ip := by
  unfold removeSession
  by_cases hmem : sid ∈ m.sessions
  · simp only [hmem, if_true, true_and]
    cases hv : (m.heap sid).vpnIp with
    | none => simp
    | some ip' =>
        by_cases heq : ip' = ip
        · subst heq
          by_cases hmap : m.vpnIpMap ip' = some sid
          · simp [hmap]
          · simp [hmap]
        · by_cases hmap : m.vpnIpMap ip' = some sid
          · simp [hmap, heq, Function.update_of_ne (Ne.symm heq)]
          · simp [hmap, heq]
  · simp [hmem]

/-- A rollback leaves the routes of the other addresses alone. -/
theorem rollbackFailedSession_route {m : SessionManager} {sid : SessionId} {ip : Ipv4Addr}
    (h : (m.heap sid).vpnIp ≠ some ip) :
    (m.rollbackFailedSession sid).vpnIpMap ip = m.vpnIpMap ip := by
  have hremove : (m.removeSession sid).vpnIpMap ip = m.vpnIpMap ip := by
    rw [removeSession_vpnIpMap, if_neg]
    exact fun hc => h hc.2.1
  unfold rollbackFailedSession
  simp only
  split
  · exact hremove
  · next ip' hip' =>
      have hne : ip ≠ ip' := by
        rintro rfl
        split_ifs at hip'
        exact h hip'
      split
      · exact (Function.update_of_ne hne _ _).trans hremove
      · exact hremove

theorem MapInv.removeSession {m : SessionManager} (h : m.MapInv) (sid : SessionId) :
    (m.removeSession sid).MapInv := by
  constructor
  · intro sid' hmem
    rw [removeSession_nextId]
    exact h.allocated sid' (mem_removeSession.1 hmem).1
  · intro ip sid'
    rw [removeSession_vpnIpMap, mem_removeSession, removeSession_heap]
    split_ifs with hcond
    · -- the route of the removed session is gone, and it had no other session's address
      constructor
      · intro hnone
        cases hnone
      · rintro ⟨⟨hmem, hne⟩, hvpn⟩
        have hroute := (h.routed ip sid').2 ⟨hmem, hvpn⟩
        rw [hcond.2.2] at hroute
        exact absurd (Option.some.inj hroute).symm hne
    · rw [h.routed ip sid']
      constructor
      · rintro ⟨hmem, hvpn⟩
        refine ⟨⟨hmem, ?_⟩, hvpn⟩
        rintro rfl
        exact hcond ⟨hmem, hvpn, (h.routed ip sid').2 ⟨hmem, hvpn⟩⟩
      · rintro ⟨⟨hmem, -⟩, hvpn⟩
        exact ⟨hmem, hvpn⟩

theorem filter_append_new {sids : List SessionId} {n : SessionId} (hn : n ∉ sids) :
    (sids ++ [n]).filter (· ≠ n) = sids := by
  have hself : sids.filter (· ≠ n) = sids := by
    rw [List.filter_eq_self]
    intro sid hmem
    simp only [ne_eq, decide_eq_true_eq]
    rintro rfl
    exact hn hmem
  rw [List.filter_append, hself]
  simp

/-- An attempt leaves the map and the routes as they were: the rollback restores the route to the
session that had the address before. -/
theorem MapInv.attempt {env : Env} {m m₁ : SessionManager} {addr : SocketAddr} {ephPub : Key}
    {psk : Option Key} {ip : Option Ipv4Addr} {sid : SessionId} (h : m.MapInv)
    (hnew : m.createSession P rng env addr ephPub psk ip = (.ok sid, m₁)) :
    (m₁.rollbackFailedSession sid).sessions = m.sessions ∧
      (m₁.rollbackFailedSession sid).vpnIpMap = m.vpnIpMap := by
  obtain ⟨-, -, rfl, dh1, dh2, -, -, rfl⟩ := createSession_ok hnew
  generalize m.initialSession P env addr ephPub _ _ dh2 = s
  generalize m.assignVpnIp ip (m.reusedVpnIp addr) = assigned
  obtain ⟨v, octet⟩ := assigned
  have hfresh : m.nextId ∉ m.sessions := fun hmem => Nat.lt_irrefl _ (h.allocated _ hmem)
  have hheap : ∀ other ∈ m.sessions, (m.register s v octet).heap other = m.heap other := by
    intro other hmem
    show Function.update m.heap m.nextId _ other = m.heap other
    rw [Function.update_of_ne]
    rintro rfl
    exact hfresh hmem
  have hlive : m.nextId ∈ (m.register s v octet).sessions := by
    simp [register]
  have hvpn : ((m.register s v octet).heap m.nextId).vpnIp = v := by
    simp [register]
  have hsessions : ((m.register s v octet).removeSession m.nextId).sessions = m.sessions := by
    unfold SessionManager.removeSession
    rw [if_pos hlive]
    exact filter_append_new hfresh
  refine ⟨by rw [rollbackFailedSession_sessions, hsessions], ?_⟩
  funext ip'
  unfold rollbackFailedSession
  simp only [hlive, if_true, hvpn]
  cases v with
  | none =>
      show ((m.register s none octet).removeSession m.nextId).vpnIpMap ip' = m.vpnIpMap ip'
      rw [removeSession_vpnIpMap, hvpn]
      simp [register]
  | some ip₀ =>
      simp only [hsessions, removeSession_heap]
      have hmap : ∀ ip', ((m.register s (some ip₀) octet).removeSession m.nextId).vpnIpMap ip' =
          if ip' = ip₀ then none else m.vpnIpMap ip' := by
        intro ip'
        rw [removeSession_vpnIpMap, hvpn]
        by_cases heq : ip' = ip₀
        · subst heq
          simp [register]
        · simp [register, heq, Ne.symm heq]
      split
      · next other hfind =>
          have hmem := List.mem_of_find?_eq_some hfind
          have hip : (m.heap other).vpnIp = some ip₀ := by
            rw [← hheap other hmem]
            simpa using List.find?_some hfind
          by_cases heq : ip' = ip₀
          · subst heq
            simp [(h.routed ip' other).2 ⟨hmem, hip⟩]
          · simp [hmap, heq]
      · next hfind =>
          rw [hmap]
          split_ifs with heq
          · subst heq
            -- nobody had the address, so there was no route
            cases hroute : m.vpnIpMap ip' with
            | none => rfl
            | some other =>
                obtain ⟨hmem, hip⟩ := (h.routed ip' other).1 hroute
                have := List.find?_eq_none.1 hfind other hmem
                rw [hheap other hmem] at this
                exact absurd hip (by simpa using this)
          · rfl

/-- A route stays when its session is not removed. -/
theorem removeSessions_route {m : SessionManager} {sids : List SessionId} {ip : Ipv4Addr}
    (h : ∀ sid ∈ sids, (m.heap sid).vpnIp = some ip → m.vpnIpMap ip ≠ some sid) :
    (m.removeSessions sids).vpnIpMap ip = m.vpnIpMap ip := by
  induction sids generalizing m with
  | nil => rfl
  | cons sid rest ih =>
      have hone : (m.removeSession sid).vpnIpMap ip = m.vpnIpMap ip := by
        rw [removeSession_vpnIpMap, if_neg]
        rintro ⟨-, hvpn, hroute⟩
        exact h sid List.mem_cons_self hvpn hroute
      show (removeSessions (m.removeSession sid) rest).vpnIpMap ip = m.vpnIpMap ip
      rw [ih, hone]
      intro sid' hmem
      rw [removeSession_heap, hone]
      exact h sid' (List.mem_cons_of_mem _ hmem)

/-- The cleanup behind an accepted handshake leaves a route alone, unless it is the route of the
session's address and leads to another session. -/
theorem establish_route {m : SessionManager} {sid : SessionId} {psk : Option Key} {ip : Ipv4Addr}
    (h : (m.heap sid).vpnIp = some ip → m.vpnIpMap ip = some sid) :
    (m.establish sid psk).vpnIpMap ip = m.vpnIpMap ip := by
  unfold establish cleanupOldSessionsForVpnIp
  simp only
  split
  · next ip₀ hip₀ =>
      apply removeSessions_route
      intro other hmem hvpn hroute
      rw [List.mem_filter] at hmem
      obtain ⟨hvpn', hne⟩ := of_decide_eq_true hmem.2
      rw [hvpn] at hvpn'
      cases hvpn'
      rw [h hip₀] at hroute
      exact hne (Option.some.inj hroute).symm
  · rfl

/-- An accepted handshake routes the address of the new session to it and leaves the other routes
as they were. -/
theorem establish_vpnIpMap {env : Env} {m m₁ : SessionManager} {addr : SocketAddr} {ephPub : Key}
    {psk : Option Key} {ip : Option Ipv4Addr} {sid : SessionId}
    (hnew : m.createSession P rng env addr ephPub psk ip = (.ok sid, m₁)) :
    (m₁.establish sid psk).vpnIpMap = m₁.vpnIpMap := by
  obtain ⟨-, -, rfl, dh1, dh2, -, -, rfl⟩ := createSession_ok hnew
  generalize m.initialSession P env addr ephPub _ _ dh2 = s
  generalize m.assignVpnIp ip (m.reusedVpnIp addr) = assigned
  obtain ⟨v, octet⟩ := assigned
  funext ip'
  apply establish_route
  intro hip
  have hv : v = some ip' := by simpa [register] using hip
  subst hv
  simp [register]

theorem MapInv.opens {m m' : SessionManager} {ephPub : Key} {psk : Option Key} (h : m.MapInv)
    (hopen : m.Opens P rng e m' ephPub psk) : m'.MapInv := by
  obtain ⟨addr, ip, sid, m₁, hnew, rfl⟩ := hopen
  have hmap := establish_vpnIpMap hnew
  obtain ⟨-, -, rfl, dh1, dh2, -, -, rfl⟩ := createSession_ok hnew
  revert hmap
  generalize m.initialSession P e.1 addr ephPub _ _ dh2 = s
  generalize m.assignVpnIp ip (m.reusedVpnIp addr) = assigned
  obtain ⟨v, octet⟩ := assigned
  simp only
  intro hmap
  have hfresh : m.nextId ∉ m.sessions := fun hmem => Nat.lt_irrefl _ (h.allocated _ hmem)
  have hnewv : ((m.register s v octet).heap m.nextId).vpnIp = v := by
    simp [register]
  have hold : ∀ other, other ≠ m.nextId → (m.register s v octet).heap other = m.heap other :=
    fun other hne => Function.update_of_ne hne _ _
  constructor
  -- the new session has the id that was next
  · intro sid hmem
    obtain ⟨hmem, -⟩ := mem_establish.1 hmem
    rw [establish_nextId]
    show sid < m.nextId + 1
    rw [register_sessions, List.mem_append, List.mem_singleton] at hmem
    rcases hmem with hmem | rfl
    · exact Nat.lt_succ_of_lt (h.allocated sid hmem)
    · exact Nat.lt_succ_self _
  · intro ip' sid
    rw [hmap, mem_establish, establish_heap, hnewv, register_sessions, List.mem_append,
      List.mem_singleton]
    by_cases hsid : sid = m.nextId
    -- the row of the new session, which holds its address only
    · subst hsid
      rw [hnewv]
      cases v with
      | none =>
          have hno : m.vpnIpMap ip' ≠ some m.nextId := fun hroute =>
            hfresh ((h.routed ip' _).1 hroute).1
          simp [register, hno]
      | some ip₀ =>
          by_cases heq : ip' = ip₀
          · subst heq
            simp [register]
          · have hno : m.vpnIpMap ip' ≠ some m.nextId := fun hroute =>
              hfresh ((h.routed ip' _).1 hroute).1
            simp [register, heq, Ne.symm heq, hno]
    · rw [hold sid hsid]
      -- a session that had the same address is removed, the rest keep their rows
      cases v with
      | none => simpa [register, hsid] using h.routed ip' sid
      | some ip₀ =>
          by_cases heq : ip' = ip₀
          · subst heq
            simp only [register, Function.update_self, Option.some.injEq]
            constructor
            · intro hself
              exact absurd hself.symm hsid
            · rintro ⟨⟨-, hcase⟩, hvpn⟩
              simp [hsid, hvpn] at hcase
          · have hroute := h.routed ip' sid
            simp only [register, Function.update_of_ne heq, hroute, hsid, or_false, false_or,
              reduceCtorEq]
            constructor
            · rintro ⟨hmem, hvpn⟩
              refine ⟨⟨hmem, ?_⟩, hvpn⟩
              rw [hvpn]
              simpa using heq
            · rintro ⟨⟨hmem, -⟩, hvpn⟩
              exact ⟨hmem, hvpn⟩

theorem MapInv.change {m m' : SessionManager} (h : m.MapInv) (hch : Change P rng e m m') :
    m'.MapInv := by
  rcases hch.map_cases with hsame | ⟨addr, ephPub, psk, ip, sid, m₁, hnew, rfl⟩ |
    ⟨sid, rfl⟩ | ⟨sessions, hperm, rfl⟩
  · exact h.of_sameMap hsame
  -- the attempt is rolled back, so that only `nextId` differs
  · obtain ⟨hsessions, hmap⟩ := h.attempt hnew
    obtain ⟨-, hnext, rfl⟩ := createSession_sessions hnew
    obtain ⟨s, -, -, hheap⟩ := createSession_heap hnew
    constructor
    · intro sid hmem
      rw [hsessions] at hmem
      rw [rollbackFailedSession_nextId, hnext]
      exact Nat.lt_succ_of_lt (h.allocated sid hmem)
    · intro ip' sid
      rw [hmap, hsessions, h.routed, rollbackFailedSession_heap, hheap]
      constructor
      · rintro ⟨hmem, hvpn⟩
        have hne : sid ≠ m.nextId := Nat.ne_of_lt (h.allocated sid hmem)
        rw [Function.update_of_ne hne]
        exact ⟨hmem, hvpn⟩
      · rintro ⟨hmem, hvpn⟩
        have hne : sid ≠ m.nextId := Nat.ne_of_lt (h.allocated sid hmem)
        rw [Function.update_of_ne hne] at hvpn
        exact ⟨hmem, hvpn⟩
  · exact h.removeSession sid
  · constructor
    · intro sid hmem
      exact h.allocated sid (hperm.mem_iff.1 hmem)
    · intro ip' sid
      show m.vpnIpMap ip' = some sid ↔ sid ∈ sessions ∧ _
      rw [hperm.mem_iff]
      exact h.routed ip' sid

theorem MapInv.changes {m m' : SessionManager} (h : m.MapInv) (hch : Changes P rng e m m') :
    m'.MapInv := by
  induction hch with
  | refl => exact h
  | tail _ hlast ih => exact ih.change hlast

theorem Change.nextId_le {m m' : SessionManager} (h : Change P rng e m m') :
    m.nextId ≤ m'.nextId := by
  rcases h.map_cases with hsame | ⟨addr, ephPub, psk, ip, sid, m₁, hnew, rfl⟩ |
    ⟨sid, rfl⟩ | ⟨sessions, hperm, rfl⟩
  · exact Nat.le_of_eq hsame.nextId.symm
  · rw [rollbackFailedSession_nextId, (createSession_sessions hnew).2.1]
    exact Nat.le_succ _
  · exact Nat.le_of_eq (removeSession_nextId m sid).symm
  · exact Nat.le_refl _

end SessionManager

theorem Gateway.Changes.nextId_le {P : Primitives} {rng : Randomness} {cfg : GatewayConfig}
    {e : Env × Gateway.Event} {g g' : Gateway} (h : Gateway.Changes P rng cfg e g g') :
    g.sessionManager.nextId ≤ g'.sessionManager.nextId := by
  induction h with
  | refl => exact Nat.le_refl _
  | tail _ hlast ih =>
      cases hlast with
      | manager hm => exact Nat.le_trans ih hm.nextId_le
      | emit _ => exact ih
      | cooldowns _ => exact ih
      | clients _ => exact ih

/-- In every run of the gateway live sessions have allocated ids, and VPN addresses are routed to
the live sessions that have them. -/
theorem mapInv_of_run (P : Primitives) (rng : Randomness) (cfg : GatewayConfig)
    (serverKeys : KeyPair) (signingKey : Key) (clientDb : Option (List ClientConfig))
    (es : List (Env × Gateway.Event)) :
    (runFrom (Gateway.step P rng cfg) (Gateway.new serverKeys signingKey clientDb)
      es).sessionManager.MapInv := by
  refine Gateway.runFrom_of_change P rng cfg ?_ (fun _ _ _ h hch => h.change hch)
    (fun _ _ _ _ _ h hopen => h.opens hopen) es
  constructor
  · intro sid hmem
    cases hmem
  · intro ip sid
    constructor
    · intro h
      cases h
    · rintro ⟨h, -⟩
      cases h

/-- The VPN address map is exact after every run: no two live sessions share an address, and the map
holds an address exactly when a live session has it, and then maps it to that session. Nothing is
asked of the client database. -/
theorem vpnIpMap_exact_of_run (P : Primitives) (rng : Randomness) (cfg : GatewayConfig)
    (serverKeys : KeyPair) (signingKey : Key) (clientDb : Option (List ClientConfig))
    (es : List (Env × Gateway.Event)) :
    let m := (runFrom (Gateway.step P rng cfg) (Gateway.new serverKeys signingKey clientDb)
      es).sessionManager
    ∀ ip : Ipv4Addr,
      (∀ sid ∈ m.sessions, ∀ sid' ∈ m.sessions, (m.heap sid).vpnIp = some ip →
        (m.heap sid').vpnIp = some ip → sid = sid') ∧
      ((m.vpnIpMap ip).isSome ↔ ∃ sid ∈ m.sessions, (m.heap sid).vpnIp = some ip) ∧
      ∀ sid ∈ m.sessions, (m.heap sid).vpnIp = some ip → m.vpnIpMap ip = some sid := by
  intro m ip
  have hrouted := (mapInv_of_run P rng cfg serverKeys signingKey clientDb es).routed
  have hmaps : ∀ sid ∈ m.sessions, (m.heap sid).vpnIp = some ip → m.vpnIpMap ip = some sid :=
    fun sid hlive hip => (hrouted ip sid).2 ⟨hlive, hip⟩
  refine ⟨?_, ?_, hmaps⟩
  · intro sid hlive sid' hlive' hip hip'
    -- the map is a function, so both sessions are its value at `ip`
    have hsame := (hmaps sid hlive hip).symm.trans (hmaps sid' hlive' hip')
    exact Option.some.inj hsame
  · constructor
    · intro hsome
      obtain ⟨sid, hsid⟩ := Option.isSome_iff_exists.1 hsome
      exact ⟨sid, (hrouted ip sid).1 hsid⟩
    · rintro ⟨sid, hlive, hip⟩
      rw [hmaps sid hlive hip]
      rfl

end Aivpn
