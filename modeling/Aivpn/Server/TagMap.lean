import Aivpn.Server.SessionMap

/-!
# The tag map

`tag_map` is an index over the tag windows of the live sessions: an entry points to a live session
that has the tag among its cached tags. Every change that rebuilds a tag window re-registers it, so
the index holds in every run of the gateway (`tagInv_of_run`). The converse is not an invariant: a
recovered session loses the entries of its pending keys.
-/

set_option autoImplicit false

namespace Aivpn

open Aivpn.Lib

/-! ## Updates of the map -/

theorem insertTags_eq_some {tags : List Tag} {sid other : SessionId} {f : Tag → Option SessionId}
    {tag : Tag} (h : insertTags tags sid f tag = some other) :
    (tag ∈ tags ∧ other = sid) ∨ f tag = some other := by
  unfold insertTags at h
  split_ifs at h with hmem
  · exact Or.inl ⟨hmem, (Option.some.inj h).symm⟩
  · exact Or.inr h

theorem removeTags_eq_some {tags : List Tag} {other : SessionId} {f : Tag → Option SessionId}
    {tag : Tag} (h : removeTags tags f tag = some other) : tag ∉ tags ∧ f tag = some other := by
  unfold removeTags at h
  split_ifs at h with hmem
  exact ⟨hmem, h⟩

theorem retainOthers_eq_some {sid other : SessionId} {f : Tag → Option SessionId} {tag : Tag}
    (h : retainOthers sid f tag = some other) : other ≠ sid ∧ f tag = some other := by
  unfold retainOthers at h
  split_ifs at h with heq
  refine ⟨?_, h⟩
  rintro rfl
  exact heq h

/-- The cached tags of a session. -/
def Session.cachedTags (s : Session) : List Tag := s.currentTags ++ s.pendingTags

@[simp] theorem Session.updateRatchetedTagWindow_currentTags (P : Primitives) (tw : Nat)
    (s : Session) : (s.updateRatchetedTagWindow P tw).currentTags = s.currentTags := by
  unfold Session.updateRatchetedTagWindow
  split <;> rfl

@[simp] theorem Session.updateTagWindow_pendingTags (P : Primitives) (tw : Nat) (s : Session) :
    (s.updateTagWindow P tw).pendingTags = s.pendingTags := by
  unfold Session.updateTagWindow Session.pendingTags
  rfl

namespace SessionManager

variable {P : Primitives} {rng : Randomness}

/-- An entry of the tag map points to a live session that has the tag cached. -/
def TagInv (m : SessionManager) : Prop :=
  ∀ tag sid, m.tagMap tag = some sid → sid ∈ m.sessions ∧ tag ∈ (m.heap sid).cachedTags

/-- A change that touches no tag keeps the index. -/
theorem TagInv.congr {m m' : SessionManager} (h : m.TagInv) (hsessions : m'.sessions = m.sessions)
    (hmap : m'.tagMap = m.tagMap)
    (hheap : ∀ sid ∈ m.sessions, (m'.heap sid).cachedTags = (m.heap sid).cachedTags) :
    m'.TagInv := by
  intro tag sid hentry
  rw [hmap] at hentry
  obtain ⟨hlive, htag⟩ := h tag sid hentry
  exact ⟨hsessions ▸ hlive, by rwa [hheap sid hlive]⟩

/-- So does the replacement of one session's contents and entries. -/
theorem TagInv.reindex {m m' : SessionManager} {sid : SessionId} {s : Session} (h : m.TagInv)
    (hlive : sid ∈ m.sessions) (hsessions : m'.sessions = m.sessions)
    (hheap : m'.heap = Function.update m.heap sid s)
    (hmap : ∀ tag other, m'.tagMap tag = some other →
      (other = sid ∧ tag ∈ s.cachedTags) ∨ (other ≠ sid ∧ m.tagMap tag = some other)) :
    m'.TagInv := by
  intro tag other hentry
  rw [hsessions, hheap]
  rcases hmap tag other hentry with ⟨rfl, htag⟩ | ⟨hne, hold⟩
  · rw [Function.update_self]
    exact ⟨hlive, htag⟩
  · rw [Function.update_of_ne hne]
    exact h tag other hold

theorem TagInv.removeSession {m : SessionManager} (h : m.TagInv) (sid : SessionId) :
    (m.removeSession sid).TagInv := by
  intro tag other hentry
  rw [mem_removeSession, removeSession_heap]
  unfold SessionManager.removeSession at hentry
  split_ifs at hentry with hlive
  · obtain ⟨hpending, hentry⟩ := removeTags_eq_some hentry
    obtain ⟨hcurrent, hentry⟩ := removeTags_eq_some hentry
    obtain ⟨hother, htag⟩ := h tag other hentry
    refine ⟨⟨hother, ?_⟩, htag⟩
    rintro rfl
    rcases List.mem_append.1 htag with hmem | hmem
    · exact hcurrent hmem
    · exact hpending hmem
  · obtain ⟨hother, htag⟩ := h tag other hentry
    exact ⟨⟨hother, fun heq => hlive (heq ▸ hother)⟩, htag⟩

theorem TagInv.removeSessions {m : SessionManager} (h : m.TagInv) (sids : List SessionId) :
    (m.removeSessions sids).TagInv := by
  induction sids generalizing m with
  | nil => exact h
  | cons sid rest ih => exact ih (h.removeSession sid)

theorem TagInv.createSession {env : Env} {m m' : SessionManager} {addr : SocketAddr} {ephPub : Key}
    {psk : Option Key} {ip : Option Ipv4Addr} {sid : SessionId} (h : m.TagInv) (ha : m.Allocated)
    (hnew : m.createSession P rng env addr ephPub psk ip = (.ok sid, m')) : m'.TagInv := by
  obtain ⟨-, -, -, dh1, dh2, -, -, rfl⟩ := createSession_ok hnew
  generalize m.initialSession P env addr ephPub _ _ dh2 = s
  intro tag other hentry
  rw [register_sessions, List.mem_append, List.mem_singleton]
  show _ ∧ tag ∈ (Function.update m.heap m.nextId _ other).cachedTags
  rcases insertTags_eq_some hentry with ⟨hmem, rfl⟩ | hentry
  · rw [Function.update_self]
    exact ⟨Or.inr rfl, List.mem_append_right _ hmem⟩
  rcases insertTags_eq_some hentry with ⟨hmem, rfl⟩ | hentry
  · rw [Function.update_self]
    exact ⟨Or.inr rfl, List.mem_append_left _ hmem⟩
  · obtain ⟨hlive, htag⟩ := h tag other hentry
    rw [Function.update_of_ne (Nat.ne_of_lt (ha other hlive))]
    exact ⟨Or.inl hlive, htag⟩

@[simp] theorem rollbackFailedSession_tagMap (m : SessionManager) (sid : SessionId) :
    (m.rollbackFailedSession sid).tagMap = (m.removeSession sid).tagMap := by
  unfold rollbackFailedSession
  simp only
  split
  · rfl
  · split <;> rfl

theorem refreshSessionTags_of_not_mem {m : SessionManager} {sid : SessionId}
    (h : sid ∉ m.sessions) : m.refreshSessionTags sid = m := if_neg h

theorem TagInv.refreshSessionTags {m m' : SessionManager} {sid : SessionId} {s : Session}
    (h : m.TagInv) (hlive : sid ∈ m.sessions) (hsessions : m'.sessions = m.sessions)
    (hheap : m'.heap = Function.update m.heap sid s)
    (hmap : ∀ tag other, m'.tagMap tag = some other → other ≠ sid →
      m.tagMap tag = some other) :
    (m'.refreshSessionTags sid).TagInv := by
  refine h.reindex (s := s) hlive (by rw [refreshSessionTags_sessions, hsessions])
    (by rw [refreshSessionTags_heap, hheap]) fun tag other hentry => ?_
  unfold SessionManager.refreshSessionTags at hentry
  rw [if_pos (hsessions ▸ hlive), hheap, Function.update_self] at hentry
  rcases insertTags_eq_some hentry with ⟨hmem, rfl⟩ | hentry
  · exact Or.inl ⟨rfl, List.mem_append_right _ hmem⟩
  rcases insertTags_eq_some hentry with ⟨hmem, rfl⟩ | hentry
  · exact Or.inl ⟨rfl, List.mem_append_left _ hmem⟩
  · obtain ⟨hne, hentry⟩ := retainOthers_eq_some hentry
    exact Or.inr ⟨hne, hmap tag other hentry hne⟩

/-- A change of one session that leaves its tags and the map alone. -/
theorem TagInv.setSession {m m' : SessionManager} {sid : SessionId} {s : Session} (h : m.TagInv)
    (hsessions : m'.sessions = m.sessions) (hmap : m'.tagMap = m.tagMap)
    (hheap : m'.heap = Function.update m.heap sid s)
    (hs : sid ∈ m.sessions → s.cachedTags = (m.heap sid).cachedTags) : m'.TagInv := by
  refine h.congr hsessions hmap fun other hlive => ?_
  rw [hheap]
  by_cases heq : other = sid
  · subst heq
    rw [Function.update_self, hs hlive]
  · rw [Function.update_of_ne heq]

end SessionManager

namespace Session

variable (P : Primitives)

theorem receive_cachedTags {env : Env} {s : Session} {c : Nat} (h : s.needsRefresh c = false)
    (isNew : Bool) (addr : SocketAddr) (len : Nat) :
    (s.receive P env c isNew addr len).1.cachedTags = s.cachedTags := by
  have hmark : (s.markTagReceived c).cachedTags = s.cachedTags ∧
      (s.markTagReceived c).tagWindowBase = s.tagWindowBase := by
    unfold markTagReceived
    simp only
    split_ifs <;> exact ⟨rfl, rfl⟩
  unfold receive
  simp only
  generalize s.markTagReceived c = t at hmark
  have hrefresh : t.needsRefresh c = false := by
    rw [← h, needsRefresh, needsRefresh, hmark.2]
  rw [← hmark.1]
  have hmoved : ({ { t with lastSeen := env.instant } with clientAddr := addr } :
      Session).needsRefresh c = false := hrefresh
  have hkept : ({ t with lastSeen := env.instant } : Session).needsRefresh c = false := hrefresh
  by_cases haddr : (!isNew && decide (t.clientAddr ≠ addr)) = true
  · simp only [haddr, if_true, hmoved, Bool.false_eq_true, if_false]
    split_ifs <;> rfl
  · simp only [haddr, if_false, hkept, Bool.false_eq_true]
    split_ifs <;> rfl

end Session

namespace SessionManager

variable {P : Primitives} {rng : Randomness}

theorem TagInv.receive {m : SessionManager} (h : m.TagInv) (env : Env) (t : TagMatch)
    (addr : SocketAddr) (len : Nat) : (m.receive P env t addr len).2.TagInv := by
  unfold SessionManager.receive
  simp only
  by_cases hrefresh : (m.heap t.sessionId).needsRefresh t.counter = true
  · rw [if_pos hrefresh]
    by_cases hlive : t.sessionId ∈ m.sessions
    · exact h.refreshSessionTags hlive rfl rfl fun tag other hentry _ => hentry
    · rw [refreshSessionTags_of_not_mem (m := m.setSession t.sessionId _) hlive]
      exact h.setSession rfl rfl rfl fun hmem => absurd hmem hlive
  · rw [if_neg hrefresh]
    exact h.setSession rfl rfl rfl fun _ =>
      Session.receive_cachedTags P (by simpa using hrefresh) _ _ _

theorem TagInv.refreshSession {m : SessionManager} (h : m.TagInv) (tw : Nat) {sid : SessionId}
    (hlive : sid ∈ m.sessions) : (m.refreshSession P tw sid).TagInv := by
  -- an entry of the new table is one of the refreshed cell, or is the old table's under another
  -- session
  refine h.reindex hlive rfl rfl fun tag other hentry => ?_
  rcases insertTags_eq_some hentry with ⟨hmem, rfl⟩ | hentry
  · exact Or.inl ⟨rfl, List.mem_append_right _ hmem⟩
  obtain ⟨hpending, hentry⟩ := removeTags_eq_some hentry
  rcases insertTags_eq_some hentry with ⟨hmem, rfl⟩ | hentry
  · refine Or.inl ⟨rfl, List.mem_append_left _ ?_⟩
    rwa [Session.updateRatchetedTagWindow_currentTags]
  · obtain ⟨hcurrent, hold⟩ := removeTags_eq_some hentry
    refine Or.inr ⟨?_, hold⟩
    rintro rfl
    rw [Session.updateTagWindow_pendingTags] at hpending
    exact (List.mem_append.1 (h tag _ hold).2).elim hcurrent hpending

theorem TagInv.refreshLoop {tw : Nat} {tag : Tag} {sids : List SessionId} {m : SessionManager}
    (h : m.TagInv) (hlive : ∀ sid ∈ sids, sid ∈ m.sessions) :
    (refreshLoop P tw tag sids m).2.TagInv := by
  induction sids generalizing m with
  | nil => exact h
  | cons sid rest ih =>
      have hone : (m.refreshSession P tw sid).TagInv :=
        h.refreshSession tw (hlive sid List.mem_cons_self)
      unfold SessionManager.refreshLoop
      simp only
      split
      · exact hone
      · exact ih hone fun other hmem => hlive other (List.mem_cons_of_mem _ hmem)

/-- The ratchet of `handle_packet`, with the refresh of the tag map behind it. -/
theorem TagInv.ratchetSession {m : SessionManager} (h : m.TagInv) (sid : SessionId) :
    ((m.completeSessionRatchet sid).refreshSessionTags sid).TagInv := by
  by_cases hlive : sid ∈ m.sessions
  · unfold completeSessionRatchet
    rw [if_pos hlive]
    refine h.refreshSessionTags hlive rfl rfl fun tag other hentry hne => ?_
    -- an entry that is inserted is of the session itself
    rcases insertTags_eq_some hentry with ⟨-, rfl⟩ | hentry
    · exact absurd rfl hne
    · exact (removeTags_eq_some hentry).2
  · have hsame : (m.completeSessionRatchet sid).refreshSessionTags sid = m := by
      rw [completeSessionRatchet, if_neg hlive, refreshSessionTags_of_not_mem hlive]
    rw [hsame]
    exact h

theorem TagInv.change {e : Env × Gateway.Event} {m m' : SessionManager} (h : m.TagInv)
    (ha : m.Allocated) (hch : Change P rng e m m') : m'.TagInv := by
  cases hch with
  | refresh hlive => exact h.refreshSession e.1.timeWindow hlive
  | @recover tag ip sid c hhit =>
      refine h.reindex (recoveryHit_mem P hhit).1
        (by simp [recoverSessionByTag, hhit, SessionManager.setSession])
        (recoverSessionByTag_of_hit P hhit) fun tag' other hentry => ?_
      simp only [recoverSessionByTag, hhit] at hentry
      rcases insertTags_eq_some hentry with ⟨hmem, rfl⟩ | hentry
      · exact Or.inl ⟨rfl, List.mem_append_left _ hmem⟩
      · exact Or.inr (retainOthers_eq_some hentry)
  | @ratchet sid keys hkeys hopens => exact h.ratchetSession sid
  | receive t addr len => exact h.receive e.1 t addr len
  | identify clientId hnone => exact h.setSession rfl rfl rfl fun _ => rfl
  | takeSeq sid => exact h.setSession rfl rfl rfl fun _ => rfl
  | draw => exact h
  | encrypt mdh hlive hinner hpad => exact h.setSession rfl rfl rfl fun _ => rfl
  | attempt hnew =>
      have hremoved := (h.createSession ha hnew).removeSession
      exact (hremoved _).congr (rollbackFailedSession_sessions _ _)
        (rollbackFailedSession_tagMap _ _) fun sid _ => by
          rw [rollbackFailedSession_heap, removeSession_heap]
  | remove sid => exact h.removeSession sid
  | reorder hperm =>
      intro tag sid hentry
      obtain ⟨hlive, htag⟩ := h tag sid hentry
      exact ⟨hperm.mem_iff.2 hlive, htag⟩

theorem TagInv.opens {e : Env × Gateway.Event} {m m' : SessionManager} {ephPub : Key}
    {psk : Option Key} (h : m.TagInv)
    (ha : m.Allocated) (hopen : m.Opens P rng e m' ephPub psk) : m'.TagInv := by
  obtain ⟨addr, ip, sid, m₁, hnew, rfl⟩ := hopen
  have hcreated := h.createSession ha hnew
  unfold establish cleanupOldSessionsForVpnIp
  simp only
  split
  · exact hcreated.removeSessions _
  · exact hcreated

end SessionManager

/-- In every run of the gateway the tag map points to live sessions with the tag cached. -/
theorem tagInv_of_run (P : Primitives) (rng : Randomness) (cfg : GatewayConfig)
    (serverKeys : KeyPair) (signingKey : Key) (clientDb : Option (List ClientConfig))
    (es : List (Env × Gateway.Event)) :
    (runFrom (Gateway.step P rng cfg) (Gateway.new serverKeys signingKey clientDb)
      es).sessionManager.TagInv := by
  have hrun := @Gateway.runFrom_of_change P rng cfg (fun m => m.MapInv ∧ m.TagInv)
    (Gateway.new serverKeys signingKey clientDb)
    ⟨mapInv_of_run P rng cfg serverKeys signingKey clientDb [], fun tag sid hentry => by
      cases hentry⟩
    (fun _ _ _ h hch => ⟨h.1.change hch, h.2.change h.1.allocated hch⟩)
    (fun _ _ _ _ _ h hopen => ⟨h.1.opens hopen, h.2.opens h.1.allocated hopen⟩) es
  exact hrun.2

end Aivpn
