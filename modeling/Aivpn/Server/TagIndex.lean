import Aivpn.Lib.Index
import Aivpn.Server.LookupComplete

/-!
# The tag map as an index

The session manager keeps `tag_map` beside the tag tables of its sessions, each operation with its
own mix of targeted removals, retains and insertions. `managerStep` runs the operations in any
order and at any times. The map stays exact through all of them but one: `recover_session_by_tag`
takes out every entry of the session it recovers and enters only the tags of the current keys again,
so the entries of pending keys are lost (`recovery_loses_pending_entries`). In a run the map is exact
after every operation exactly when no recovery hits a session with pending tags
(`tagExact_iff_recoversSettled`).
-/

set_option autoImplicit false

namespace Aivpn

open Aivpn.Lib

theorem insertTags_eq (tags : List Tag) (sid : SessionId) (f : Tag → Option SessionId) :
    insertTags tags sid f = Index.insertAll tags sid f := rfl

theorem removeTags_eq (tags : List Tag) (f : Tag → Option SessionId) :
    removeTags tags f = Index.removeAll tags f := rfl

theorem retainOthers_eq (sid : SessionId) (f : Tag → Option SessionId) :
    retainOthers sid f = Index.dropOwner sid f := rfl

/-! ## Operations -/

/-- The operations of the session manager that touch sessions or their tags, each with the time it
happens at. `updateTagWindow` is followed by `refresh_session_tags`, as in `handle_packet`;
`markTagReceived` is what moves the counter in between; `reorder` is a change of the order in which
the session map iterates. -/
inductive ManagerOp where
  | createSession (env : Env) (clientAddr : SocketAddr) (ephPub : Key) (presharedKey : Option Key)
      (staticVpnIp : Option Ipv4Addr)
  | removeSession (sid : SessionId)
  | rollbackFailedSession (sid : SessionId)
  | cleanupOldSessionsForVpnIp (vpnIp : Ipv4Addr) (keep : SessionId)
  | cleanupExpired (now : Nat)
  | refreshAndFindByTag (tw : Nat) (tag : Tag)
  | recoverSessionByTag (tw : Nat) (tag : Tag) (clientIp : IpAddr)
  | completeSessionRatchet (sid : SessionId)
  | updateTagWindow (tw : Nat) (sid : SessionId)
  | markTagReceived (sid : SessionId) (counter : Nat)
  | reorder (sessions : List SessionId)

/-- The time windows in which an operation computes tags. -/
def ManagerOp.windows : ManagerOp → List Nat
  | .createSession env _ _ _ _ => [env.timeWindow]
  | .refreshAndFindByTag tw _ => nearWindows tw
  | .recoverSessionByTag tw _ _ => nearWindows tw
  | .updateTagWindow tw _ => [tw]
  | _ => []

/-- The time windows of a run. -/
def ManagerOp.windowsOf (ops : List ManagerOp) : Set Nat := { w | ∃ op ∈ ops, w ∈ op.windows }

/-- One operation. -/
def managerStep (P : Primitives) (rng : Randomness) (m : SessionManager) :
    ManagerOp → SessionManager
  | .createSession env clientAddr ephPub presharedKey staticVpnIp =>
      (m.createSession P rng env clientAddr ephPub presharedKey staticVpnIp).2
  | .removeSession sid => m.removeSession sid
  | .rollbackFailedSession sid => m.rollbackFailedSession sid
  | .cleanupOldSessionsForVpnIp vpnIp keep => m.cleanupOldSessionsForVpnIp vpnIp keep
  | .cleanupExpired now => m.cleanupExpired now
  | .refreshAndFindByTag tw tag => (m.refreshAndFindByTag P tw tag).2
  | .recoverSessionByTag tw tag clientIp => (m.recoverSessionByTag P tw tag clientIp).2
  | .completeSessionRatchet sid => m.completeSessionRatchet sid
  | .updateTagWindow tw sid =>
      (m.setSession sid ((m.heap sid).updateTagWindow P tw)).refreshSessionTags sid
  | .markTagReceived sid counter => m.setSession sid ((m.heap sid).markTagReceived counter)
  | .reorder sessions => if sessions.Perm m.sessions then { m with sessions := sessions } else m

namespace SessionManager

variable {P : Primitives} {rng : Randomness} {W : Set Nat}

/-- The tag map has an entry exactly for the cached tags of the live sessions. -/
def TagExact (m : SessionManager) : Prop :=
  ∀ tag sid, m.tagMap tag = some sid ↔ sid ∈ m.sessions ∧ tag ∈ (m.heap sid).cachedTags

theorem tagExact_iff (m : SessionManager) : m.TagExact ↔
    Index.Exact (fun sid => sid ∈ m.sessions) (fun sid => (m.heap sid).cachedTags) m.tagMap :=
  Iff.rfl

/-- With ideal tags no two live sessions cache the same tag, -/
theorem Ideal.disjoint {m : SessionManager} (h : m.Ideal P W)
    (hsound : ∀ sid, (m.heap sid).CacheSound P W) {sid sid' : SessionId} (hlive : sid ∈ m.sessions)
    (hlive' : sid' ∈ m.sessions) (hne : sid' ≠ sid) :
    (m.heap sid).cachedTags.Disjoint (m.heap sid').cachedTags := by
  intro tag hmem hmem'
  obtain ⟨c, r, htag⟩ := (hsound sid).hasTag_of_cached hmem
  obtain ⟨c', r', htag'⟩ := (hsound sid').hasTag_of_cached hmem'
  exact hne (hasTag_unique h.secrets h.tags hlive hlive' htag htag').1

/-- and none caches one tag for its current and its pending keys. -/
theorem Ideal.disjoint_own {m : SessionManager} (h : m.Ideal P W)
    (hsound : ∀ sid, (m.heap sid).CacheSound P W) {sid : SessionId} (hlive : sid ∈ m.sessions) :
    (m.heap sid).currentTags.Disjoint (m.heap sid).pendingTags := by
  intro tag hmem hmem'
  obtain ⟨x, hx, rfl⟩ := List.mem_map.1 hmem
  obtain ⟨y, hy, heq⟩ := List.mem_map.1 hmem'
  have hx := (hsound sid).hasTag_current hx
  have hy := (hsound sid).hasTag_pending hy
  rw [heq] at hy
  cases (hasTag_unique h.secrets h.tags hlive hlive hx hy).2.2

/-! ## Creation and removal -/

theorem TagExact.createSession {env : Env} {m m' : SessionManager} {addr : SocketAddr}
    {ephPub : Key} {psk : Option Key} {ip : Option Ipv4Addr} {sid : SessionId} (h : m.TagExact)
    (ha : m.Allocated) (hnew : m.createSession P rng env addr ephPub psk ip = (.ok sid, m'))
    (hideal : m'.Ideal P W) (hsound : ∀ sid, (m'.heap sid).CacheSound P W) : m'.TagExact := by
  have hsessions := (createSession_sessions hnew).1
  obtain ⟨-, -, -, dh1, dh2, -, -, heq⟩ := createSession_ok hnew
  revert heq
  generalize m.initialSession P env addr ephPub _ _ dh2 = s
  generalize m.assignVpnIp ip (m.reusedVpnIp addr) = assigned
  intro heq
  -- the new cell holds exactly the tags that are added to the map
  have hcell : (m'.heap m.nextId).cachedTags = s.cachedTags := by
    rw [heq]
    show (Function.update m.heap m.nextId _ m.nextId).cachedTags = s.cachedTags
    rw [Function.update_self]
    rfl
  have hmap : m'.tagMap = Index.insertAll (m'.heap m.nextId).cachedTags m.nextId m.tagMap := by
    rw [hcell, heq]
    show insertTags s.pendingTags m.nextId (insertTags s.currentTags m.nextId m.tagMap) = _
    rw [insertTags_eq, insertTags_eq, Index.insertAll_insertAll]
    rfl
  -- ids only grow, so that the new one is not in the map yet
  have hfresh : m.nextId ∉ m.sessions := fun hmem => Nat.lt_irrefl _ (ha _ hmem)
  have hlive : ∀ j ∈ m.sessions, j ∈ m'.sessions := by
    intro j hj
    rw [hsessions]
    exact List.mem_append_left _ hj
  have hself : m.nextId ∈ m'.sessions := by
    rw [hsessions]
    exact List.mem_append_right _ (List.mem_singleton_self _)
  have hexact := @Index.Exact.insert _ _ _ _ (fun j => (m'.heap j).cachedTags) _ _ _ h hfresh
    (fun j hne => by
      rw [heq]
      show (Function.update m.heap m.nextId _ j).cachedTags = _
      rw [Function.update_of_ne hne])
    (fun j hj => hideal.disjoint hsound hself (hlive j hj) fun hne => hfresh (hne ▸ hj))
  rw [tagExact_iff, hmap]
  refine hexact.congr (fun j => ?_) fun _ _ => rfl
  rw [hsessions, List.mem_append, List.mem_singleton]

theorem TagExact.removeSession {m : SessionManager} (h : m.TagExact) (sid : SessionId) :
    (m.removeSession sid).TagExact := by
  by_cases hlive : sid ∈ m.sessions
  · have hmap : (m.removeSession sid).tagMap =
        Index.removeAll (m.heap sid).cachedTags m.tagMap := by
      unfold SessionManager.removeSession
      rw [if_pos hlive]
      show removeTags _ (removeTags _ m.tagMap) = _
      rw [removeTags_eq, removeTags_eq, Index.removeAll_removeAll]
      rfl
    rw [tagExact_iff, hmap]
    refine (Index.Exact.remove h hlive).congr (fun j => mem_removeSession) fun j _ => ?_
    rw [removeSession_heap]
  · have hsame : m.removeSession sid = m := if_neg hlive
    rw [hsame]
    exact h

theorem TagExact.removeSessions {m : SessionManager} (h : m.TagExact) (sids : List SessionId) :
    (m.removeSessions sids).TagExact := by
  induction sids generalizing m with
  | nil => exact h
  | cons sid rest ih => exact ih (h.removeSession sid)

theorem TagExact.rollbackFailedSession {m : SessionManager} (h : m.TagExact) (sid : SessionId) :
    (m.rollbackFailedSession sid).TagExact := by
  rw [tagExact_iff, rollbackFailedSession_tagMap]
  refine Index.Exact.congr (h.removeSession sid) (fun j => ?_) fun j _ => ?_
  · rw [rollbackFailedSession_sessions]
  · rw [rollbackFailedSession_heap, removeSession_heap]

/-! ## Tag windows -/

/-- The entries of one session are replaced by those of its new tables. -/
theorem TagExact.replace {m m' : SessionManager} {sid : SessionId} {s : Session} (h : m.TagExact)
    (hlive : sid ∈ m.sessions) (hsessions : m'.sessions = m.sessions)
    (hheap : m'.heap = Function.update m.heap sid s) {f : Tag → Option SessionId}
    (hmap : m'.tagMap = Index.insertAll s.cachedTags sid f)
    (hf : ∀ tag other, f tag = some other ↔ other ≠ sid ∧ m.tagMap tag = some other)
    (hideal : m'.Ideal P W) (hsound : ∀ sid, (m'.heap sid).CacheSound P W) : m'.TagExact := by
  have hcell : s = m'.heap sid := by rw [hheap, Function.update_self]
  rw [hcell] at hmap
  have hexact := @Index.Exact.replace _ _ _ _ (fun j => (m'.heap j).cachedTags) _ _ _ h hlive
    (fun j hne => by rw [hheap, Function.update_of_ne hne])
    (fun j hj hne => hideal.disjoint hsound (hsessions ▸ hlive) (hsessions ▸ hj) hne) f hf
  rw [tagExact_iff, hmap]
  exact hexact.congr (fun j => by rw [hsessions]) fun _ _ => rfl

/-- A change of one session that leaves its tags and the map alone. -/
theorem TagExact.setSession {m m' : SessionManager} {sid : SessionId} {s : Session}
    (h : m.TagExact) (hsessions : ∀ other, other ∈ m'.sessions ↔ other ∈ m.sessions)
    (hmap : m'.tagMap = m.tagMap) (hheap : m'.heap = Function.update m.heap sid s)
    (hs : s.cachedTags = (m.heap sid).cachedTags) : m'.TagExact := by
  rw [tagExact_iff, hmap]
  refine Index.Exact.congr h hsessions fun j _ => ?_
  rw [hheap]
  by_cases heq : j = sid
  · rw [heq, Function.update_self, hs]
  · rw [Function.update_of_ne heq]

/-- A session may look for fewer tags of the same secrets. -/
theorem Ideal.setSession {m m' : SessionManager} {sid : SessionId} {s : Session}
    (h : m.Ideal P W) (hsessions : m'.sessions = m.sessions)
    (hheap : m'.heap = Function.update m.heap sid s)
    (hsecret : ∀ r, s.tagSecret r = (m.heap sid).tagSecret r)
    (hlookup : ∀ c ∈ s.lookupCounters, c ∈ (m.heap sid).lookupCounters) : m'.Ideal P W := by
  -- the step changes one cell only, and there neither a secret nor, in the cache, a counter that
  -- was not looked up before
  have hsame : ∀ other r, (m'.heap other).tagSecret r = (m.heap other).tagSecret r := by
    intro other r
    rw [hheap]
    by_cases heq : other = sid
    · rw [heq, Function.update_self, hsecret]
    · rw [Function.update_of_ne heq]
  have hfewer : ∀ other, ∀ c ∈ (m'.heap other).lookupCounters, c ∈ (m.heap other).lookupCounters := by
    intro other c hc
    rw [hheap] at hc
    by_cases heq : other = sid
    · rw [heq, Function.update_self] at hc
      rw [heq]
      exact hlookup c hc
    · rwa [Function.update_of_ne heq] at hc
  constructor
  · intro other hother other' hother' r r' secret hr hr'
    rw [hsame] at hr hr'
    rw [hsessions] at hother hother'
    exact h.secrets other hother other' hother' r r' secret hr hr'
  · refine h.tags.mono ?_
    rintro x ⟨other, hother, r, hr, hw, hc⟩
    rw [hsame] at hr
    refine ⟨other, hsessions ▸ hother, r, hr, hw, ?_⟩
    cases r with
    | false =>
        rw [if_neg Bool.false_ne_true] at hc ⊢
        exact hfewer other _ hc
    | true =>
        rw [if_pos rfl] at hc ⊢
        exact hc

theorem setSession_self (m : SessionManager) (sid : SessionId) (s : Session) :
    (m.setSession sid s).heap sid = s := by
  show Function.update m.heap sid s sid = s
  rw [Function.update_self]

theorem cacheSound_setSession {m : SessionManager} (h : ∀ sid, (m.heap sid).CacheSound P W)
    {sid : SessionId} {s : Session} (hs : s.CacheSound P W) (other : SessionId) :
    (Function.update m.heap sid s other).CacheSound P W := by
  by_cases heq : other = sid
  · rwa [heq, Function.update_self]
  · rw [Function.update_of_ne heq]
    exact h other

/-- The refresh of one session: its two tables are taken out and entered again one after the other.
That the removal of the old pending tags spares the new current ones needs ideal tags. -/
theorem TagExact.refreshSession {m : SessionManager} {tw : Nat} {sid : SessionId} (h : m.TagExact)
    (hlive : sid ∈ m.sessions) (hw : tw ∈ W) (hideal : m.Ideal P W)
    (hsound : ∀ sid, (m.heap sid).CacheSound P W) :
    (m.refreshSession P tw sid).TagExact ∧ (m.refreshSession P tw sid).Ideal P W := by
  have hmid : (m.setSession sid ((m.heap sid).updateTagWindow P tw)).Ideal P W :=
    hideal.setSession rfl rfl
      (Session.tagSecret_of_keyState (Session.updateTagWindow_keyState P tw _)) fun _ hc =>
        Session.mem_lookupCounters_of_updateTagWindow hc
  have hmidSound := @cacheSound_setSession P W m hsound sid _ ((hsound sid).updateTagWindow hw)
  have hnewIdeal : (m.refreshSession P tw sid).Ideal P W := by
    refine hideal.setSession rfl rfl (Session.refresh_tagSecret tw _) fun c hc => ?_
    rw [Session.updateRatchetedTagWindow_lookupCounters] at hc
    exact Session.mem_lookupCounters_of_updateTagWindow hc
  have hnewSound : ∀ other, ((m.refreshSession P tw sid).heap other).CacheSound P W :=
    cacheSound_setSession hsound (((hsound sid).updateTagWindow hw).updateRatchetedTagWindow hw)
  refine ⟨?_, hnewIdeal⟩
  -- the old pending tags are still there when the new current ones come in
  have hown := @Ideal.disjoint_own P W _ hmid hmidSound sid hlive
  rw [setSession_self, Session.updateTagWindow_pendingTags] at hown
  refine h.replace (f := Index.removeAll (m.heap sid).cachedTags m.tagMap) hlive rfl rfl ?_
    (Index.Exact.removeAll_eq_some h hlive) hnewIdeal hnewSound
  show insertTags _ sid (removeTags _ (insertTags _ sid (removeTags _ m.tagMap))) = _
  rw [Session.updateTagWindow_pendingTags, insertTags_eq, insertTags_eq, removeTags_eq,
    removeTags_eq, Index.removeAll_insertAll hown, Index.insertAll_insertAll,
    Index.removeAll_removeAll,
    ← Session.updateRatchetedTagWindow_currentTags P tw ((m.heap sid).updateTagWindow P tw)]
  rfl

theorem TagExact.refreshLoop {tw : Nat} (hw : tw ∈ W) (tag : Tag) (sids : List SessionId)
    {m : SessionManager} (h : m.TagExact) (hlive : ∀ sid ∈ sids, sid ∈ m.sessions)
    (hideal : m.Ideal P W) (hsound : ∀ sid, (m.heap sid).CacheSound P W) :
    (SessionManager.refreshLoop P tw tag sids m).2.TagExact := by
  induction sids generalizing m with
  | nil => exact h
  | cons sid rest ih =>
      obtain ⟨hone, honeIdeal⟩ :=
        h.refreshSession (hlive sid List.mem_cons_self) hw hideal hsound
      unfold SessionManager.refreshLoop
      simp only
      split
      · exact hone
      · exact ih hone (fun other hother => hlive other (List.mem_cons_of_mem _ hother)) honeIdeal
          (cacheSound_setSession hsound
            (((hsound sid).updateTagWindow hw).updateRatchetedTagWindow hw))

/-- `update_tag_window` followed by `refresh_session_tags`. -/
theorem TagExact.refreshSessionTags {m m' : SessionManager} {sid : SessionId} {s : Session}
    (h : m.TagExact) (hsessions : m'.sessions = m.sessions) (hmap : m'.tagMap = m.tagMap)
    (hheap : m'.heap = Function.update m.heap sid s) (hideal : (m'.refreshSessionTags sid).Ideal P W)
    (hsound : ∀ sid, (m'.heap sid).CacheSound P W) : (m'.refreshSessionTags sid).TagExact := by
  by_cases hlive : sid ∈ m.sessions
  · have hlive' : sid ∈ m'.sessions := hsessions ▸ hlive
    refine h.replace (s := s) (f := Index.dropOwner sid m.tagMap) hlive
      (by rw [refreshSessionTags_sessions, hsessions]) (by rw [refreshSessionTags_heap, hheap]) ?_
      (Index.dropOwner_eq_some m.tagMap sid) hideal (by rwa [refreshSessionTags_heap])
    unfold SessionManager.refreshSessionTags
    rw [if_pos hlive']
    show insertTags _ sid (insertTags _ sid (retainOthers sid m'.tagMap)) = _
    rw [insertTags_eq, insertTags_eq, retainOthers_eq, Index.insertAll_insertAll, hheap, hmap,
      Function.update_self]
    rfl
  · rw [refreshSessionTags_of_not_mem (hsessions ▸ hlive), tagExact_iff, hmap]
    refine Index.Exact.congr h (fun j => by rw [hsessions]) fun j hj => ?_
    have hne : j ≠ sid := by
      rintro rfl
      exact hlive hj
    rw [hheap, Function.update_of_ne hne]

/-- The pending tags become the current ones, and their entries stay. -/
theorem TagExact.completeSessionRatchet {m : SessionManager} (h : m.TagExact) (sid : SessionId)
    (hideal : (m.completeSessionRatchet sid).Ideal P W)
    (hsound : ∀ sid, (m.heap sid).CacheSound P W) : (m.completeSessionRatchet sid).TagExact := by
  by_cases hlive : sid ∈ m.sessions
  · have heq : m.completeSessionRatchet sid =
        { m.setSession sid (m.heap sid).completeRatchet with
          tagMap := insertTags (m.heap sid).completeRatchet.currentTags sid
            (removeTags (m.heap sid).currentTags m.tagMap) } := if_pos hlive
    rw [heq] at hideal ⊢
    refine h.replace (s := (m.heap sid).completeRatchet)
      (f := Index.removeAll (m.heap sid).cachedTags m.tagMap) hlive rfl rfl ?_
      (Index.Exact.removeAll_eq_some h hlive) hideal
      (cacheSound_setSession hsound (hsound sid).completeRatchet)
    show insertTags _ sid (removeTags _ m.tagMap) = _
    rw [insertTags_eq, removeTags_eq]
    -- without ratcheted keys the ratchet changes nothing; with them the pending tags become the
    -- current ones
    cases hkeys : (m.heap sid).ratchetedKeys with
    | none =>
        have hsame : (m.heap sid).completeRatchet = m.heap sid := by
          rw [Session.completeRatchet, hkeys]
        have hnil : (m.heap sid).pendingTags = [] := by
          rw [Session.pendingTags, (hsound sid).pending_eq_nil hkeys]
          rfl
        rw [hsame, Session.cachedTags, hnil, List.append_nil]
    | some keys =>
        have hcurrent : (m.heap sid).completeRatchet.currentTags = (m.heap sid).pendingTags := by
          rw [Session.completeRatchet, hkeys]
          rfl
        have hpending : (m.heap sid).completeRatchet.pendingTags = [] := by
          rw [Session.completeRatchet, hkeys]
          rfl
        rw [Session.cachedTags, Session.cachedTags, hcurrent, hpending, List.append_nil,
          Index.insertAll_removeAll]
  · have hsame : m.completeSessionRatchet sid = m := if_neg hlive
    rw [hsame]
    exact h

/-- A recovery keeps the map exact when the recovered session has no pending tags, and only
then. -/
theorem tagExact_recover_iff {m : SessionManager} {tw c : Nat} {tag : Tag} {ip : IpAddr}
    {sid : SessionId} (h : m.TagExact) (hw : tw ∈ W)
    (hhit : m.recoveryHit P tw tag ip = some (sid, c))
    (hideal : (m.recoverSessionByTag P tw tag ip).2.Ideal P W)
    (hsound : ∀ sid, (m.heap sid).CacheSound P W) :
    (m.recoverSessionByTag P tw tag ip).2.TagExact ↔ (m.heap sid).ratchetedExpectedTags = [] := by
  have hlive := (recoveryHit_mem P hhit).1
  have heq : (m.recoverSessionByTag P tw tag ip).2 =
      { m.setSession sid ((m.heap sid).recoverAt P tw c) with
        tagMap := insertTags ((m.heap sid).recoverAt P tw c).currentTags sid
          (retainOthers sid m.tagMap) } := by
    simp only [recoverSessionByTag, hhit]
  have hs : ((m.heap sid).recoverAt P tw c).CacheSound P W := (hsound sid).recoverAt hw c
  have hpending : ((m.heap sid).recoverAt P tw c).pendingTags = (m.heap sid).pendingTags := by
    rw [Session.recoverAt, Session.updateTagWindow_pendingTags]
    rfl
  rw [heq] at hideal ⊢
  clear heq
  generalize (m.heap sid).recoverAt P tw c = s at hideal hs hpending ⊢
  have hsound' := @cacheSound_setSession P W m hsound sid s hs
  constructor
  · intro hexact
    by_contra hne
    obtain ⟨x, hx⟩ := List.exists_mem_of_ne_nil _ hne
    -- a pending tag loses its entry and is not among the current ones that are entered again
    have hmem : x.2 ∈ (m.heap sid).pendingTags := List.mem_map.2 ⟨x, hx, rfl⟩
    have hentry : m.tagMap x.2 = some sid :=
      (h x.2 sid).2 ⟨hlive, List.mem_append_right _ hmem⟩
    have hcell := setSession_self m sid s
    have hown : s.currentTags.Disjoint s.pendingTags :=
      hcell ▸ @Ideal.disjoint_own P W _ hideal hsound' sid hlive
    have hnot : x.2 ∉ s.currentTags := fun hcur => hown hcur (hpending ▸ hmem)
    have hnone : insertTags s.currentTags sid (retainOthers sid m.tagMap) x.2 = none := by
      rw [insertTags, if_neg hnot, retainOthers, if_pos hentry]
    have hcached : x.2 ∈ ((m.setSession sid s).heap sid).cachedTags := by
      rw [hcell]
      exact List.mem_append_right _ (hpending ▸ hmem)
    cases hnone.symm.trans ((hexact x.2 sid).2 ⟨hlive, hcached⟩)
  · intro hnil
    refine h.replace (f := Index.dropOwner sid m.tagMap) hlive rfl rfl ?_
      (Index.dropOwner_eq_some m.tagMap sid) hideal hsound'
    show insertTags _ sid (retainOthers sid m.tagMap) = _
    rw [insertTags_eq, retainOthers_eq, Session.cachedTags, hpending, Session.pendingTags, hnil,
      List.map_nil, List.append_nil]

/-! ## One operation -/

/-- What every operation keeps in any case: live sessions have been given out their ids, and the tag
tables hold tags of the session's own keys. -/
structure Sound (P : Primitives) (W : Set Nat) (m : SessionManager) : Prop where
  allocated : m.Allocated
  cache : ∀ sid, (m.heap sid).CacheSound P W

/-- An operation on live sessions that keeps the ids and changes at most one of the cells. -/
theorem Sound.of_cell {m m' : SessionManager} {sid : SessionId} {s : Session} (h : m.Sound P W)
    (hsessions : ∀ other ∈ m'.sessions, other ∈ m.sessions) (hnext : m'.nextId = m.nextId)
    (hheap : m'.heap = Function.update m.heap sid s) (hs : s.CacheSound P W) : m'.Sound P W := by
  constructor
  · intro other hother
    rw [hnext]
    exact h.allocated other (hsessions other hother)
  · rw [hheap]
    exact cacheSound_setSession h.cache hs

theorem Sound.of_heap {m m' : SessionManager} (h : m.Sound P W)
    (hsessions : ∀ other ∈ m'.sessions, other ∈ m.sessions) (hnext : m'.nextId = m.nextId)
    (hheap : m'.heap = m.heap) : m'.Sound P W :=
  @Sound.of_cell P W m m' 0 (m.heap 0) h hsessions hnext (by rw [hheap, Function.update_eq_self])
    (h.cache 0)

theorem Sound.createSession {env : Env} {m m' : SessionManager} {addr : SocketAddr} {ephPub : Key}
    {psk : Option Key} {ip : Option Ipv4Addr} {sid : SessionId} (h : m.Sound P W)
    (hw : env.timeWindow ∈ W)
    (hnew : m.createSession P rng env addr ephPub psk ip = (.ok sid, m')) : m'.Sound P W := by
  obtain ⟨hsessions, hnext, -⟩ := createSession_sessions hnew
  obtain ⟨s, hcreates, -, hheap⟩ := createSession_heap hnew
  constructor
  · intro other hother
    rw [hnext]
    rw [hsessions] at hother
    rcases List.mem_append.1 hother with hold | hnew
    · exact Nat.lt_succ_of_lt (h.allocated other hold)
    · rw [List.mem_singleton.1 hnew]
      exact Nat.lt_succ_self _
  · rw [hheap]
    exact cacheSound_setSession h.cache (hcreates.cacheSound hw)

theorem Sound.managerStep {m : SessionManager} (h : m.Sound P W) {op : ManagerOp}
    (hw : ∀ w ∈ op.windows, w ∈ W) : (managerStep P rng m op).Sound P W := by
  cases op with
  | createSession env addr ephPub psk ip =>
      show (m.createSession P rng env addr ephPub psk ip).2.Sound P W
      cases hnew : m.createSession P rng env addr ephPub psk ip with
      | mk result m' => cases result with
        | error e =>
            rw [createSession_error P rng hnew]
            exact h
        | ok sid => exact h.createSession (hw _ List.mem_cons_self) hnew
  | removeSession sid =>
      exact h.of_heap (fun _ hmem => (mem_removeSession.1 hmem).1) (removeSession_nextId m sid)
        (removeSession_heap m sid)
  | rollbackFailedSession sid =>
      refine h.of_heap (fun other hmem => ?_) (rollbackFailedSession_nextId m sid)
        (rollbackFailedSession_heap m sid)
      have hmem : other ∈ (m.rollbackFailedSession sid).sessions := hmem
      rw [rollbackFailedSession_sessions] at hmem
      exact (mem_removeSession.1 hmem).1
  | cleanupOldSessionsForVpnIp vpnIp keep =>
      exact h.of_heap (fun _ hmem => (mem_removeSessions.1 hmem).1) (removeSessions_nextId m _)
        (removeSessions_heap m _)
  | cleanupExpired now =>
      exact h.of_heap (fun _ hmem => (mem_removeSessions.1 hmem).1) (removeSessions_nextId m _)
        (removeSessions_heap m _)
  | refreshAndFindByTag tw tag =>
      -- the loop refreshes one cell after the other, with both windows
      have htw : tw ∈ W := hw tw List.mem_cons_self
      constructor
      · intro sid hmem
        have hmem : sid ∈ (refreshLoop P tw tag m.sessions m).2.sessions := hmem
        show sid < (refreshLoop P tw tag m.sessions m).2.nextId
        rw [refreshLoop_sessions] at hmem
        rw [refreshLoop_nextId]
        exact h.allocated sid hmem
      · exact fun sid => refreshLoop_preserves
          (fun s hs => (hs.updateTagWindow htw).updateRatchetedTagWindow htw) tag m.sessions
          (h.cache sid)
  | recoverSessionByTag tw tag ip =>
      show (m.recoverSessionByTag P tw tag ip).2.Sound P W
      unfold SessionManager.recoverSessionByTag
      -- a recovery moves the window of the session it hits; without a hit nothing changes
      split
      · exact h
      · next sid c hhit =>
          exact h.of_cell (fun _ hmem => hmem) rfl rfl
            ((h.cache sid).recoverAt (hw tw List.mem_cons_self) c)
  | completeSessionRatchet sid =>
      show (m.completeSessionRatchet sid).Sound P W
      unfold SessionManager.completeSessionRatchet
      split_ifs
      · exact h.of_cell (fun _ hmem => hmem) rfl rfl (h.cache sid).completeRatchet
      · exact h
  | updateTagWindow tw sid =>
      refine h.of_cell (fun other hmem => ?_) (refreshSessionTags_nextId _ sid)
        (refreshSessionTags_heap _ sid)
        ((h.cache sid).updateTagWindow (hw tw List.mem_cons_self))
      have hmem : other ∈ ((m.setSession sid
        ((m.heap sid).updateTagWindow P tw)).refreshSessionTags sid).sessions := hmem
      rwa [refreshSessionTags_sessions] at hmem
  | markTagReceived sid c =>
      exact h.of_cell (fun _ hmem => hmem) rfl rfl ((h.cache sid).markTagReceived c)
  | reorder sessions =>
      show (if sessions.Perm m.sessions then { m with sessions := sessions } else m).Sound P W
      split_ifs with hperm
      · exact h.of_heap (fun _ hmem => hperm.mem_iff.1 hmem) rfl rfl
      · exact h

end SessionManager

/-- The tag belongs to a counter that a recovery tries for the session. -/
def Session.Recoverable (P : Primitives) (tw : Nat) (s : Session) (tag : Tag) : Prop :=
  ∃ i < recoveryRange, ∃ w ∈ nearWindows tw,
    P.generateResonanceTag s.keys.tagSecret (wrappingAdd s.counter i) w = tag

theorem Session.recoverySearch_ne_none {P : Primitives} {tw : Nat} {s : Session} {tag : Tag}
    (h : s.Recoverable P tw tag) : s.recoverySearch P tw tag ≠ none := by
  obtain ⟨i, hi, w, hw, htag⟩ := h
  intro hnone
  have hwindow := List.findSome?_eq_none_iff.1 hnone w hw
  rw [Option.map_eq_none_iff] at hwindow
  have hmem : i ∈ List.range' 0 recoveryRange := List.mem_range'_1.2 ⟨Nat.zero_le i, by simpa using hi⟩
  exact absurd (List.find?_eq_none.1 hwindow i hmem) (by simpa using htag)

namespace SessionManager

variable {P : Primitives} {rng : Randomness} {W : Set Nat}

/-- A recovery is never asked for a tag of a session that has pending tags. -/
def RecoversSettled (P : Primitives) (m : SessionManager) : ManagerOp → Prop
  | .recoverSessionByTag tw tag clientIp =>
      ∀ sid ∈ m.sessions, (m.heap sid).clientAddr.ip = clientIp →
        (m.heap sid).Recoverable P tw tag → (m.heap sid).ratchetedExpectedTags = []
  | _ => True

/-- The sessions of which a recovery may be asked, against the one it hits. -/
theorem recoversSettled_iff {m : SessionManager} {tw : Nat} {tag : Tag} {ip : IpAddr}
    (hideal : m.Ideal P W) (hw : ∀ w ∈ nearWindows tw, w ∈ W) :
    m.RecoversSettled P (.recoverSessionByTag tw tag ip) ↔
      ∀ sid c, m.recoveryHit P tw tag ip = some (sid, c) →
        (m.heap sid).ratchetedExpectedTags = [] := by
  constructor
  · intro h sid c hhit
    obtain ⟨hlive, hip, hfind⟩ := recoveryHit_mem P hhit
    obtain ⟨i, w, hi, hmem, rfl, htag⟩ := Session.recoverySearch_eq_some P hfind
    exact h sid hlive hip ⟨i, hi, w, hmem, htag⟩
  · intro h sid hlive hip hrec
    cases hhit : m.recoveryHit P tw tag ip with
    | none =>
        have hnone := List.findSome?_eq_none_iff.1 hhit sid hlive
        rw [if_neg (not_not.2 hip), Option.map_eq_none_iff] at hnone
        exact absurd hnone (Session.recoverySearch_ne_none hrec)
    | some hit =>
        -- both sessions have the tag, so they are one
        obtain ⟨hlive', -, hfind⟩ := recoveryHit_mem P hhit
        obtain ⟨c, hc⟩ := Option.ne_none_iff_exists'.1 (Session.recoverySearch_ne_none hrec)
        obtain ⟨rfl, -⟩ := hasTag_unique hideal.secrets hideal.tags hlive' hlive
          (Session.hasTag_of_recoverySearch hw hfind) (Session.hasTag_of_recoverySearch hw hc)
        exact h _ _ hhit

/-- One operation keeps the map exact, recoveries on the condition that they are settled. -/
theorem tagExact_step_iff {m : SessionManager} {op : ManagerOp} (hsound : m.Sound P W)
    (h : m.TagExact) (hideal : m.Ideal P W) (hw : ∀ w ∈ op.windows, w ∈ W)
    (hideal' : (managerStep P rng m op).Ideal P W) :
    (managerStep P rng m op).TagExact ↔ m.RecoversSettled P op := by
  have hsound' := (@Sound.managerStep P rng W m hsound op hw).cache
  cases op with
  -- creation, removal and the refreshes keep the index exact; only a recovery has a condition
  | createSession env addr ephPub psk ip =>
      refine iff_of_true ?_ trivial
      revert hideal' hsound'
      show (m.createSession P rng env addr ephPub psk ip).2.Ideal P W →
        (∀ sid, ((m.createSession P rng env addr ephPub psk ip).2.heap sid).CacheSound P W) →
        (m.createSession P rng env addr ephPub psk ip).2.TagExact
      cases hnew : m.createSession P rng env addr ephPub psk ip with
      | mk result m' =>
          intro hideal' hsound'
          cases result with
          | error e =>
              rw [createSession_error P rng hnew]
              exact h
          | ok sid => exact h.createSession hsound.allocated hnew hideal' hsound'
  | removeSession sid => exact iff_of_true (h.removeSession sid) trivial
  | rollbackFailedSession sid => exact iff_of_true (h.rollbackFailedSession sid) trivial
  | cleanupOldSessionsForVpnIp vpnIp keep => exact iff_of_true (h.removeSessions _) trivial
  | cleanupExpired now => exact iff_of_true (h.removeSessions _) trivial
  | refreshAndFindByTag tw tag =>
      exact iff_of_true (TagExact.refreshLoop (hw tw List.mem_cons_self) tag m.sessions h
        (fun _ hmem => hmem) hideal hsound.cache) trivial
  | recoverSessionByTag tw tag ip =>
      rw [recoversSettled_iff hideal hw]
      cases hhit : m.recoveryHit P tw tag ip with
      | none =>
          have hsame : (m.recoverSessionByTag P tw tag ip).2 = m := by
            simp only [recoverSessionByTag, hhit]
          refine iff_of_true (?_ : (m.recoverSessionByTag P tw tag ip).2.TagExact) ?_
          · rw [hsame]
            exact h
          · intro sid c hnone
            cases hnone
      | some hit =>
          rw [show (managerStep P rng m (.recoverSessionByTag tw tag ip)).TagExact ↔ _ from
            tagExact_recover_iff h (hw tw List.mem_cons_self) hhit hideal' hsound.cache]
          constructor
          · intro hnil sid c heq
            cases heq
            exact hnil
          · exact fun hall => hall _ _ rfl
  | completeSessionRatchet sid =>
      exact iff_of_true (h.completeSessionRatchet sid hideal' hsound.cache) trivial
  | updateTagWindow tw sid =>
      refine iff_of_true (h.refreshSessionTags rfl rfl rfl hideal' ?_) trivial
      exact cacheSound_setSession hsound.cache
        ((hsound.cache sid).updateTagWindow (hw tw List.mem_cons_self))
  | markTagReceived sid c =>
      refine iff_of_true (h.setSession (fun _ => Iff.rfl) rfl rfl ?_) trivial
      unfold Session.markTagReceived
      simp only
      split_ifs <;> rfl
  | reorder sessions =>
      refine iff_of_true ?_ trivial
      show (if sessions.Perm m.sessions then { m with sessions := sessions } else m).TagExact
      split_ifs with hperm
      · exact Index.Exact.congr h (fun _ => hperm.mem_iff) fun _ _ => rfl
      · exact h

end SessionManager

/-! ## Runs -/

/-- In every run from an empty manager in which live sessions have distinct tag secrets and tags do
not collide, the tag map is exact after every operation exactly when no recovery is asked for a tag
of a session with pending tags. -/
theorem tagExact_iff_recoversSettled (P : Primitives) (rng : Randomness) (serverKeys : KeyPair)
    (signingKey : Key) (ops : List ManagerOp)
    (hideal : Along (managerStep P rng)
      (fun m op => (managerStep P rng m op).Ideal P (ManagerOp.windowsOf ops))
      (SessionManager.new serverKeys signingKey) ops) :
    Along (managerStep P rng) (fun m op => (managerStep P rng m op).TagExact)
        (SessionManager.new serverKeys signingKey) ops ↔
      Along (managerStep P rng) (SessionManager.RecoversSettled P)
        (SessionManager.new serverKeys signingKey) ops := by
  have hwindows : Along (managerStep P rng)
      (fun _ op => ∀ w ∈ op.windows, w ∈ ManagerOp.windowsOf ops)
      (SessionManager.new serverKeys signingKey) ops :=
    along_of_forall fun op hop w hw => ⟨op, hop, hw⟩
  have hrun := along_and.2 ⟨hideal, hwindows⟩
  -- the invariant carries exactness along, so that each step may use the lemma about one step
  refine @along_iff_of_invariant _ _ _ (fun m => m.Sound P (ManagerOp.windowsOf ops) ∧
    m.TagExact ∧ m.Ideal P (ManagerOp.windowsOf ops)) _ _ _ ?_ ?_ _ _ ?_ hrun
  · rintro m op ⟨hsound, hexact, hideal⟩ ⟨hideal', hw⟩ hsettled
    exact ⟨hsound.managerStep hw,
      (SessionManager.tagExact_step_iff hsound hexact hideal hw hideal').2 hsettled, hideal'⟩
  · rintro m op ⟨hsound, hexact, hideal⟩ ⟨hideal', hw⟩
    exact SessionManager.tagExact_step_iff hsound hexact hideal hw hideal'
  · refine ⟨⟨?_, fun sid => ?_⟩, fun tag sid => ?_, ?_, ?_⟩
    · intro sid hmem
      cases hmem
    · exact Session.cacheSound_of_empty rfl rfl rfl
    · exact iff_of_false (fun hnone => by cases hnone) fun hlive => by cases hlive.1
    · intro sid hmem
      cases hmem
    · rintro x ⟨sid, hmem, -⟩
      cases hmem

/-- The sample client opens a session. -/
def sampleCreate : ManagerOp :=
  .createSession (sampleEnv 100) sampleAddr sampleClientKeys.publicKeyBytes none none

/-- The manager with the one session of the sample client. -/
def sampleCreated : SessionManager :=
  managerStep samplePrimitives sampleRandomness (.new sampleServerKeys default) sampleCreate

/-- A recovery with the tag of counter 300 under the current keys of a session. -/
def sampleDrift (s : Session) : ManagerOp :=
  .recoverSessionByTag 100 (samplePrimitives.generateResonanceTag s.keys.tagSecret 300 100)
    sampleAddr.ip

/-- The windows of a run of the sample operations are small. -/
theorem sampleWindows_lt {ops : List ManagerOp}
    (h : ∀ op ∈ ops, ∀ w ∈ op.windows, w < 2 ^ 24) : ∀ w ∈ ManagerOp.windowsOf ops, w < 2 ^ 24 := by
  rintro w ⟨op, hop, hw⟩
  exact h op hop w hw

/-- A session that has not completed its ratchet is recovered at counter 300. Its pending tags are
still in its table and no longer in the map. -/
theorem recovery_loses_pending_entries :
    let ops := [sampleCreate, sampleDrift (sampleCreated.heap 0)]
    Along (managerStep samplePrimitives sampleRandomness)
        (fun m op => (managerStep samplePrimitives sampleRandomness m op).Ideal samplePrimitives
          (ManagerOp.windowsOf ops))
        (.new sampleServerKeys default) ops ∧
      ¬ (runFrom (managerStep samplePrimitives sampleRandomness) (.new sampleServerKeys default)
        ops).TagExact := by
  intro ops
  have hW : ∀ w ∈ ManagerOp.windowsOf ops, w < 2 ^ 24 := sampleWindows_lt (by decide +kernel)
  refine ⟨⟨?_, ?_, trivial⟩, ?_⟩
  · exact @SessionManager.ideal_of_single sampleCreated 0 0 _ (by decide +kernel)
      (by decide +kernel) (by decide +kernel) (by decide +kernel) (by decide) hW
  · exact @SessionManager.ideal_of_single (managerStep samplePrimitives sampleRandomness
      sampleCreated (sampleDrift (sampleCreated.heap 0))) 0 300 _ (by decide +kernel)
      (by decide +kernel) (by decide +kernel) (by decide +kernel) (by decide) hW
  · intro hexact
    have hcached : (((runFrom (managerStep samplePrimitives sampleRandomness)
        (.new sampleServerKeys default) ops).heap 0).pendingTags.any fun tag =>
          (runFrom (managerStep samplePrimitives sampleRandomness) (.new sampleServerKeys default)
            ops).tagMap tag == none) = true := by
      decide +kernel
    obtain ⟨tag, hmem, hnone⟩ := List.any_eq_true.1 hcached
    have hentry := (hexact tag 0).2 ⟨by decide +kernel, List.mem_append_right _ hmem⟩
    rw [eq_of_beq hnone] at hentry
    cases hentry

/-- Once the ratchet is complete, the same recovery keeps the map exact. -/
theorem recovery_after_ratchet_exact :
    let ops := [sampleCreate, .completeSessionRatchet 0,
      sampleDrift ((sampleCreated.completeSessionRatchet 0).heap 0)]
    Along (managerStep samplePrimitives sampleRandomness)
      (fun m op => (managerStep samplePrimitives sampleRandomness m op).TagExact)
      (.new sampleServerKeys default) ops := by
  intro ops
  have hW : ∀ w ∈ ManagerOp.windowsOf ops, w < 2 ^ 24 := sampleWindows_lt (by decide +kernel)
  refine (tagExact_iff_recoversSettled samplePrimitives sampleRandomness sampleServerKeys default
    ops ⟨?_, ?_, ?_, trivial⟩).2 ⟨trivial, trivial, ?_, trivial⟩
  · exact @SessionManager.ideal_of_single sampleCreated 0 0 _ (by decide +kernel)
      (by decide +kernel) (by decide +kernel) (by decide +kernel) (by decide) hW
  · exact @SessionManager.ideal_of_single (sampleCreated.completeSessionRatchet 0) 0 0 _
      (by decide +kernel) (by decide +kernel) (by decide +kernel) (by decide +kernel) (by decide) hW
  · exact @SessionManager.ideal_of_single (managerStep samplePrimitives sampleRandomness
      (sampleCreated.completeSessionRatchet 0)
      (sampleDrift ((sampleCreated.completeSessionRatchet 0).heap 0))) 0 300 _ (by decide +kernel)
      (by decide +kernel) (by decide +kernel) (by decide +kernel) (by decide) hW
  · intro sid hlive _ _
    have hone : (sampleCreated.completeSessionRatchet 0).sessions = [0] := by decide +kernel
    have hlive : sid ∈ (sampleCreated.completeSessionRatchet 0).sessions := hlive
    rw [hone] at hlive
    obtain rfl := List.mem_singleton.1 hlive
    show ((sampleCreated.completeSessionRatchet 0).heap 0).ratchetedExpectedTags = []
    decide +kernel

end Aivpn
