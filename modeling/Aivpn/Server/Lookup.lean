import Aivpn.Server.Gateway

/-!
# The lookup chain

What `refresh_and_find_by_tag` and `recover_session_by_tag` leave alone, and the outcomes of the
lookup chain of `handle_packet` (`findSession_cases`). A refresh of the tag windows keeps the view
of every session (`sameSessions_refresh`) and does not change what recovery finds
(`recoveryHit_refresh`).
-/

set_option autoImplicit false

namespace Aivpn

open Aivpn.Lib

/-- The part of a session that a datagram must not change unless it is authentic. -/
structure SessionView where
  counter : Nat
  receivedBitmap : U256
  keys : SessionKeys
  isRatcheted : Bool
  clientAddr : SocketAddr
  vpnIp : Option Ipv4Addr

/-- The view of a session. -/
def Session.view (s : Session) : SessionView where
  counter := s.counter
  receivedBitmap := s.receivedBitmap
  keys := s.keys
  isRatcheted := s.isRatcheted
  clientAddr := s.clientAddr
  vpnIp := s.vpnIp

/-- The same sessions are live, each with the same view, and VPN addresses belong to the same
sessions. -/
structure SameSessions (m m' : SessionManager) : Prop where
  live : ∀ sid, sid ∈ m'.sessions ↔ sid ∈ m.sessions
  view : ∀ sid ∈ m.sessions, (m'.heap sid).view = (m.heap sid).view
  routes : m'.vpnIpMap = m.vpnIpMap

theorem SameSessions.refl (m : SessionManager) : SameSessions m m :=
  ⟨fun _ => Iff.rfl, fun _ _ => rfl, rfl⟩

namespace SessionManager

variable (P : Primitives)

@[simp] theorem refreshSession_sessions (tw : Nat) (m : SessionManager) (sid : SessionId) :
    (m.refreshSession P tw sid).sessions = m.sessions := rfl

theorem recoveryHit_mem {tw : Nat} {m : SessionManager} {tag : Tag} {ip : IpAddr}
    {sid : SessionId} {c : Nat} (h : m.recoveryHit P tw tag ip = some (sid, c)) :
    sid ∈ m.sessions ∧ (m.heap sid).clientAddr.ip = ip ∧
      (m.heap sid).recoverySearch P tw tag = some c := by
  unfold recoveryHit at h
  obtain ⟨sid', hmem, hs⟩ := List.exists_of_findSome?_eq_some h
  split_ifs at hs with hip
  rw [Option.map_eq_some_iff] at hs
  obtain ⟨c', hc, heq⟩ := hs
  cases heq
  exact ⟨hmem, by simpa using hip, hc⟩

theorem recoverSessionByTag_of_hit {tw : Nat} {m : SessionManager} {tag : Tag} {ip : IpAddr}
    {sid : SessionId} {c : Nat} (h : m.recoveryHit P tw tag ip = some (sid, c)) :
    (m.recoverSessionByTag P tw tag ip).2.heap =
      Function.update m.heap sid ((m.heap sid).recoverAt P tw c) := by
  simp [recoverSessionByTag, h, setSession]

@[simp] theorem refreshLoop_sessions (tw : Nat) (tag : Tag) (sids : List SessionId)
    (m : SessionManager) : (refreshLoop P tw tag sids m).2.sessions = m.sessions := by
  induction sids generalizing m with
  | nil => rfl
  | cons sid rest ih =>
      unfold refreshLoop
      simp only
      split
      · rfl
      · rw [ih, refreshSession_sessions]

/-- What the refresh loop leaves alone in a session, it leaves alone in all of them. -/
theorem refreshLoop_heap {α : Type} (f : Session → α) (tw : Nat) (tag : Tag)
    (hf : ∀ s : Session, f ((s.updateTagWindow P tw).updateRatchetedTagWindow P tw) = f s)
    (sids : List SessionId) (m : SessionManager) (sid : SessionId) :
    f ((refreshLoop P tw tag sids m).2.heap sid) = f (m.heap sid) := by
  induction sids generalizing m with
  | nil => rfl
  | cons sid' rest ih =>
      have hone : f ((m.refreshSession P tw sid').heap sid) = f (m.heap sid) := by
        show f (Function.update m.heap sid' _ sid) = f (m.heap sid)
        by_cases heq : sid = sid'
        · subst heq
          rw [Function.update_self]
          exact hf _
        · rw [Function.update_of_ne heq]
      unfold refreshLoop
      simp only
      split
      · exact hone
      · rw [ih, hone]

/-- The outcomes of the lookup chain. -/
theorem findSession_cases (env : Env) (m : SessionManager) (tag : Tag) (ip : IpAddr) :
    (∃ sid, m.getSessionByTag tag = some sid ∧
      (m.findSession P env tag ip = (.error (.invalidPacket "Invalid tag"), m) ∨
        ∃ c r, (m.heap sid).validateTag P env.timeWindow tag = some (c, r) ∧
          m.findSession P env tag ip = (.ok (some (sid, c, r)), m))) ∨
    m.getSessionByTag tag = none ∧
      ((∃ hit, (m.refreshAndFindByTag P env.timeWindow tag).1 = some hit ∧
        m.findSession P env tag ip =
          (.ok (some hit), (m.refreshAndFindByTag P env.timeWindow tag).2)) ∨
      (m.refreshAndFindByTag P env.timeWindow tag).1 = none ∧
        m.findSession P env tag ip =
          (.ok ((m.refreshAndFindByTag P env.timeWindow tag).2.recoverSessionByTag P
              env.timeWindow tag ip).1,
            ((m.refreshAndFindByTag P env.timeWindow tag).2.recoverSessionByTag P
              env.timeWindow tag ip).2)) := by
  unfold findSession
  cases hget : m.getSessionByTag tag with
  | some sid =>
      refine Or.inl ⟨sid, rfl, ?_⟩
      simp only
      cases hv : (m.heap sid).validateTag P env.timeWindow tag with
      | none => exact Or.inl rfl
      | some hit => exact Or.inr ⟨hit.1, hit.2, rfl, rfl⟩
  | none =>
      refine Or.inr ⟨rfl, ?_⟩
      rcases hr : m.refreshAndFindByTag P env.timeWindow tag with ⟨found, m'⟩
      cases found with
      | some hit => exact Or.inl ⟨hit, rfl, rfl⟩
      | none => exact Or.inr ⟨rfl, rfl⟩

@[simp] theorem refreshLoop_vpnIpMap (tw : Nat) (tag : Tag) (sids : List SessionId)
    (m : SessionManager) : (refreshLoop P tw tag sids m).2.vpnIpMap = m.vpnIpMap := by
  induction sids generalizing m with
  | nil => rfl
  | cons sid rest ih =>
      unfold refreshLoop
      simp only
      split
      · rfl
      · rw [ih]
        rfl

@[simp] theorem refreshLoop_nextId (tw : Nat) (tag : Tag) (sids : List SessionId)
    (m : SessionManager) : (refreshLoop P tw tag sids m).2.nextId = m.nextId := by
  induction sids generalizing m with
  | nil => rfl
  | cons sid rest ih =>
      unfold refreshLoop
      simp only
      split
      · rfl
      · rw [ih]
        rfl

theorem refresh_view (tw : Nat) (s : Session) :
    ((s.updateTagWindow P tw).updateRatchetedTagWindow P tw).view = s.view := by
  unfold Session.updateRatchetedTagWindow
  split <;> simp [Session.view, Session.updateTagWindow]

/-- Refreshing the tag windows is harmless. -/
theorem sameSessions_refresh (tw : Nat) (m : SessionManager) (tag : Tag) :
    SameSessions m (m.refreshAndFindByTag P tw tag).2 where
  live sid := by
    unfold refreshAndFindByTag
    rw [refreshLoop_sessions]
  view sid _ := refreshLoop_heap P Session.view tw tag (refresh_view P tw) m.sessions m sid
  routes := refreshLoop_vpnIpMap P tw tag m.sessions m

theorem recoverySearch_refresh (tw : Nat) (s : Session) (tag : Tag) :
    ((s.updateTagWindow P tw).updateRatchetedTagWindow P tw).recoverySearch P tw tag =
      s.recoverySearch P tw tag := by
  have hview := refresh_view P tw s
  have hkeys : ((s.updateTagWindow P tw).updateRatchetedTagWindow P tw).keys = s.keys :=
    congrArg SessionView.keys hview
  have hcounter : ((s.updateTagWindow P tw).updateRatchetedTagWindow P tw).counter = s.counter :=
    congrArg SessionView.counter hview
  simp only [Session.recoverySearch, hkeys, hcounter]

theorem recoveryHit_refresh (tw : Nat) (m : SessionManager) (tag : Tag) (ip : IpAddr) :
    (m.refreshAndFindByTag P tw tag).2.recoveryHit P tw tag ip = m.recoveryHit P tw tag ip := by
  have haddr : ∀ sid, ((m.refreshAndFindByTag P tw tag).2.heap sid).clientAddr =
      (m.heap sid).clientAddr :=
    refreshLoop_heap P Session.clientAddr tw tag
      (fun s => congrArg SessionView.clientAddr (refresh_view P tw s)) m.sessions m
  have hsearch : ∀ sid, ((m.refreshAndFindByTag P tw tag).2.heap sid).recoverySearch P tw tag =
      (m.heap sid).recoverySearch P tw tag :=
    refreshLoop_heap P (fun s => s.recoverySearch P tw tag) tw tag
      (fun s => recoverySearch_refresh P tw s tag) m.sessions m
  unfold recoveryHit
  simp only [haddr, hsearch]
  unfold refreshAndFindByTag
  rw [refreshLoop_sessions]

/-- A session found by the refresh loop is one of those visited, and validates the tag with its
refreshed windows. -/
theorem refreshLoop_hit {tw : Nat} {tag : Tag} {sids : List SessionId} {m : SessionManager}
    {sid : SessionId} {c : Nat} {r : Bool}
    (h : (refreshLoop P tw tag sids m).1 = some (sid, c, r)) :
    sid ∈ sids ∧ ((refreshLoop P tw tag sids m).2.heap sid).validateTag P tw tag = some (c, r) := by
  induction sids generalizing m with
  | nil => cases h
  | cons sid' rest ih =>
      unfold refreshLoop at h ⊢
      simp only at h ⊢
      split at h
      · next c' r' hv =>
          cases h
          exact ⟨List.mem_cons_self, hv⟩
      · next hv =>
          obtain ⟨hmem, hvalid⟩ := ih h
          exact ⟨List.mem_cons_of_mem _ hmem, hvalid⟩

/-- The lookup chain finds live sessions. -/
theorem findSession_mem {env : Env} {m m' : SessionManager} {tag : Tag} {ip : IpAddr}
    {sid : SessionId} {c : Nat} {r : Bool}
    (h : m.findSession P env tag ip = (.ok (some (sid, c, r)), m')) : sid ∈ m.sessions := by
  rcases m.findSession_cases P env tag ip with ⟨sid', hget, hfs | ⟨c', r', -, hfs⟩⟩ |
    ⟨-, ⟨hit, href, hfs⟩ | ⟨-, hfs⟩⟩
  -- the three places a session can come from: the tag map, the refresh and the recovery
  · rw [hfs] at h
    cases h
  · rw [hfs] at h
    cases h
    unfold getSessionByTag at hget
    split at hget
    · split_ifs at hget with hmem
      exact Option.some.inj hget ▸ hmem
    · cases hget
  · rw [hfs] at h
    cases h
    exact (refreshLoop_hit P href).1
  · rw [hfs] at h
    have hrec := Except.ok.inj (Prod.mk.inj h).1
    unfold recoverSessionByTag at hrec
    split at hrec
    · cases hrec
    · next hhit =>
        cases hrec
        rw [recoveryHit_refresh] at hhit
        exact (recoveryHit_mem P hhit).1

/-- The lookup chain moves tag windows and, in a recovery, one counter. What these leave alone in
a session, it leaves alone in all of them. -/
theorem findSession_heap {α : Type} (f : Session → α)
    (hrefresh : ∀ (tw : Nat) (s : Session),
      f ((s.updateTagWindow P tw).updateRatchetedTagWindow P tw) = f s)
    (hrecover : ∀ (tw c : Nat) (s : Session), f (s.recoverAt P tw c) = f s) (env : Env)
    (m : SessionManager) (tag : Tag) (ip : IpAddr) (sid : SessionId) :
    f ((m.findSession P env tag ip).2.heap sid) = f (m.heap sid) := by
  have hloop : f ((m.refreshAndFindByTag P env.timeWindow tag).2.heap sid) = f (m.heap sid) :=
    refreshLoop_heap P f env.timeWindow tag (hrefresh _) m.sessions m sid
  rcases m.findSession_cases P env tag ip with ⟨sid', -, hfs | ⟨c, r, -, hfs⟩⟩ |
    ⟨-, ⟨hit, -, hfs⟩ | ⟨-, hfs⟩⟩
  · rw [hfs]
  · rw [hfs]
  -- the refresh keeps the field, and a recovery comes behind it
  · rw [hfs, hloop]
  · rw [hfs, ← hloop]
    generalize (m.refreshAndFindByTag P env.timeWindow tag).2 = m'
    cases hhit : m'.recoveryHit P env.timeWindow tag ip with
    | none => simp [recoverSessionByTag, hhit]
    | some hit =>
        simp only
        rw [recoverSessionByTag_of_hit P hhit]
        by_cases heq : sid = hit.1
        · subst heq
          rw [Function.update_self, hrecover]
        · rw [Function.update_of_ne heq]

theorem findSession_vpnIp (env : Env) (m : SessionManager) (tag : Tag) (ip : IpAddr)
    (sid : SessionId) : ((m.findSession P env tag ip).2.heap sid).vpnIp = (m.heap sid).vpnIp :=
  findSession_heap P Session.vpnIp (fun tw s => congrArg SessionView.vpnIp (refresh_view P tw s))
    (fun tw c s => by simp [Session.recoverAt, Session.updateTagWindow]) env m tag ip sid

/-- The lookup chain changes no route and removes no session. -/
theorem findSession_map (env : Env) (m : SessionManager) (tag : Tag) (ip : IpAddr) :
    (m.findSession P env tag ip).2.sessions = m.sessions ∧
      (m.findSession P env tag ip).2.vpnIpMap = m.vpnIpMap ∧
      (m.findSession P env tag ip).2.nextId = m.nextId := by
  have hrefresh : (m.refreshAndFindByTag P env.timeWindow tag).2.sessions = m.sessions ∧
      (m.refreshAndFindByTag P env.timeWindow tag).2.vpnIpMap = m.vpnIpMap ∧
      (m.refreshAndFindByTag P env.timeWindow tag).2.nextId = m.nextId := by
    simp [refreshAndFindByTag]
  rcases m.findSession_cases P env tag ip with ⟨sid', -, hfs | ⟨c, r, -, hfs⟩⟩ |
    ⟨-, ⟨hit, -, hfs⟩ | ⟨-, hfs⟩⟩
  · rw [hfs]
    exact ⟨rfl, rfl, rfl⟩
  · rw [hfs]
    exact ⟨rfl, rfl, rfl⟩
  · rw [hfs]
    exact hrefresh
  · rw [hfs]
    obtain ⟨h1, h2, h3⟩ := hrefresh
    rw [← h1, ← h2, ← h3]
    generalize (m.refreshAndFindByTag P env.timeWindow tag).2 = m'
    cases hhit : m'.recoveryHit P env.timeWindow tag ip with
    | none => simp [recoverSessionByTag, hhit]
    | some hit => simp [recoverSessionByTag, hhit, setSession]

end SessionManager

/-- A ratcheted session validates no tag as one of pending keys. -/
theorem Session.validateTag_of_isRatcheted {P : Primitives} {tw c : Nat} {s : Session} {tag : Tag}
    {r : Bool} (hr : s.isRatcheted = true) (h : s.validateTag P tw tag = some (c, r)) :
    r = false := by
  unfold Session.validateTag at h
  split at h
  · split_ifs at h
    exact (Prod.mk.inj (Option.some.inj h)).2.symm
  · split at h
    · split_ifs at h
      exact (Prod.mk.inj (Option.some.inj h)).2.symm
    · rw [Session.validateRatchetedTag, if_pos hr] at h
      cases h

/-- So the lookup chain finds a ratcheted session only under its current keys. -/
theorem SessionManager.findSession_of_isRatcheted {P : Primitives} {env : Env}
    {m m' : SessionManager} {tag : Tag} {ip : IpAddr} {sid : SessionId} {c : Nat} {r : Bool}
    (h : m.findSession P env tag ip = (.ok (some (sid, c, r)), m'))
    (hr : (m.heap sid).isRatcheted = true) : r = false := by
  rcases m.findSession_cases P env tag ip with ⟨sid', -, hfs | ⟨c', r', hv, hfs⟩⟩ |
    ⟨-, ⟨hit, href, hfs⟩ | ⟨-, hfs⟩⟩
  · rw [hfs] at h
    cases h
  · rw [hfs] at h
    cases h
    exact Session.validateTag_of_isRatcheted hr hv
  · rw [hfs] at h
    cases h
    obtain ⟨-, hv⟩ := SessionManager.refreshLoop_hit P href
    refine Session.validateTag_of_isRatcheted ?_ hv
    have hview := (SessionManager.refreshLoop_heap P Session.view env.timeWindow tag
      (SessionManager.refresh_view P _) m.sessions m sid)
    exact (congrArg SessionView.isRatcheted hview).trans hr
  · rw [hfs] at h
    have hrec := Except.ok.inj (Prod.mk.inj h).1
    unfold SessionManager.recoverSessionByTag at hrec
    split at hrec
    · cases hrec
    · cases hrec
      rfl

end Aivpn
