import Aivpn.Server.WorkerSteps
import Aivpn.Server.LegacyMode

/-!
# Concurrent handshakes of one client

Each handshake of a client gives its session the client's VPN address in one section and removes
the other sessions of that address in a later one. When all calls have finished, a session of the
handshakes is live and the address leads to a live session exactly when some handshake was given
the address and no other one has cleaned up behind it since (`connected_iff_unswept`). Two
handshakes that are both given the address before either cleans up remove each other's session
(`handshakes_sweep_each_other`).
-/

set_option autoImplicit false

namespace Aivpn

open Aivpn.Lib

/-- The session was given the address, and since then no handshake of another session has removed
the other sessions of the address; the list has the latest milestone first. -/
def Unswept (ip : Ipv4Addr) (sid : SessionId) : List Milestone → Prop
  | [] => False
  | m :: ms => m = .address sid ip ∨
      (Unswept ip sid ms ∧ ∀ other, m = .cleanup other ip → other = sid)

theorem Unswept.address_mem {ip : Ipv4Addr} {sid : SessionId} {ms : List Milestone}
    (h : Unswept ip sid ms) : .address sid ip ∈ ms := by
  induction ms with
  | nil => exact h.elim
  | cons m ms ih =>
      rcases h with rfl | ⟨hold, -⟩
      · exact List.mem_cons_self
      · exact List.mem_cons_of_mem _ (ih hold)

theorem unswept_append {ip : Ipv4Addr} {sid : SessionId} {m : Option Milestone}
    {ms : List Milestone} : Unswept ip sid (m.toList ++ ms) ↔ m = some (.address sid ip) ∨
      (Unswept ip sid ms ∧ ∀ other, m = some (.cleanup other ip) → other = sid) := by
  cases m with
  | none => simp
  | some m => simp [Unswept]

namespace Stage

/-- The session that the call is about to give its address. -/
def pending : Stage → Option SessionId
  | assignVpnIp _ _ sid => some sid
  | _ => none

theorem owns_of_pending {st : Stage} {sid : SessionId} (h : st.pending = some sid) :
    st.owns = some sid ∧ st.uses = some sid := by
  cases st with
  | assignVpnIp a ip sid' => exact ⟨h, h⟩
  | _ => cases h

theorem owns_of_failing {st : Stage} {sid : SessionId} (h : st.failing = some sid) :
    st.owns = some sid ∧ st.uses = some sid := by
  cases st with
  | rollback a sid' => exact ⟨h, h⟩
  | discard client sid' => exact ⟨h, h⟩
  | _ => cases h

theorem failing_ne_pending {st : Stage} {sid : SessionId} (hfailing : st.failing = some sid)
    (hpending : st.pending = some sid) : False := by
  cases st with
  | assignVpnIp a ip sid' => cases hfailing
  | _ => cases hpending

/-- A quiet section does not lead to the assignment of an address. -/
theorem Precedes.pending {st st' : Stage} {sessions : List SessionId}
    (h : st.Precedes st' sessions) : st'.pending = none := by
  have howns := h.owns
  have hassigned := h.assigned
  have hquiet := h.quiet
  cases st' with
  | assignVpnIp a ip sid =>
      cases st with
      | insertSession => exact hquiet.elim
      | assignVpnIp => exact hquiet.elim
      | rollback => exact hquiet.elim
      | discard => exact hquiet.elim
      | validate => cases hassigned
      | revalidate => cases hassigned
      | _ => cases howns
  | _ => rfl

end Stage

theorem Attempt.resume_pending (a : Attempt) (r : Except Error SessionId) :
    (a.resume r).pending = none := by
  unfold Attempt.resume
  cases r with
  | error e => cases a.client with
      | none => rfl
      | some client => rfl
  | ok sid => cases a.client with
      | none => rfl
      | some client => rfl

/-! ## What a section does to the sessions of an address -/

namespace LockSection

variable {addr : SocketAddr} {call : Nat} {st st' : Stage} {g g' : Gateway} {ms : Option Milestone}

/-- A session that has been in the session map changes its VPN address only when it is given one. -/
theorem vpnIp_cases (h : LockSection addr call st g st' g' ms) {sid : SessionId}
    (hknown : ∀ a ip s, st = .insertSession a ip s → s.sessionId ≠ sid) :
    (g'.session sid).vpnIp = (g.session sid).vpnIp ∨ st.pending = some sid := by
  cases h with
  | quiet hbook hst => exact Or.inl (Gateway.vpnIp_of_book hbook sid)
  | validated => exact Or.inl rfl
  | offered => exact Or.inl rfl
  | drawn hid hip haddr hbook => exact Or.inl (Gateway.vpnIp_of_book hbook sid)
  -- the cell that is written is a new one
  | inserted a ip s =>
      refine Or.inl ?_
      have hne : sid ≠ s.sessionId := (hknown a ip s rfl).symm
      simp [Gateway.session, Gateway.withManager, SessionManager.insertSession, hne]
  -- the address is written into the cell of the session in the making
  | assigned a ip sid' =>
      by_cases hsid : sid' = sid
      · exact Or.inr (congrArg some hsid)
      · refine Or.inl ?_
        have hbook := g.sessionManager.mapVpnIp_addressBook sid' (a.client.map ClientConfig.vpnIp) ip
        have hvpn := congrFun (congrArg AddressBook.vpnIp hbook) sid
        refine hvpn.trans ?_
        unfold AddressBook.assign
        split
        · exact Function.update_of_ne (Ne.symm hsid) _ _
        · rfl
  | rolledBack g hst =>
      exact Or.inl (congrArg (fun heap : SessionId → Session => (heap sid).vpnIp)
        (SessionManager.rollbackFailedSession_heap _ _))
  | cleaned client t =>
      exact Or.inl (congrArg (fun heap : SessionId → Session => (heap sid).vpnIp)
        (SessionManager.establish_heap _ _ _))
  | marked t padded plaintext hstrip hbook => exact Or.inl (Gateway.vpnIp_of_book hbook sid)
  | removed t plaintext r hnew hshutdown hbook =>
      refine Or.inl ((Gateway.vpnIp_of_book hbook sid).trans ?_)
      exact congrArg (fun heap : SessionId → Session => (heap sid).vpnIp)
        (SessionManager.removeSession_heap _ _)

/-- A call comes to the assignment of an address from the insertion of its session. -/
theorem pending_cases (h : LockSection addr call st g st' g' ms) {sid : SessionId}
    (hsid : st'.pending = some sid) : ∃ a ip s, st = .insertSession a ip s ∧ s.sessionId = sid ∧
      sid ∈ g'.sessionManager.sessions ∧ (g'.session sid).vpnIp = s.vpnIp := by
  cases h with
  | quiet hbook hquiet =>
      rw [hquiet.pending] at hsid
      cases hsid
  | validated => cases hsid
  | offered => cases hsid
  | drawn => cases hsid
  | inserted a ip s =>
      cases hsid
      refine ⟨a, ip, s, rfl, rfl, ?_, ?_⟩
      · simp [Gateway.withManager, SessionManager.insertSession]
      · simp [Gateway.session, Gateway.withManager, SessionManager.insertSession]
  | assigned a ip sid' =>
      rw [a.resume_pending] at hsid
      cases hsid
  | @rolledBack st st' sid' g hst howns =>
      rw [(Stage.owns_of_pending hsid).1] at howns
      cases howns
  | cleaned => cases hsid
  | marked => cases hsid
  | removed => cases hsid

/-- A section that gives a session its address maps the address to it. -/
theorem address_cases (h : LockSection addr call st g st' g' ms) {sid : SessionId} {ip : Ipv4Addr}
    (hms : ms = some (.address sid ip)) : st.pending = some sid ∧ st'.assigned = some sid ∧
      (g'.session sid).vpnIp = some ip ∧ g'.sessionManager.vpnIpMap ip = some sid := by
  cases h with
  | quiet => cases hms
  | validated => cases hms
  | offered => cases hms
  | drawn => cases hms
  | inserted => cases hms
  | assigned a ip' sid' =>
      obtain ⟨ip'', hip, heq⟩ := Option.map_eq_some_iff.1 hms
      cases heq
      have hbook := g.sessionManager.mapVpnIp_addressBook sid (a.client.map ClientConfig.vpnIp) ip'
      rw [hip] at hbook
      have hvpn := congrFun (congrArg AddressBook.vpnIp hbook) sid
      have hmap := congrFun (congrArg AddressBook.vpnIpMap hbook) ip
      refine ⟨rfl, (a.resume_ok sid).2.1, hvpn.trans ?_, hmap.trans ?_⟩
      · exact Function.update_self _ _ _
      · exact Function.update_self _ _ _
  | rolledBack => cases hms
  | cleaned client t =>
      obtain ⟨vpnIp, -, heq⟩ := Option.map_eq_some_iff.1 hms
      cases heq
  | marked => cases hms
  | removed => cases hms

/-- A cleanup for an address leaves its own session the only one of the address. -/
theorem cleanup_cases (h : LockSection addr call st g st' g' ms) {sid : SessionId} {ip : Ipv4Addr}
    (hms : ms = some (.cleanup sid ip)) : st.assigned = some sid ∧
      (g.session sid).vpnIp = some ip ∧
      ∀ other ∈ g'.sessionManager.sessions, (g.session other).vpnIp = some ip → other = sid := by
  cases h with
  | quiet => cases hms
  | validated => cases hms
  | offered => cases hms
  | drawn => cases hms
  | inserted => cases hms
  | assigned a ip' sid' =>
      obtain ⟨ip'', -, heq⟩ := Option.map_eq_some_iff.1 hms
      cases heq
  | rolledBack => cases hms
  | cleaned client t =>
      obtain ⟨ip', hip, heq⟩ := Option.map_eq_some_iff.1 hms
      cases heq
      refine ⟨rfl, hip, fun other hlive hother => ?_⟩
      rcases (SessionManager.mem_establish.1 hlive).2 with hsame | hnone | hne
      · exact hsame
      · exact absurd (hip.symm.trans hnone) (Option.some_ne_none _)
      · exact absurd (hother.trans hip.symm) hne
  | marked => cases hms
  | removed => cases hms

/-- A session leaves the session map when its call rolls it back, when a call cleans up for the
same address, and by its Shutdown. -/
theorem live_cases (h : LockSection addr call st g st' g' ms) {sid : SessionId}
    (hlive : sid ∈ g.sessionManager.sessions) :
    sid ∈ g'.sessionManager.sessions ∨ st.failing = some sid ∨
    (∃ other ip, ms = some (.cleanup other ip) ∧ (g.session sid).vpnIp = some ip ∧ sid ≠ other) ∨
    ∃ t plaintext, st = .inner t plaintext ∧ t.isNewSession = false ∧
      carriesShutdown plaintext = true := by
  cases h with
  | quiet hbook hst => exact Or.inl (by rw [Gateway.sessions_of_book hbook]; exact hlive)
  | validated => exact Or.inl hlive
  | offered => exact Or.inl hlive
  | drawn hid hip haddr hbook =>
      exact Or.inl (by rw [Gateway.sessions_of_book hbook]; exact hlive)
  | inserted a ip s => exact Or.inl (List.mem_append_left _ hlive)
  | assigned a ip sid' =>
      have hsessions := (g.sessionManager.mapVpnIp_sessions sid'
        (a.client.map ClientConfig.vpnIp) ip).1
      exact Or.inl (hsessions ▸ hlive)
  -- a rollback removes the session of the failing call, and no other
  | @rolledBack st st' sid' g hst =>
      by_cases hsid : sid = sid'
      · subst hsid
        rcases hst with ⟨a, rfl⟩ | ⟨client, rfl⟩
        · exact Or.inr (Or.inl rfl)
        · exact Or.inr (Or.inl rfl)
      · refine Or.inl ?_
        simp only [Gateway.withManager, SessionManager.rollbackFailedSession_sessions,
          SessionManager.mem_removeSession]
        exact ⟨hlive, hsid⟩
  -- a cleanup removes the sessions that have the address of the session it keeps
  | cleaned client t =>
      by_cases hstays : sid ∈ (g.sessionManager.establish t.sessionId
          (client.map ClientConfig.psk)).sessions
      · exact Or.inl hstays
      · refine Or.inr (Or.inr (Or.inl ?_))
        rw [SessionManager.mem_establish] at hstays
        have hgone : ¬ (sid = t.sessionId ∨ (g.sessionManager.heap t.sessionId).vpnIp = none ∨
            (g.sessionManager.heap sid).vpnIp ≠ (g.sessionManager.heap t.sessionId).vpnIp) :=
          fun hc => hstays ⟨hlive, hc⟩
        rw [not_or, not_or, not_not] at hgone
        obtain ⟨hne, hsome, hsame⟩ := hgone
        obtain ⟨ip, hip⟩ := Option.ne_none_iff_exists'.1 hsome
        refine ⟨t.sessionId, ip, ?_, hsame.trans hip, hne⟩
        simp only [Gateway.session, hip, Option.map_some]
  | marked t padded plaintext hstrip hbook =>
      exact Or.inl (by rw [Gateway.sessions_of_book hbook]; exact hlive)
  | removed t plaintext r hnew hshutdown hbook =>
      exact Or.inr (Or.inr (Or.inr ⟨t, plaintext, rfl, hnew, hshutdown⟩))

/-- The route of an address changes when the address is given to a session, when a call rolls its
session back or cleans up for that address, and by a Shutdown. -/
theorem route_cases (h : LockSection addr call st g st' g' ms) (ip : Ipv4Addr) :
    g'.sessionManager.vpnIpMap ip = g.sessionManager.vpnIpMap ip ∨
    (∃ sid, ms = some (.address sid ip)) ∨
    (∃ sid, st.failing = some sid ∧ (g.session sid).vpnIp = some ip) ∨
    (∃ sid, ms = some (.cleanup sid ip) ∧ g.sessionManager.vpnIpMap ip ≠ some sid) ∨
    ∃ t plaintext, st = .inner t plaintext ∧ t.isNewSession = false ∧
      carriesShutdown plaintext = true := by
  cases h with
  | quiet hbook hst => exact Or.inl (congrFun (Gateway.vpnIpMap_of_book hbook) ip)
  | validated => exact Or.inl rfl
  | offered => exact Or.inl rfl
  | drawn hid hip haddr hbook => exact Or.inl (congrFun (Gateway.vpnIpMap_of_book hbook) ip)
  | inserted => exact Or.inl rfl
  -- only the entry of the address that is assigned changes
  | assigned a ip' sid =>
      have hbook := g.sessionManager.mapVpnIp_addressBook sid (a.client.map ClientConfig.vpnIp) ip'
      have hmap := congrFun (congrArg AddressBook.vpnIpMap hbook) ip
      cases hassign : (g.sessionManager.assignVpnIp (a.client.map ClientConfig.vpnIp) ip').1 with
      | none =>
          rw [hassign] at hmap
          exact Or.inl hmap
      | some ip'' =>
          by_cases hip : ip'' = ip
          · subst hip
            exact Or.inr (Or.inl ⟨sid, rfl⟩)
          · rw [hassign] at hmap
            exact Or.inl (hmap.trans (Function.update_of_ne (Ne.symm hip) _ _))
  | @rolledBack st st' sid g hst =>
      have hfailing : st.failing = some sid := by
        rcases hst with ⟨a, rfl⟩ | ⟨client, rfl⟩
        · rfl
        · rfl
      by_cases hip : (g.session sid).vpnIp = some ip
      · exact Or.inr (Or.inr (Or.inl ⟨sid, hfailing, hip⟩))
      · exact Or.inl (SessionManager.rollbackFailedSession_route hip)
  -- the cleanup removes the route to the address unless it leads to the session that is kept
  | cleaned client t =>
      by_cases hroute : (g.session t.sessionId).vpnIp = some ip →
          g.sessionManager.vpnIpMap ip = some t.sessionId
      · exact Or.inl (SessionManager.establish_route hroute)
      · rw [Classical.not_imp] at hroute
        refine Or.inr (Or.inr (Or.inr (Or.inl ⟨t.sessionId, ?_, hroute.2⟩)))
        rw [hroute.1, Option.map_some]
  | marked t padded plaintext hstrip hbook =>
      exact Or.inl (congrFun (Gateway.vpnIpMap_of_book hbook) ip)
  | removed t plaintext r hnew hshutdown hbook =>
      exact Or.inr (Or.inr (Or.inr (Or.inr ⟨t, plaintext, rfl, hnew, hshutdown⟩)))

/-- A call lets go of a session that it has given its address by its cleanup or its rollback. -/
theorem assigned_cases (h : LockSection addr call st g st' g' ms) {sid : SessionId}
    (hst : st.assigned = some sid) : st'.assigned = some sid ∨ st.failing = some sid ∨
      ∀ ip, (g.session sid).vpnIp = some ip → ms = some (.cleanup sid ip) := by
  cases h with
  | quiet hbook hquiet => exact Or.inl (hquiet.assigned.trans hst)
  | validated a client sid' => exact Or.inl hst
  | @offered client sid' t g ht =>
      subst ht
      exact Or.inl hst
  | drawn => cases hst
  | inserted => cases hst
  | assigned => cases hst
  | rolledBack g hst' =>
      rcases hst' with ⟨a, rfl⟩ | ⟨client, rfl⟩
      · exact Or.inr (Or.inl hst)
      · exact Or.inr (Or.inl hst)
  | cleaned client t =>
      cases hst
      refine Or.inr (Or.inr fun ip hip => ?_)
      rw [hip, Option.map_some]
  | marked => cases hst
  | removed => cases hst

end LockSection

namespace Gateway

variable {P : Primitives} {rng : Randomness} {cfg : GatewayConfig} {env : Env}

/-- A call comes to a rollback from a validation that has failed. -/
theorem advance_failing {packetData : Bytes} {addr : SocketAddr} {st : Stage} {g : Gateway}
    {sid : SessionId} (h : (advance P rng cfg env packetData addr st g).1.failing = some sid) :
    ((∃ a client, st = .validate a client sid) ∨ ∃ client, st = .revalidate client sid) ∧
      (g.session sid).validateTag P env.timeWindow (readArray 8 0 packetData) = none := by
  generalize hst : (advance P rng cfg env packetData addr st g).1 = st' at h
  have hchecked := checked_of_advance P rng cfg env packetData addr g st
  rw [hst] at hchecked
  cases hchecked with
  | nothing hcounted hfailing =>
      rw [hfailing] at h
      cases h
  | limits => cases h
  | drawn => cases h
  | mismatch a client sid' htag =>
      cases h
      exact ⟨Or.inl ⟨a, client, rfl⟩, htag⟩
  | lapsed client sid' htag =>
      cases h
      exact ⟨Or.inr ⟨client, rfl⟩, htag⟩

end Gateway

namespace Pool

/-- A step of handshakes that are valid: the tag validates for every session that is given the
address, no datagram carries a Shutdown, and no session expires. -/
def ValidHandshakes (P : Primitives) (ip : Ipv4Addr) (p : Pool) (e : Env × Event) : Prop :=
  match e.2 with
  | .advance i => p.Ready i → match (p.calls i).stage with
    | .validate _ _ sid => (p.gateway.session sid).vpnIp = some ip →
        ((p.gateway.session sid).validateTag P e.1.timeWindow
          (readArray 8 0 (p.calls i).packetData)).isSome = true
    | .revalidate _ sid => (p.gateway.session sid).vpnIp = some ip →
        ((p.gateway.session sid).validateTag P e.1.timeWindow
          (readArray 8 0 (p.calls i).packetData)).isSome = true
    | .inner t plaintext => t.isNewSession = true ∨ carriesShutdown plaintext = false
    | _ => True
  | .task t => t ≠ .cleanup
  | .arrive _ _ => True

instance (P : Primitives) (ip : Ipv4Addr) (p : Pool) (e : Env × Event) :
    Decidable (p.ValidHandshakes P ip e) := by
  unfold ValidHandshakes
  split
  · split
    · infer_instance
    · infer_instance
    · infer_instance
    · infer_instance
  · next t _ =>
      cases t with
      | cleanup => exact isFalse fun h => h rfl
      | _ => exact isTrue fun h => by cases h
  · infer_instance

/-- Every call that has arrived has returned. -/
def Idle (p : Pool) : Prop :=
  ∀ i < p.arrived, (p.calls i).stage.isFinished = true

/-- A session that a call has given the address is live, and the address leads to a live session. -/
def Connected (ip : Ipv4Addr) (p : Pool) : Prop :=
  (∃ sid ∈ p.gateway.sessionManager.sessions, .address sid ip ∈ p.milestones) ∧
    ∃ sid ∈ p.gateway.sessionManager.sessions, p.gateway.sessionManager.vpnIpMap ip = some sid

instance (p : Pool) : Decidable p.Idle := by
  unfold Idle
  infer_instance

instance (ip : Ipv4Addr) (p : Pool) : Decidable (p.Connected ip) := by
  unfold Connected
  infer_instance

/-- The address leads to a session that was not swept, which a call still has to clean up for or which
is the only one. -/
def Leads (ip : Ipv4Addr) (p : Pool) : Prop :=
  ∃ sid, p.gateway.sessionManager.vpnIpMap ip = some sid ∧ Unswept ip sid p.milestones ∧
    ((∃ i, (p.calls i).stage.assigned = some sid) ∨
      ∀ other, Unswept ip other p.milestones → other = sid)

/-- A call still has to clean up for a session of the address that was swept. -/
def HoldsSwept (ip : Ipv4Addr) (p : Pool) : Prop :=
  ∃ i sid, (p.calls i).stage.assigned = some sid ∧ .address sid ip ∈ p.milestones ∧
    ¬ Unswept ip sid p.milestones

/-- The sessions that handshakes have given the address, and where the address leads. -/
structure Rivals (ip : Ipv4Addr) (p : Pool) : Prop where
  ownership : p.Ownership
  given : ∀ sid, .address sid ip ∈ p.milestones → (p.gateway.session sid).vpnIp = some ip
  inserting : ∀ i a v s, (p.calls i).stage = .insertSession a v s → s.vpnIp = none
  pending : ∀ i sid, (p.calls i).stage.pending = some sid →
    sid ∈ p.gateway.sessionManager.sessions ∧ (p.gateway.session sid).vpnIp = none
  failing : ∀ i sid, (p.calls i).stage.failing = some sid → (p.gateway.session sid).vpnIp ≠ some ip
  live : ∀ sid, .address sid ip ∈ p.milestones →
    (sid ∈ p.gateway.sessionManager.sessions ↔ Unswept ip sid p.milestones)
  route : (∃ sid, Unswept ip sid p.milestones) → p.Leads ip ∨ p.HoldsSwept ip

section

variable {P : Primitives} {rng : Randomness} {cfg : GatewayConfig} {workerCount : Nat}
  {ip : Ipv4Addr}

/-- What the rivals need of a section: it fails no session of the address, and it is no Shutdown. -/
structure Fair (ip : Ipv4Addr) (st st' : Stage) (g : Gateway) : Prop where
  failing : ∀ sid, st'.failing = some sid →
    st.uses = some sid ∧ st.pending = none ∧ (g.session sid).vpnIp ≠ some ip
  shutdown : ∀ t plaintext, st = .inner t plaintext → t.isNewSession = false →
    carriesShutdown plaintext = false

variable {p : Pool} {i : Nat} {st : Stage} {g : Gateway} {ms : Option Milestone}

/-- A session that another call is making keeps its address through a section. -/
theorem Rivals.vpnIp_other (hp : p.Rivals ip)
    (h : LockSection (p.calls i).clientAddr i (p.calls i).stage p.gateway st g ms) {j : Nat}
    (hj : j ≠ i) {sid : SessionId} (howns : (p.calls j).stage.owns = some sid)
    (huses : (p.calls j).stage.uses = some sid) :
    (g.session sid).vpnIp = (p.gateway.session sid).vpnIp := by
  rcases h.vpnIp_cases ((hp.ownership.used j sid huses).inserted i) with hsame | hpending
  · exact hsame
  · exact absurd (hp.ownership.unique j i sid howns (Stage.owns_of_pending hpending).1) hj

/-- A session that was given the address keeps it through a section, and is not given it again. -/
theorem Rivals.vpnIp_given (hp : p.Rivals ip)
    (h : LockSection (p.calls i).clientAddr i (p.calls i).stage p.gateway st g ms)
    {sid : SessionId} (hsid : .address sid ip ∈ p.milestones) :
    (g.session sid).vpnIp = some ip ∧ (p.calls i).stage.pending ≠ some sid := by
  have hnot : (p.calls i).stage.pending ≠ some sid := by
    intro hpending
    have hnone := (hp.pending i sid hpending).2
    rw [hp.given sid hsid] at hnone
    cases hnone
  refine ⟨?_, hnot⟩
  rcases h.vpnIp_cases ((hp.ownership.reached _ hsid).inserted i) with hsame | hpending
  · exact hsame.trans (hp.given sid hsid)
  · exact absurd hpending hnot

/-- A session stays live through a section that neither rolls it back nor cleans up for another
session of its address. -/
theorem Fair.stays (hfair : Fair ip (p.calls i).stage st p.gateway)
    (h : LockSection (p.calls i).clientAddr i (p.calls i).stage p.gateway st g ms)
    {sid : SessionId} (hlive : sid ∈ p.gateway.sessionManager.sessions)
    (hfailing : (p.calls i).stage.failing ≠ some sid)
    (hother : ∀ other v, (p.gateway.session sid).vpnIp = some v → ms = some (.cleanup other v) →
      other = sid) : sid ∈ g.sessionManager.sessions := by
  rcases h.live_cases hlive with hstays | hfails | ⟨other, v, hms, hv, hne⟩ |
    ⟨t, plaintext, hinner, hnew, hshutdown⟩
  · exact hstays
  · exact absurd hfails hfailing
  · exact absurd (hother other v hv hms).symm hne
  · rw [hfair.shutdown t plaintext hinner hnew] at hshutdown
    cases hshutdown

/-! ### One section, field by field -/

theorem Rivals.given_move (hp : p.Rivals ip)
    (h : LockSection (p.calls i).clientAddr i (p.calls i).stage p.gateway st g ms)
    {sid : SessionId} (hsid : .address sid ip ∈ (p.move i st g ms).milestones) :
    (g.session sid).vpnIp = some ip := by
  rcases List.mem_append.1 hsid with hnew | hold
  · exact (h.address_cases (Option.mem_toList.1 hnew)).2.2.1
  · exact (hp.vpnIp_given h hold).1

theorem Rivals.inserting_move (hp : p.Rivals ip)
    (h : LockSection (p.calls i).clientAddr i (p.calls i).stage p.gateway st g ms)
    {j : Nat} {a : Attempt} {v : Option Ipv4Addr} {s : Session}
    (hst : ((p.move i st g ms).calls j).stage = .insertSession a v s) : s.vpnIp = none := by
  rw [move_stage] at hst
  by_cases hj : j = i
  · rw [if_pos hj] at hst
    exact (h.drawn_cases hst).2.1
  · rw [if_neg hj] at hst
    exact hp.inserting j a v s hst

theorem Rivals.pending_move (hp : p.Rivals ip)
    (h : LockSection (p.calls i).clientAddr i (p.calls i).stage p.gateway st g ms)
    (hfair : Fair ip (p.calls i).stage st p.gateway) {j : Nat} {sid : SessionId}
    (hst : ((p.move i st g ms).calls j).stage.pending = some sid) :
    sid ∈ g.sessionManager.sessions ∧ (g.session sid).vpnIp = none := by
  rw [move_stage] at hst
  by_cases hj : j = i
  · rw [if_pos hj] at hst
    obtain ⟨a, v, s, hinsert, -, hlive, hvpn⟩ := h.pending_cases hst
    exact ⟨hlive, hvpn.trans (hp.inserting i a v s hinsert)⟩
  · rw [if_neg hj] at hst
    obtain ⟨hlive, hnone⟩ := hp.pending j sid hst
    obtain ⟨howns, huses⟩ := Stage.owns_of_pending hst
    refine ⟨?_, (hp.vpnIp_other h hj howns huses).trans hnone⟩
    refine hfair.stays h hlive (fun hfailing => ?_) fun other v hv => ?_
    · exact hj (hp.ownership.unique j i sid howns (Stage.owns_of_failing hfailing).1)
    · rw [hnone] at hv
      cases hv

theorem Rivals.failing_move (hp : p.Rivals ip)
    (h : LockSection (p.calls i).clientAddr i (p.calls i).stage p.gateway st g ms)
    (hfair : Fair ip (p.calls i).stage st p.gateway) {j : Nat} {sid : SessionId}
    (hst : ((p.move i st g ms).calls j).stage.failing = some sid) :
    (g.session sid).vpnIp ≠ some ip := by
  rw [move_stage] at hst
  by_cases hj : j = i
  · rw [if_pos hj] at hst
    obtain ⟨huses, hpending, hvpn⟩ := hfair.failing sid hst
    rcases h.vpnIp_cases ((hp.ownership.used i sid huses).inserted i) with hsame | hgiven
    · exact fun heq => hvpn (hsame.symm.trans heq)
    · rw [hpending] at hgiven
      cases hgiven
  · rw [if_neg hj] at hst
    obtain ⟨howns, huses⟩ := Stage.owns_of_failing hst
    intro hvpn
    exact hp.failing j sid hst ((hp.vpnIp_other h hj howns huses).symm.trans hvpn)

/-- A session that the section gives the address is live. -/
theorem Rivals.live_of_address (hp : p.Rivals ip)
    (h : LockSection (p.calls i).clientAddr i (p.calls i).stage p.gateway st g ms)
    (hfair : Fair ip (p.calls i).stage st p.gateway) {sid : SessionId}
    (hms : ms = some (.address sid ip)) : sid ∈ g.sessionManager.sessions := by
  have hpending := (h.address_cases hms).1
  obtain ⟨hlive, hnone⟩ := hp.pending i sid hpending
  refine hfair.stays h hlive (fun hfailing => ?_) fun other v hv => ?_
  · exact Stage.failing_ne_pending hfailing hpending
  · rw [hnone] at hv
    cases hv

theorem Rivals.live_move (hp : p.Rivals ip)
    (h : LockSection (p.calls i).clientAddr i (p.calls i).stage p.gateway st g ms)
    (hfair : Fair ip (p.calls i).stage st p.gateway) {sid : SessionId}
    (hsid : .address sid ip ∈ (p.move i st g ms).milestones) :
    sid ∈ g.sessionManager.sessions ↔ Unswept ip sid (p.move i st g ms).milestones := by
  unfold Pool.move
  rw [unswept_append]
  rcases List.mem_append.1 hsid with hnew | hold
  · have hms := Option.mem_toList.1 hnew
    exact iff_of_true (hp.live_of_address h hfair hms) (Or.inl hms)
  · obtain ⟨hvpn, hpending⟩ := hp.vpnIp_given h hold
    have hgiven := hp.given sid hold
    constructor
    · intro hlive
      rcases h.sessions_mem hlive with hbefore | ⟨a, v, s, hst, rfl⟩
      · refine Or.inr ⟨(hp.live sid hold).1 hbefore, fun other hcleanup => ?_⟩
        exact ((h.cleanup_cases hcleanup).2.2 sid hlive hgiven).symm
      · exact absurd rfl ((hp.ownership.reached _ hold).inserted i a v s hst)
    · rintro (hms | ⟨hunswept, hother⟩)
      · exact absurd (h.address_cases hms).1 hpending
      · refine hfair.stays h ((hp.live sid hold).2 hunswept) (fun hfailing => ?_)
          fun other v hv hcleanup => ?_
        · exact hp.failing i sid hfailing hgiven
        · rw [hgiven] at hv
          cases hv
          exact hother other hcleanup

/-! ### One section and the route -/

/-- The address goes on leading to a session, unless it is given away or cleaned up for another
one. -/
theorem Rivals.vpnIpMap_move (hp : p.Rivals ip)
    (h : LockSection (p.calls i).clientAddr i (p.calls i).stage p.gateway st g ms)
    (hfair : Fair ip (p.calls i).stage st p.gateway) {sid : SessionId}
    (hmap : p.gateway.sessionManager.vpnIpMap ip = some sid)
    (hnew : ∀ other, ms ≠ some (.address other ip))
    (hcleanup : ∀ other, ms = some (.cleanup other ip) → other = sid) :
    g.sessionManager.vpnIpMap ip = some sid := by
  rcases h.route_cases ip with hsame | ⟨other, hms⟩ | ⟨other, hfailing, hvpn⟩ |
    ⟨other, hms, hne⟩ | ⟨t, plaintext, hinner, hnewSession, hshutdown⟩
  · exact hsame.trans hmap
  · exact absurd hms (hnew other)
  · exact absurd hvpn (hp.failing i other hfailing)
  · rw [hcleanup other hms] at hne
    exact absurd hmap hne
  · rw [hfair.shutdown t plaintext hinner hnewSession] at hshutdown
    cases hshutdown

/-- A call that has given a session the address goes on holding it until it cleans up for it. -/
theorem Rivals.assigned_move (hp : p.Rivals ip)
    (h : LockSection (p.calls i).clientAddr i (p.calls i).stage p.gateway st g ms) {j : Nat}
    {sid : SessionId} (hassigned : (p.calls j).stage.assigned = some sid)
    (haddress : .address sid ip ∈ p.milestones) (hcleanup : ms ≠ some (.cleanup sid ip)) :
    ((p.move i st g ms).calls j).stage.assigned = some sid := by
  rw [move_stage]
  split_ifs with hj
  · subst hj
    rcases h.assigned_cases hassigned with hst | hfailing | hms
    · exact hst
    · exact absurd (hp.given sid haddress) (hp.failing j sid hfailing)
    · exact absurd (hms ip (hp.given sid haddress)) hcleanup
  · exact hassigned

/-- Behind a section that gives no session the address, the sessions not swept are those of before
for which it has cleaned up, or all if it has not. -/
theorem unswept_move (hnew : ∀ sid, ms ≠ some (.address sid ip)) {sid : SessionId} :
    Unswept ip sid (p.move i st g ms).milestones ↔
      Unswept ip sid p.milestones ∧ ∀ other, ms = some (.cleanup other ip) → other = sid := by
  unfold Pool.move
  rw [unswept_append, or_iff_right (hnew sid)]

/-- A section that gives a session the address leads it there. -/
theorem leads_of_address
    (h : LockSection (p.calls i).clientAddr i (p.calls i).stage p.gateway st g ms)
    {sid : SessionId} (hms : ms = some (.address sid ip)) : (p.move i st g ms).Leads ip := by
  obtain ⟨-, hassigned, -, hmap⟩ := h.address_cases hms
  refine ⟨sid, hmap, unswept_append.2 (Or.inl hms), Or.inl ⟨i, ?_⟩⟩
  rw [move_stage, if_pos rfl]
  exact hassigned

/-- A section that cleans up for no other session than the one the address leads to, leaves it
leading there. -/
theorem Rivals.leads_move (hp : p.Rivals ip)
    (h : LockSection (p.calls i).clientAddr i (p.calls i).stage p.gateway st g ms)
    (hfair : Fair ip (p.calls i).stage st p.gateway) (hnew : ∀ sid, ms ≠ some (.address sid ip))
    {sid : SessionId} (hmap : p.gateway.sessionManager.vpnIpMap ip = some sid)
    (hsid : Unswept ip sid p.milestones)
    (hheld : (∃ j, (p.calls j).stage.assigned = some sid) ∨
      ∀ other, Unswept ip other p.milestones → other = sid)
    (hsame : ∀ other, ms = some (.cleanup other ip) → other = sid) :
    (p.move i st g ms).Leads ip := by
  refine ⟨sid, hp.vpnIpMap_move h hfair hmap hnew hsame, (unswept_move hnew).2 ⟨hsid, hsame⟩, ?_⟩
  by_cases hms : ms = some (.cleanup sid ip)
  · exact Or.inr fun other hother => (((unswept_move hnew).1 hother).2 sid hms).symm
  · rcases hheld with ⟨j, hassigned⟩ | honly
    · exact Or.inl ⟨j, hp.assigned_move h hassigned hsid.address_mem hms⟩
    · exact Or.inr fun other hother => honly other ((unswept_move hnew).1 hother).1

/-- A section that cleans up for another session than the one the address leads to sweeps that one
away while a call still holds it. -/
theorem Rivals.swept_move (hp : p.Rivals ip)
    (h : LockSection (p.calls i).clientAddr i (p.calls i).stage p.gateway st g ms)
    (hnew : ∀ sid, ms ≠ some (.address sid ip)) {sid u : SessionId} (hms : ms = some (.cleanup u ip))
    (hne : u ≠ sid) (hsid : Unswept ip sid p.milestones) {j : Nat}
    (hassigned : (p.calls j).stage.assigned = some sid) : (p.move i st g ms).HoldsSwept ip := by
  refine ⟨j, sid, hp.assigned_move h hassigned hsid.address_mem ?_,
    List.mem_append_right _ hsid.address_mem, fun hstill => ?_⟩
  · rw [hms]
    intro heq
    cases heq
    exact hne rfl
  · exact hne (((unswept_move hnew).1 hstill).2 u hms)

theorem Rivals.route_move (hp : p.Rivals ip)
    (h : LockSection (p.calls i).clientAddr i (p.calls i).stage p.gateway st g ms)
    (hfair : Fair ip (p.calls i).stage st p.gateway) {u : SessionId}
    (hu : Unswept ip u (p.move i st g ms).milestones) :
    (p.move i st g ms).Leads ip ∨ (p.move i st g ms).HoldsSwept ip := by
  by_cases hnew : ∃ sid, ms = some (.address sid ip)
  · obtain ⟨sid, hms⟩ := hnew
    exact Or.inl (leads_of_address h hms)
  rw [not_exists] at hnew
  obtain ⟨hu, hsweeps⟩ := (unswept_move hnew).1 hu
  rcases hp.route ⟨u, hu⟩ with ⟨sid, hmap, hsid, hheld⟩ | ⟨j, sid, hassigned, haddress, hsid⟩
  · by_cases hcleanup : ms = some (.cleanup u ip) ∧ u ≠ sid
    · -- the session of the cleanup is the only one left, and the route still leads elsewhere
      obtain ⟨hms, hne⟩ := hcleanup
      rcases hheld with ⟨j, hassigned⟩ | honly
      · exact Or.inr (hp.swept_move h hnew hms hne hsid hassigned)
      · exact absurd (honly u hu) hne
    · refine Or.inl (hp.leads_move h hfair hnew hmap hsid hheld fun other hms => ?_)
      by_contra hne
      have hother := hsweeps other hms
      subst hother
      exact hcleanup ⟨hms, hne⟩
  · refine Or.inr ⟨j, sid, hp.assigned_move h hassigned haddress fun hms => ?_,
      List.mem_append_right _ haddress, fun hstill => hsid ((unswept_move hnew).1 hstill).1⟩
    exact hsid (hsweeps sid hms ▸ hu)

theorem Rivals.move (hp : p.Rivals ip) (hi : i < p.arrived)
    (h : LockSection (p.calls i).clientAddr i (p.calls i).stage p.gateway st g ms)
    (hfair : Fair ip (p.calls i).stage st p.gateway) : (p.move i st g ms).Rivals ip where
  ownership := hp.ownership.move hi h
  given := fun _ => hp.given_move h
  inserting := fun _ _ _ _ => hp.inserting_move h
  pending := fun _ _ => hp.pending_move h hfair
  failing := fun _ _ => hp.failing_move h hfair
  live := fun _ => hp.live_move h hfair
  route := by
    rintro ⟨u, hu⟩
    exact hp.route_move h hfair hu

/-- The arrival of a datagram, whose number was free. -/
theorem Rivals.arrive (hp : p.Rivals ip) {c : Call} (hc : c.stage = .lookup)
    (howner : ({ p with
      calls := Function.update p.calls p.arrived c
      arrived := p.arrived + 1 } : Pool).Ownership) : ({ p with
        calls := Function.update p.calls p.arrived c
        arrived := p.arrived + 1 } : Pool).Rivals ip := by
  -- the new call is at its lookup, where no field of a stage is set
  have hstage : ∀ {α : Type} (f : Stage → Option α) {j : Nat} {x : α}, f .lookup = none →
      f (Function.update p.calls p.arrived c j).stage = some x →
      f (p.calls j).stage = some x := by
    intro α f j x hlookup hst
    by_cases hj : j = p.arrived
    · rw [hj, Function.update_self, hc, hlookup] at hst
      cases hst
    · rw [Function.update_of_ne hj] at hst
      exact hst
  have hheld : ∀ {j sid}, (p.calls j).stage.assigned = some sid →
      (Function.update p.calls p.arrived c j).stage.assigned =
        some sid := by
    intro j sid hst
    -- the slot of the new call was free
    have hj : j ≠ p.arrived := by
      rintro rfl
      have hfinished := hp.ownership.arrived p.arrived le_rfl
      generalize (p.calls p.arrived).stage = st at hst hfinished
      cases st with
      | finished r => cases hst
      | _ => cases hfinished
    rw [Function.update_of_ne hj]
    exact hst
  refine ⟨howner, hp.given, fun j a v s hst => ?_,
    fun j sid hst => hp.pending j sid (hstage Stage.pending rfl hst),
    fun j sid hst => hp.failing j sid (hstage Stage.failing rfl hst), hp.live, fun hu => ?_⟩
  · by_cases hj : j = p.arrived
    · simp only [hj, Function.update_self, hc] at hst
      cases hst
    · simp only [Function.update_of_ne hj] at hst
      exact hp.inserting j a v s hst
  · rcases hp.route hu with ⟨sid, hmap, hsid, ⟨j, hassigned⟩ | honly⟩ | ⟨j, sid, hassigned, hsid⟩
    · exact Or.inl ⟨sid, hmap, hsid, Or.inl ⟨j, hheld hassigned⟩⟩
    · exact Or.inl ⟨sid, hmap, hsid, Or.inr honly⟩
    · exact Or.inr ⟨j, sid, hheld hassigned, hsid⟩

/-- A change of the gateway that keeps the live sessions, their addresses and the routes. -/
theorem Rivals.gateway (hp : p.Rivals ip) (howner : ({ p with gateway := g } : Pool).Ownership)
    (hlive : ∀ sid, sid ∈ g.sessionManager.sessions ↔ sid ∈ p.gateway.sessionManager.sessions)
    (hvpn : ∀ sid, (g.session sid).vpnIp = (p.gateway.session sid).vpnIp)
    (hmap : g.sessionManager.vpnIpMap = p.gateway.sessionManager.vpnIpMap) :
    ({ p with gateway := g } : Pool).Rivals ip where
  ownership := howner
  given := fun sid hsid => (hvpn sid).trans (hp.given sid hsid)
  inserting := hp.inserting
  pending := fun j sid hst =>
    ⟨(hlive sid).2 (hp.pending j sid hst).1, (hvpn sid).trans (hp.pending j sid hst).2⟩
  failing := fun j sid hst h => hp.failing j sid hst ((hvpn sid).symm.trans h)
  live := fun sid hsid => (hlive sid).trans (hp.live sid hsid)
  route := by
    intro hu
    have hroute := hp.route hu
    unfold Leads at hroute ⊢
    rw [hmap]
    exact hroute

theorem Rivals.step (hp : p.Rivals ip) {e : Env × Event} (hvalid : p.ValidHandshakes P ip e) :
    (p.step P rng cfg workerCount e).Rivals ip := by
  have howner := hp.ownership.step P rng cfg workerCount e
  rcases step_cases P rng cfg workerCount p e with
    ⟨packetData, addr, -, hstep⟩ | ⟨i, st, g, ms, he, hready, hsec, hstep, hst⟩ | ⟨t, he, hstep⟩ |
    ⟨-, hstep⟩
  · rw [hstep] at howner ⊢
    exact hp.arrive rfl howner
  · rw [hstep]
    -- a call that is failing is one whose datagram did not validate
    refine hp.move hready.1 hsec ⟨fun sid hfailing => ?_, fun t plaintext hinner hnew => ?_⟩
    · rw [hst] at hfailing
      obtain ⟨hcases, hnone⟩ := Gateway.advance_failing hfailing
      rcases hcases with ⟨a, client, hst⟩ | ⟨client, hst⟩
      · simp only [ValidHandshakes, he, hst] at hvalid
        refine ⟨by rw [hst]; rfl, by rw [hst]; rfl, fun hvpn => ?_⟩
        have hsome := hvalid hready hvpn
        rw [hnone] at hsome
        cases hsome
      · simp only [ValidHandshakes, he, hst] at hvalid
        refine ⟨by rw [hst]; rfl, by rw [hst]; rfl, fun hvpn => ?_⟩
        have hsome := hvalid hready hvpn
        rw [hnone] at hsome
        cases hsome
    · simp only [ValidHandshakes, he, hinner] at hvalid
      rcases hvalid hready with hvalid | hvalid
      · rw [hnew] at hvalid
        cases hvalid
      · exact hvalid
  · rw [hstep] at howner ⊢
    simp only [ValidHandshakes, he] at hvalid
    -- the background tasks: no cleanup of idle sessions runs, and the others keep the address book
    rcases task_addressBook P rng cfg e.1 t p.gateway with hbook | ⟨hcleanup, -⟩ |
      ⟨sids, hperm, hbook⟩
    · exact hp.gateway howner (fun sid => by rw [Gateway.sessions_of_book hbook]; rfl)
        (Gateway.vpnIp_of_book hbook) (Gateway.vpnIpMap_of_book hbook)
    · exact absurd hcleanup hvalid
    · exact hp.gateway howner (fun sid => by rw [Gateway.sessions_of_book hbook]; exact hperm.mem_iff)
        (Gateway.vpnIp_of_book hbook) (Gateway.vpnIpMap_of_book hbook)
  · rw [hstep]
    exact hp

theorem Rivals.start {g : Gateway} (hg : g.sessionManager.Allocated) :
    (Pool.start g).Rivals ip where
  ownership := Ownership.start hg
  given := fun _ h => by cases h
  inserting := fun _ _ _ _ h => by cases h
  pending := fun _ _ h => by cases h
  failing := fun _ _ h => by cases h
  live := fun _ h => by cases h
  route := fun ⟨_, h⟩ => h.elim

/-- When no call holds a session of the address any more, the live ones are those that nobody has
cleaned up after, and the address leads to one of them if there is any. -/
theorem Rivals.connected_iff (hp : p.Rivals ip) (hdone : p.Idle) :
    p.Connected ip ↔ ∃ sid, Unswept ip sid p.milestones := by
  have hidle : ∀ i sid, (p.calls i).stage.assigned ≠ some sid := by
    intro i sid hst
    have hfinished : (p.calls i).stage.isFinished = true := by
      rcases Nat.lt_or_ge i p.arrived with hlt | hge
      · exact hdone i hlt
      · exact hp.ownership.arrived i hge
    generalize (p.calls i).stage = st at hst hfinished
    cases st with
    | finished r => cases hst
    | _ => cases hfinished
  constructor
  · rintro ⟨⟨sid, hlive, haddress⟩, -⟩
    exact ⟨sid, (hp.live sid haddress).1 hlive⟩
  · rintro ⟨u, hu⟩
    rcases hp.route ⟨u, hu⟩ with ⟨sid, hmap, hsid, -⟩ | ⟨i, sid, hassigned, -⟩
    · have hlive := (hp.live sid hsid.address_mem).2 hsid
      exact ⟨⟨sid, hlive, hsid.address_mem⟩, sid, hlive, hmap⟩
    · exact absurd hassigned (hidle i sid)

end

end Pool

/-- When the calls that have arrived since a reachable state have all returned, and their handshakes
for the address were valid, the client is connected exactly when one of the handshakes was given the
address and no other one has cleaned up behind it. -/
theorem connected_iff_unswept (P : Primitives) (rng : Randomness) (cfg : GatewayConfig)
    (workerCount : Nat) (serverKeys : KeyPair) (signingKey : Key)
    (clientDb : Option (List ClientConfig)) (g : Gateway)
    (hg : ∃ before, (runFrom (Pool.step P rng cfg workerCount)
      (Pool.start (Gateway.new serverKeys signingKey clientDb)) before).gateway = g)
    (es : List (Env × Pool.Event)) (ip : Ipv4Addr)
    (hvalid : Along (Pool.step P rng cfg workerCount) (Pool.ValidHandshakes P ip) (Pool.start g) es)
    (hdone : (runFrom (Pool.step P rng cfg workerCount) (Pool.start g) es).Idle) :
    (runFrom (Pool.step P rng cfg workerCount) (Pool.start g) es).Connected ip ↔
      ∃ sid, Unswept ip sid
        (runFrom (Pool.step P rng cfg workerCount) (Pool.start g) es).milestones := by
  obtain ⟨before, rfl⟩ := hg
  have hnew : (Gateway.new serverKeys signingKey clientDb).sessionManager.Allocated :=
    fun _ h => by cases h
  have howner := Pool.ownership_of_run P rng cfg workerCount hnew before
  exact (runFrom_invariant_of_along (fun _ _ hp hstep => hp.step hstep)
    (Pool.Rivals.start fun sid hsid => (howner.live sid hsid).drawn) hvalid).connected_iff hdone

/-- The init datagram of the sample client with another ephemeral key. -/
def sampleRetry (eph : UInt8) : Bytes :=
  let keypair := samplePrimitives.fromPrivateKey (ByteArr.replicate 32 eph)
  { sampleClientInit with ephPub := keypair.publicKeyBytes }.bytes samplePrimitives sampleServerKeys

/-- Two handshakes of the sample client on different workers. Both calls look their tags up, the
second one runs `n` more sections, the first one those up to its cleanup, and then both run to their
end. -/
def sampleRace (n : Nat) : List (Env × Pool.Event) :=
  (sampleEnv 100, .arrive (sampleRetry 5) sampleAddr) ::
  (sampleEnv 100, .arrive (sampleRetry 13) { sampleAddr with port := 4001 }) ::
  (sampleEnv 100, .advance 0) :: (sampleEnv 100, .advance 1) ::
    (List.replicate n (sampleEnv 100, .advance 1) ++ List.replicate 9 (sampleEnv 100, .advance 0) ++
      List.replicate 14 (sampleEnv 100, .advance 1) ++ List.replicate 5 (sampleEnv 100, .advance 0))

/-- The pool after the two handshakes. -/
def sampleRaced (n : Nat) : Pool :=
  runFrom (Pool.step samplePrimitives sampleRandomness sampleConfig 16)
    (Pool.start (Gateway.new sampleServerKeys default (some [sampleClient]))) (sampleRace n)

/-- Two valid handshakes that are both given the address before either cleans up: each removes the
session of the other. -/
theorem handshakes_sweep_each_other :
    Along (Pool.step samplePrimitives sampleRandomness sampleConfig 16)
      (Pool.ValidHandshakes samplePrimitives sampleClient.vpnIp)
      (Pool.start (Gateway.new sampleServerKeys default (some [sampleClient]))) (sampleRace 8) ∧
    ((sampleRaced 8).calls 0).worker ≠ ((sampleRaced 8).calls 1).worker ∧
    (sampleRaced 8).Idle ∧ ¬ (sampleRaced 8).Connected sampleClient.vpnIp := by
  decide +kernel

/-- The second handshake cleans up before the first is given the address, and the client is
connected. -/
theorem sampleRace_connected : (sampleRaced 5).Connected sampleClient.vpnIp := by
  have hrun : (runFrom (Pool.step samplePrimitives sampleRandomness sampleConfig 16)
      (Pool.start (Gateway.new sampleServerKeys default (some [sampleClient])))
      (sampleRace 5)).milestones = [.accepted 1 0, .accepted 0 1,
        .cleanup 0 sampleClient.vpnIp, .valid 0, .valid 0, .address 0 sampleClient.vpnIp,
        .cleanup 1 sampleClient.vpnIp, .valid 1, .valid 1, .address 1 sampleClient.vpnIp] := by
    decide +kernel
  refine (connected_iff_unswept samplePrimitives sampleRandomness sampleConfig 16 sampleServerKeys
    default (some [sampleClient]) (Gateway.new sampleServerKeys default (some [sampleClient]))
    ⟨[], rfl⟩ (sampleRace 5) sampleClient.vpnIp (by decide +kernel) (by decide +kernel)).2 ⟨0, ?_⟩
  rw [hrun]
  simp [Unswept]

end Aivpn
