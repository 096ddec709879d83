import Aivpn.Server.Workers
import Aivpn.Lib.Runs
import Mathlib.Data.List.Perm.Subperm

/-!
# What one section of a call can do

`LockSection` lists what the next section of a call does to the address book, one constructor for
each kind of section, with the stages before and after it. `Pool.step_cases` adds the arrivals and
the tasks. From it follows, by induction over runs, who may touch a session in the making
(`Pool.Ownership`): a session id is drawn by one call, the session is in nobody else's hands until
it is in the session map, and it is put there once.
-/

set_option autoImplicit false

namespace Aivpn

open Aivpn.Lib Action

namespace Stage

/-- The session that the call is creating, until its tag is validated behind the loop over the
clients or the session is rolled back. -/
def owns : Stage → Option SessionId
  | insertSession _ _ s => some s.sessionId
  | assignVpnIp _ _ sid => some sid
  | validate _ _ sid => some sid
  | rollback _ sid => some sid
  | revalidate _ sid => some sid
  | discard _ sid => some sid
  | _ => none

/-- The session that the call has given its address, until the cleanup of older sessions or the
rollback. -/
def assigned : Stage → Option SessionId
  | validate _ _ sid => some sid
  | rollback _ sid => some sid
  | revalidate _ sid => some sid
  | discard _ sid => some sid
  | cleanup _ t => some t.sessionId
  | _ => none

/-- The session that the call has put in the session map and whose tag it has not validated. With a
database the first validation is the one in the loop over the clients. -/
def unvalidated : Stage → Option SessionId
  | assignVpnIp _ _ sid => some sid
  | validate _ _ sid => some sid
  | rollback _ sid => some sid
  | revalidate none sid => some sid
  | discard none sid => some sid
  | _ => none

/-- The session that the call's next sections read or write, once it is in the session map. -/
def uses : Stage → Option SessionId
  | assignVpnIp _ _ sid => some sid
  | validate _ _ sid => some sid
  | rollback _ sid => some sid
  | revalidate _ sid => some sid
  | discard _ sid => some sid
  | cleanup _ t => some t.sessionId
  | welcome _ t => some t.sessionId
  | decrypt t => some t.sessionId
  | ratchet t _ => some t.sessionId
  | mark t _ => some t.sessionId
  | inner t _ => some t.sessionId
  | _ => none

/-- The datagram of the call was accepted, or the call has returned. -/
def isServed : Stage → Bool
  | inner _ _ => true
  | finished _ => true
  | _ => false

/-- The next section leaves the address book alone: it neither publishes, removes nor updates a
session. -/
def Quiet : Stage → Prop
  | insertSession _ _ _ => False
  | assignVpnIp _ _ _ => False
  | rollback _ _ => False
  | discard _ _ => False
  | cleanup _ _ => False
  | mark _ padded => ∃ e, stripPadding padded = .error e
  | _ => True

/-- What a section that leaves the address book alone does to the stage of its call, with the given
sessions live. -/
structure Precedes (st st' : Stage) (sessions : List SessionId) : Prop where
  quiet : st.Quiet
  owns : st'.owns = st.owns
  assigned : st'.assigned = st.assigned
  unvalidated : st'.unvalidated = st.unvalidated
  uses : st'.uses = st.uses ∨ st'.uses = none ∨ ∃ sid ∈ sessions, st'.uses = some sid
  published : ∀ a ip s, st' ≠ .insertSession a ip s
  served : st.isServed = true → st'.isServed = true

/-- The sessions that a call is making. -/
def making (st : Stage) : Option SessionId × Option SessionId × Option SessionId :=
  (st.owns, st.assigned, st.unvalidated)

variable {st st' : Stage} {sessions : List SessionId}

/-- The call goes on with the sessions that it has. -/
theorem Precedes.goesOn (hquiet : st.Quiet) (hmaking : st'.making = st.making)
    (huses : st'.uses = st.uses) (hserved : st.isServed = false) : st.Precedes st' sessions where
  quiet := hquiet
  owns := congrArg Prod.fst hmaking
  assigned := congrArg (fun x => x.2.1) hmaking
  unvalidated := congrArg (fun x => x.2.2) hmaking
  uses := Or.inl huses
  published a ip s h := by
    -- only the session that a call is about to insert is owned and not used
    subst h
    cases st with
    | insertSession a ip s => exact hquiet
    | _ => simp [Stage.making, Stage.owns, Stage.uses] at hmaking huses
  served h := by
    rw [hserved] at h
    cases h

/-- A call that was making no session returns. -/
theorem Precedes.returns {r : Outcome Unit} (hquiet : st.Quiet)
    (hmaking : st.making = (none, none, none)) : st.Precedes (.finished r) sessions where
  quiet := hquiet
  owns := (congrArg Prod.fst hmaking).symm
  assigned := (congrArg (fun x => x.2.1) hmaking).symm
  unvalidated := (congrArg (fun x => x.2.2) hmaking).symm
  uses := Or.inr (Or.inl rfl)
  published _ _ _ h := by cases h
  served _ := rfl

end Stage

/-- The update of a stored client address by an accepted datagram. -/
def AddressBook.migrate (book : AddressBook) (t : TagMatch) (addr : SocketAddr) : AddressBook :=
  { book with
    clientAddr := Function.update book.clientAddr t.sessionId
      (if t.isNewSession then book.clientAddr t.sessionId else addr) }

/-- One section of a call for a datagram from `addr`, from one stage and gateway to the next, with
its milestone. -/
inductive LockSection (addr : SocketAddr) (call : Nat) :
    Stage → Gateway → Stage → Gateway → Option Milestone → Prop where
  | quiet {st st' : Stage} {g g' : Gateway} (hbook : g'.addressBook = g.addressBook)
      (hst : st.Precedes st' g.sessionManager.sessions) : LockSection addr call st g st' g' none
  | validated (a : Attempt) (client : ClientConfig) (sid : SessionId) (g : Gateway) :
      LockSection addr call (.validate a client sid) g (.revalidate (some client) sid) g
        (some (.valid sid))
  | offered {client : Option ClientConfig} {sid : SessionId} (t : TagMatch) (g : Gateway)
      (ht : t.sessionId = sid) :
      LockSection addr call (.revalidate client sid) g (.cleanup client t) g (some (.valid sid))
  | drawn {a : Attempt} {ip : Option Ipv4Addr} {s : Session} {g g' : Gateway}
      (hid : s.sessionId = g.sessionManager.nextId) (hip : s.vpnIp = none)
      (haddr : s.clientAddr = addr) (hbook : g'.addressBook =
        { g.addressBook with nextId := g.sessionManager.nextId + 1 }) :
      LockSection addr call (.publishTags a ip) g (.insertSession a ip s) g' none
  | inserted (a : Attempt) (ip : Option Ipv4Addr) (s : Session) (g : Gateway) :
      LockSection addr call (.insertSession a ip s) g (.assignVpnIp a ip s.sessionId)
        (g.withManager (g.sessionManager.insertSession s)) none
  | assigned (a : Attempt) (ip : Option Ipv4Addr) (sid : SessionId) (g : Gateway) :
      LockSection addr call (.assignVpnIp a ip sid) g (a.resume (.ok sid))
        (g.withManager (g.sessionManager.mapVpnIp sid (a.client.map ClientConfig.vpnIp) ip))
        ((g.sessionManager.assignVpnIp (a.client.map ClientConfig.vpnIp) ip).1.map (.address sid))
  | rolledBack {st st' : Stage} {sid : SessionId} (g : Gateway)
      (hst : (∃ a, st = .rollback a sid) ∨ ∃ client, st = .discard client sid)
      (howns : st'.owns = none)
      (hassigned : st'.assigned = none) (hunvalidated : st'.unvalidated = none)
      (huses : st'.uses = none) :
      LockSection addr call st g st' (g.withManager (g.sessionManager.rollbackFailedSession sid))
        none
  | cleaned (client : Option ClientConfig) (t : TagMatch) (g : Gateway) :
      LockSection addr call (.cleanup client t) g (.welcome client t)
        (g.withManager (g.sessionManager.establish t.sessionId (client.map ClientConfig.psk)))
        ((g.session t.sessionId).vpnIp.map (.cleanup t.sessionId))
  | marked (t : TagMatch) (padded plaintext : Bytes) {g g' : Gateway}
      (hstrip : stripPadding padded = .ok plaintext)
      (hbook : g'.addressBook = g.addressBook.migrate t addr) :
      LockSection addr call (.mark t padded) g (.inner t plaintext) g'
        (some (.accepted t.sessionId call))
  | removed (t : TagMatch) (plaintext : Bytes) (r : Outcome Unit) {g g' : Gateway}
      (hnew : t.isNewSession = false) (hshutdown : carriesShutdown plaintext = true)
      (hbook : g'.addressBook = (g.sessionManager.removeSession t.sessionId).addressBook) :
      LockSection addr call (.inner t plaintext) g (.finished r) g' none

/-! ## Every section is one of these -/

/-- An error of `create_session` only moves the call on. -/
theorem Attempt.precedes_resume (a : Attempt) (e : Error) (sessions : List SessionId) {st : Stage}
    (hst : st = .checkLimits a ∨ ∃ ip, st = .publishTags a ip) :
    st.Precedes (a.resume (.error e)) sessions := by
  unfold Attempt.resume
  rcases hst with rfl | ⟨ip, rfl⟩
  · cases a.client with
    | none => exact .returns trivial rfl
    | some client => exact .goesOn trivial rfl rfl rfl
  · cases a.client with
    | none => exact .returns trivial rfl
    | some client => exact .goesOn trivial rfl rfl rfl

theorem Attempt.resume_ok (a : Attempt) (sid : SessionId) :
    (a.resume (.ok sid)).owns = some sid ∧ (a.resume (.ok sid)).assigned = some sid ∧
      (a.resume (.ok sid)).unvalidated = some sid ∧ (a.resume (.ok sid)).uses = some sid ∧
      ∀ b ip s, a.resume (.ok sid) ≠ .insertSession b ip s := by
  unfold Attempt.resume
  cases a.client with
  | none => exact ⟨rfl, rfl, rfl, rfl, fun _ _ _ h => by cases h⟩
  | some client => exact ⟨rfl, rfl, rfl, rfl, fun _ _ _ h => by cases h⟩

theorem Session.receive_addresses (P : Primitives) (env : Env) (s : Session) (counter : Nat)
    (isNewSession : Bool) (addr : SocketAddr) (len : Nat) :
    (s.receive P env counter isNewSession addr len).1.vpnIp = s.vpnIp ∧
      (s.receive P env counter isNewSession addr len).1.clientAddr =
        if isNewSession then s.clientAddr else addr := by
  have hmark : (s.markTagReceived counter).vpnIp = s.vpnIp ∧
      (s.markTagReceived counter).clientAddr = s.clientAddr := by
    unfold markTagReceived
    simp only
    split_ifs
    · exact ⟨rfl, rfl⟩
    · exact ⟨rfl, rfl⟩
    · exact ⟨rfl, rfl⟩
  obtain ⟨hip, haddr⟩ := hmark
  unfold receive
  simp only
  generalize s.markTagReceived counter = t at hip haddr
  rw [← hip, ← haddr]
  cases isNewSession with
  | true =>
      simp only [Bool.not_true, Bool.false_and, Bool.false_eq_true, if_false, if_true]
      split_ifs
      all_goals exact ⟨rfl, rfl⟩
  | false =>
      by_cases h : t.clientAddr = addr
      · subst h
        simp only [ne_eq, not_true_eq_false, decide_false, Bool.and_false, Bool.false_eq_true,
          if_false]
        split_ifs
        all_goals exact ⟨rfl, rfl⟩
      · simp only [ne_eq, h, not_false_eq_true, decide_true, Bool.not_false, Bool.and_true, if_true,
          Bool.false_eq_true, if_false]
        split_ifs
        all_goals exact ⟨rfl, rfl⟩

theorem SessionManager.receive_addressBook (P : Primitives) (env : Env) (m : SessionManager)
    (t : TagMatch) (addr : SocketAddr) (len : Nat) :
    (m.receive P env t addr len).2.addressBook = m.addressBook.migrate t addr := by
  obtain ⟨hip, haddr⟩ := (m.heap t.sessionId).receive_addresses P env t.counter t.isNewSession addr
    len
  have hset : (m.setSession t.sessionId ((m.heap t.sessionId).receive P env t.counter
      t.isNewSession addr len).1).addressBook = m.addressBook.migrate t addr := by
    generalize ((m.heap t.sessionId).receive P env t.counter t.isNewSession addr len).1 = s
      at hip haddr
    unfold addressBook AddressBook.migrate setSession
    simp only [AddressBook.mk.injEq, true_and]
    constructor
    · refine (Function.comp_update Session.vpnIp m.heap t.sessionId s).trans ?_
      rw [hip]
      exact Function.update_eq_self t.sessionId _
    · refine (Function.comp_update Session.clientAddr m.heap t.sessionId s).trans ?_
      rw [haddr]
      rfl
  unfold receive
  simp only
  split_ifs
  · rw [refreshSessionTags_addressBook]
    exact hset
  · exact hset

section

variable {P : Primitives} {rng : Randomness} {cfg : GatewayConfig} {env : Env}

theorem Gateway.markReceived_addressBook (t : TagMatch) (addr : SocketAddr) (len : Nat)
    (g : Gateway) :
    (Gateway.markReceived P env t addr len g).2.addressBook = g.addressBook.migrate t addr := by
  have hrecord := Gateway.keeps_addressBook_recordTraffic
    (g.sessionManager.receive P env t addr len).1
    { g with sessionManager := (g.sessionManager.receive P env t addr len).2 }
  exact hrecord.trans (g.sessionManager.receive_addressBook P env t addr len)

variable (P rng cfg env) in
/-- The next section of the call is one of the lock sections. -/
abbrev Gateway.Advances (packetData : Bytes) (addr : SocketAddr) (call : Nat) (st : Stage)
    (g : Gateway) : Prop :=
  LockSection addr call st g (Gateway.advance P rng cfg env packetData addr st g).1
    (Gateway.advance P rng cfg env packetData addr st g).2 (st.milestone P env packetData call g)

section

variable (packetData : Bytes) (addr : SocketAddr) (call : Nat) (g : Gateway)

/-- A session that the lookup finds is in the map, so that the call may use it from here on. -/
theorem advances_lookup : g.Advances P rng cfg env packetData addr call .lookup := by
  have hbook := g.sessionManager.findSession_addressBook P env (readArray 8 0 packetData) addr.ip
  simp only [Gateway.Advances, Gateway.advance]
  split_ifs
  · exact .quiet rfl (.returns trivial rfl)
  · rcases hfs : g.sessionManager.findSession P env (readArray 8 0 packetData) addr.ip
      with ⟨e | _ | ⟨sid, counter, isRatcheted⟩, m⟩
    · rw [hfs] at hbook
      exact .quiet hbook (.returns trivial rfl)
    · rw [hfs] at hbook
      exact .quiet hbook (.goesOn trivial rfl rfl rfl)
    · rw [hfs] at hbook
      refine .quiet hbook ⟨trivial, rfl, rfl, rfl, Or.inr (Or.inr ?_), ?_, ?_⟩
      · exact ⟨sid, SessionManager.findSession_mem P hfs, rfl⟩
      · exact fun _ _ _ h => by cases h
      · exact fun h => by cases h

theorem advances_unknownTag : g.Advances P rng cfg env packetData addr call .unknownTag := by
  simp only [Gateway.Advances, Gateway.advance]
  split_ifs
  · exact .quiet rfl (.returns trivial rfl)
  · exact .quiet rfl (.returns trivial rfl)
  · cases g.clientDb with
    | none => exact .quiet rfl (.goesOn trivial rfl rfl rfl)
    | some clients => exact .quiet rfl (.goesOn trivial rfl rfl rfl)

theorem advances_nextClient (ephPub : Key) (clients : List ClientConfig) :
    g.Advances P rng cfg env packetData addr call (.nextClient ephPub clients) := by
  cases clients with
  | nil => exact .quiet rfl (.returns trivial rfl)
  | cons client rest =>
      simp only [Gateway.Advances, Gateway.advance]
      split_ifs
      · exact .quiet rfl (.goesOn trivial rfl rfl rfl)
      · exact .quiet rfl (.goesOn trivial rfl rfl rfl)

/-- A gateway that is full resumes the attempt with an error, before any id is drawn. -/
theorem advances_checkLimits (a : Attempt) :
    g.Advances P rng cfg env packetData addr call (.checkLimits a) := by
  simp only [Gateway.Advances, Gateway.advance]
  split_ifs
  · exact .quiet rfl (a.precedes_resume _ _ (Or.inl rfl))
  · exact .quiet rfl (a.precedes_resume _ _ (Or.inl rfl))
  · exact .quiet rfl (.goesOn trivial rfl rfl rfl)

/-- The id is drawn only where both key agreements succeed. -/
theorem advances_publishTags (a : Attempt) (ip : Option Ipv4Addr) :
    g.Advances P rng cfg env packetData addr call (.publishTags a ip) := by
  simp only [Gateway.Advances, Gateway.advance]
  cases P.computeShared g.sessionManager.serverKeys a.ephPub with
  | error e => exact .quiet rfl (a.precedes_resume _ _ (Or.inr ⟨ip, rfl⟩))
  | ok dh1 =>
      simp only
      cases P.computeShared (P.fromPrivateKey (rng.serverEph g.sessionManager.nextId)) a.ephPub with
      | error e => exact .quiet rfl (a.precedes_resume _ _ (Or.inr ⟨ip, rfl⟩))
      | ok dh2 =>
          -- the map does not hold the session yet; `insertSession` is a section of its own
          obtain ⟨hid, hip, haddr⟩ := g.sessionManager.initialSession_new P env addr a.ephPub
            (P.deriveSessionKeys dh1 (a.client.map ClientConfig.psk) a.ephPub)
            (P.fromPrivateKey (rng.serverEph g.sessionManager.nextId)) dh2
          exact .drawn hid hip haddr rfl

theorem advances_validate (a : Attempt) (client : ClientConfig) (sid : SessionId) :
    g.Advances P rng cfg env packetData addr call (.validate a client sid) := by
  simp only [Gateway.Advances, Gateway.advance, Stage.milestone_validate]
  split_ifs
  · exact .validated a client sid g
  · exact .quiet rfl (.goesOn trivial rfl rfl rfl)

/-- The tag is validated again: another call may have replaced the keys in between. -/
theorem advances_revalidate (client : Option ClientConfig) (sid : SessionId) :
    g.Advances P rng cfg env packetData addr call (.revalidate client sid) := by
  simp only [Gateway.Advances, Gateway.advance, Stage.milestone_revalidate]
  cases (g.session sid).validateTag P env.timeWindow (readArray 8 0 packetData) with
  | none =>
      cases client with
      | none => exact .quiet rfl (.goesOn trivial rfl rfl rfl)
      | some client => exact .quiet rfl (.goesOn trivial rfl rfl rfl)
  | some found => exact .offered _ g rfl

theorem advances_welcome (client : Option ClientConfig) (t : TagMatch) :
    g.Advances P rng cfg env packetData addr call (.welcome client t) := by
  have hbook := Gateway.keeps_addressBook_welcome P rng env client t.sessionId addr g
  simp only [Gateway.Advances, Gateway.advance]
  rcases hw : Gateway.welcome P rng env client t.sessionId addr g with ⟨e | u, g'⟩
  · rw [hw] at hbook
    exact .quiet hbook (.returns trivial rfl)
  · rw [hw] at hbook
    exact .quiet hbook (.goesOn trivial rfl rfl rfl)

theorem advances_decrypt (t : TagMatch) :
    g.Advances P rng cfg env packetData addr call (.decrypt t) := by
  simp only [Gateway.Advances, Gateway.advance]
  cases decryptDatagram P (g.session t.sessionId) t packetData with
  | error e => exact .quiet rfl (.returns trivial rfl)
  | ok padded =>
      simp only
      split_ifs
      · exact .quiet rfl (.goesOn trivial rfl rfl rfl)
      · exact .quiet rfl (.goesOn trivial rfl rfl rfl)

/-- The ratchet changes keys and tags, nothing of the address book. -/
theorem advances_ratchet (t : TagMatch) (padded : Bytes) :
    g.Advances P rng cfg env packetData addr call (.ratchet t padded) := by
  refine .quiet ?_ (.goesOn trivial rfl rfl rfl)
  exact (SessionManager.refreshSessionTags_addressBook _ _).trans
    (g.sessionManager.completeSessionRatchet_addressBook t.sessionId)

/-- Only a datagram whose padding is well formed moves the client's address. -/
theorem advances_mark (t : TagMatch) (padded : Bytes) :
    g.Advances P rng cfg env packetData addr call (.mark t padded) := by
  simp only [Gateway.Advances, Gateway.advance, Stage.milestone_mark]
  cases hstrip : stripPadding padded with
  | error e => exact .quiet rfl (.returns ⟨e, hstrip⟩ rfl)
  | ok plaintext =>
      exact .marked t padded plaintext hstrip (Gateway.markReceived_addressBook t addr _ g)

/-- The one control message that changes the address book is a shutdown. -/
theorem advances_inner (t : TagMatch) (plaintext : Bytes) :
    g.Advances P rng cfg env packetData addr call (.inner t plaintext) := by
  simp only [Gateway.Advances, Gateway.advance]
  split_ifs with hnew
  · exact .quiet rfl (.returns trivial rfl)
  · rcases Gateway.addressBook_processInnerPayload P rng cfg env plaintext t.sessionId addr g
      with hbook | ⟨hshutdown, hbook⟩
    · exact .quiet hbook (.returns trivial rfl)
    · exact .removed t plaintext _ (by simpa using hnew) hshutdown hbook

/-- From every stage the next section is one of the lock sections. -/
theorem lockSection_of_advance (st : Stage) : g.Advances P rng cfg env packetData addr call st := by
  cases st with
  | lookup => exact advances_lookup packetData addr call g
  | unknownTag => exact advances_unknownTag packetData addr call g
  | nextClient ephPub clients => exact advances_nextClient packetData addr call g ephPub clients
  | checkLimits a => exact advances_checkLimits packetData addr call g a
  | publishTags a ip => exact advances_publishTags packetData addr call g a ip
  | insertSession a ip s => exact .inserted a ip s g
  | assignVpnIp a ip sid => exact .assigned a ip sid g
  | validate a client sid => exact advances_validate packetData addr call g a client sid
  | rollback a sid => exact .rolledBack g (Or.inl ⟨a, rfl⟩) rfl rfl rfl rfl
  | revalidate client sid => exact advances_revalidate packetData addr call g client sid
  | discard client sid => exact .rolledBack g (Or.inr ⟨client, rfl⟩) rfl rfl rfl rfl
  | cleanup client t => exact .cleaned client t g
  | welcome client t => exact advances_welcome packetData addr call g client t
  | decrypt t => exact advances_decrypt packetData addr call g t
  | ratchet t padded => exact advances_ratchet packetData addr call g t padded
  | mark t padded => exact advances_mark packetData addr call g t padded
  | inner t plaintext => exact advances_inner packetData addr call g t plaintext
  | finished r => exact .quiet rfl (.returns trivial rfl)

end

end

/-! ## What a call has checked before it goes on -/

namespace Stage

/-- The call has counted the sessions and has not inserted its own yet. -/
def counted : Stage → Bool
  | publishTags _ _ => true
  | insertSession _ _ _ => true
  | _ => false

/-- The session that the call is about to roll back. -/
def failing : Stage → Option SessionId
  | rollback _ sid => some sid
  | discard _ sid => some sid
  | _ => none

end Stage

/-- A call draws a session only behind the limits of `create_session`, and rolls one back only
behind a tag that does not validate. -/
inductive Gateway.Checked (P : Primitives) (env : Env) (packetData : Bytes) (addr : SocketAddr)
    (g : Gateway) : Stage → Stage → Prop where
  | nothing {st st' : Stage} (hcounted : st'.counted = false) (hfailing : st'.failing = none) :
      Checked P env packetData addr g st st'
  | limits (a : Attempt) (ip : Option Ipv4Addr)
      (hsessions : g.sessionManager.sessions.length < maxSessions)
      (hip : g.sessionManager.ipCount addr < 5) :
      Checked P env packetData addr g (.checkLimits a) (.publishTags a ip)
  | drawn (a : Attempt) (ip : Option Ipv4Addr) (s : Session) :
      Checked P env packetData addr g (.publishTags a ip) (.insertSession a ip s)
  | mismatch (a : Attempt) (client : ClientConfig) (sid : SessionId)
      (htag : (g.session sid).validateTag P env.timeWindow (readArray 8 0 packetData) = none) :
      Checked P env packetData addr g (.validate a client sid) (.rollback a sid)
  | lapsed (client : Option ClientConfig) (sid : SessionId)
      (htag : (g.session sid).validateTag P env.timeWindow (readArray 8 0 packetData) = none) :
      Checked P env packetData addr g (.revalidate client sid) (.discard client sid)

/-- An attempt that is resumed has nothing to roll back, whatever it returns. -/
theorem Attempt.resume_checks (a : Attempt) (r : Except Error SessionId) :
    (a.resume r).counted = false ∧ (a.resume r).failing = none := by
  unfold Attempt.resume
  cases r with
  | error e => cases a.client with
      | none => exact ⟨rfl, rfl⟩
      | some client => exact ⟨rfl, rfl⟩
  | ok sid => cases a.client with
      | none => exact ⟨rfl, rfl⟩
      | some client => exact ⟨rfl, rfl⟩

theorem Gateway.Checked.resume {P : Primitives} {env : Env} {packetData : Bytes}
    {addr : SocketAddr} {g : Gateway} {st : Stage} (a : Attempt) (r : Except Error SessionId) :
    Checked P env packetData addr g st (a.resume r) :=
  .nothing (a.resume_checks r).1 (a.resume_checks r).2

theorem Gateway.checked_of_advance (P : Primitives) (rng : Randomness) (cfg : GatewayConfig)
    (env : Env) (packetData : Bytes) (addr : SocketAddr) (g : Gateway) (st : Stage) :
    Checked P env packetData addr g st (advance P rng cfg env packetData addr st g).1 := by
  cases st with
  | lookup =>
      simp only [advance]
      split_ifs
      · exact .nothing rfl rfl
      · rcases g.sessionManager.findSession P env (readArray 8 0 packetData) addr.ip
          with ⟨_ | _ | ⟨sid, counter, isRatcheted⟩, m⟩ <;> exact .nothing rfl rfl
  | unknownTag =>
      simp only [advance]
      split_ifs
      · exact .nothing rfl rfl
      · exact .nothing rfl rfl
      · cases g.clientDb <;> exact .nothing rfl rfl
  | nextClient ephPub clients =>
      cases clients with
      | nil => exact .nothing rfl rfl
      | cons client rest =>
          simp only [advance]
          split_ifs <;> exact .nothing rfl rfl
  | checkLimits a =>
      simp only [advance]
      split_ifs with hsessions hip
      · exact .resume a (.error _)
      · exact .resume a (.error _)
      · exact .limits a _ (not_le.1 hsessions) (not_le.1 hip)
  | publishTags a ip =>
      simp only [advance]
      cases P.computeShared g.sessionManager.serverKeys a.ephPub with
      | error e => exact .resume a (.error _)
      | ok dh1 =>
          simp only
          split
          · exact .resume a (.error _)
          · exact .drawn a ip _
  | insertSession a ip s => exact .nothing rfl rfl
  | assignVpnIp a ip sid => exact .resume a (.ok sid)
  | validate a client sid =>
      simp only [advance]
      split_ifs with hvalid
      · exact .nothing rfl rfl
      · exact .mismatch a client sid (by simpa using hvalid)
  | rollback a sid => exact .nothing rfl rfl
  | revalidate client sid =>
      simp only [advance]
      cases hvalid : (g.session sid).validateTag P env.timeWindow (readArray 8 0 packetData) with
      | none => exact .lapsed client sid hvalid
      | some found => exact .nothing rfl rfl
  | discard client sid => exact .nothing rfl rfl
  | cleanup client t => exact .nothing rfl rfl
  | welcome client t =>
      simp only [advance]
      split <;> exact .nothing rfl rfl
  | decrypt t =>
      simp only [advance]
      cases decryptDatagram P (g.session t.sessionId) t packetData with
      | error e => exact .nothing rfl rfl
      | ok padded =>
          simp only
          split_ifs <;> exact .nothing rfl rfl
  | ratchet t padded => exact .nothing rfl rfl
  | mark t padded =>
      simp only [advance]
      split <;> exact .nothing rfl rfl
  | inner t plaintext =>
      simp only [advance]
      split_ifs <;> exact .nothing rfl rfl
  | finished r => exact .nothing rfl rfl

/-! ## Who holds a session in the making -/

/-- The session that a milestone is about. -/
def Milestone.sessionId : Milestone → SessionId
  | address sid _ => sid
  | valid sid => sid
  | cleanup sid _ => sid
  | accepted sid _ => sid

/-- The address book once a session is given its address. -/
def AddressBook.assign (book : AddressBook) (sid : SessionId) : Option Ipv4Addr → AddressBook
  | some ip => { book with
      vpnIp := Function.update book.vpnIp sid (some ip)
      vpnIpMap := Function.update book.vpnIpMap ip (some sid) }
  | none => book

theorem SessionManager.mapVpnIp_addressBook (m : SessionManager) (sid : SessionId)
    (staticVpnIp reusedVpnIp : Option Ipv4Addr) :
    (m.mapVpnIp sid staticVpnIp reusedVpnIp).addressBook =
      m.addressBook.assign sid (m.assignVpnIp staticVpnIp reusedVpnIp).1 := by
  unfold mapVpnIp
  rcases m.assignVpnIp staticVpnIp reusedVpnIp with ⟨_ | ip, octet⟩
  · rfl
  · unfold addressBook AddressBook.assign
    simp only [AddressBook.mk.injEq, true_and]
    constructor
    · exact Function.comp_update Session.vpnIp m.heap sid _
    · refine (Function.comp_update Session.clientAddr m.heap sid _).trans ?_
      exact Function.update_eq_self sid _

theorem AddressBook.assign_sessions (book : AddressBook) (sid : SessionId)
    (vpnIp : Option Ipv4Addr) : (book.assign sid vpnIp).sessions = book.sessions ∧
      (book.assign sid vpnIp).nextId = book.nextId ∧
      (book.assign sid vpnIp).clientAddr = book.clientAddr := by
  cases vpnIp with
  | none => exact ⟨rfl, rfl, rfl⟩
  | some ip => exact ⟨rfl, rfl, rfl⟩

theorem SessionManager.mapVpnIp_sessions (m : SessionManager) (sid : SessionId)
    (staticVpnIp reusedVpnIp : Option Ipv4Addr) :
    (m.mapVpnIp sid staticVpnIp reusedVpnIp).sessions = m.sessions ∧
      (m.mapVpnIp sid staticVpnIp reusedVpnIp).nextId = m.nextId := by
  have hbook := m.mapVpnIp_addressBook sid staticVpnIp reusedVpnIp
  obtain ⟨hsessions, hnext, -⟩ := m.addressBook.assign_sessions sid
    (m.assignVpnIp staticVpnIp reusedVpnIp).1
  rw [← hbook] at hsessions hnext
  exact ⟨hsessions, hnext⟩

namespace SessionManager

theorem removeSession_sublist (m : SessionManager) (sid : SessionId) :
    (m.removeSession sid).sessions.Sublist m.sessions := by
  unfold removeSession
  split_ifs
  · exact List.filter_sublist
  · exact List.Sublist.refl _

theorem removeSessions_sublist (m : SessionManager) (sids : List SessionId) :
    (m.removeSessions sids).sessions.Sublist m.sessions := by
  induction sids generalizing m with
  | nil => exact List.Sublist.refl _
  | cons sid rest ih => exact (ih (m.removeSession sid)).trans (m.removeSession_sublist sid)

theorem establish_sublist (m : SessionManager) (sid : SessionId) (psk : Option Key) :
    (m.establish sid psk).sessions.Sublist m.sessions := by
  unfold establish
  simp only
  split
  · exact m.removeSessions_sublist _
  · exact List.Sublist.refl _

end SessionManager

namespace LockSection

variable {addr : SocketAddr} {call : Nat} {st st' : Stage} {g g' : Gateway} {ms : Option Milestone}

theorem nextId_le (h : LockSection addr call st g st' g' ms) :
    g.sessionManager.nextId ≤ g'.sessionManager.nextId := by
  cases h with
  | quiet hbook hst => exact (Gateway.nextId_of_book hbook).ge
  | validated a client sid => exact le_rfl
  | offered t => exact le_rfl
  | drawn hid hip haddr hbook =>
      rw [Gateway.nextId_of_book hbook]
      exact Nat.le_succ _
  | inserted a ip s => exact le_rfl
  | assigned a ip sid =>
      exact (g.sessionManager.mapVpnIp_sessions sid (a.client.map ClientConfig.vpnIp) ip).2.ge
  | rolledBack g hst => exact (g.sessionManager.rollbackFailedSession_nextId _).ge
  | cleaned client t => exact (g.sessionManager.establish_nextId _ _).ge
  | marked t padded plaintext hstrip hbook => exact (Gateway.nextId_of_book hbook).ge
  | removed t plaintext r hnew hshutdown hbook =>
      rw [Gateway.nextId_of_book hbook]
      exact (SessionManager.removeSession_nextId _ _).ge

/-- A section removes sessions, or adds one that its call has made. -/
theorem sessions_cases (h : LockSection addr call st g st' g' ms) :
    g'.sessionManager.sessions.Sublist g.sessionManager.sessions ∨
      ∃ a ip s, st = .insertSession a ip s ∧
        g'.sessionManager.sessions = g.sessionManager.sessions ++ [s.sessionId] := by
  cases h with
  | quiet hbook hst => exact Or.inl (Gateway.sessions_of_book hbook ▸ List.Sublist.refl _)
  | validated a client sid => exact Or.inl (List.Sublist.refl _)
  | offered t => exact Or.inl (List.Sublist.refl _)
  | drawn hid hip haddr hbook =>
      exact Or.inl (Gateway.sessions_of_book hbook ▸ List.Sublist.refl _)
  | inserted a ip s => exact Or.inr ⟨a, ip, s, rfl, rfl⟩
  | assigned a ip sid =>
      have hsessions := (g.sessionManager.mapVpnIp_sessions sid
        (a.client.map ClientConfig.vpnIp) ip).1
      exact Or.inl (hsessions ▸ List.Sublist.refl _)
  | @rolledBack st st' sid g hst =>
      have hsessions := g.sessionManager.rollbackFailedSession_sessions sid
      exact Or.inl (hsessions ▸ g.sessionManager.removeSession_sublist sid)
  | cleaned client t =>
      exact Or.inl (g.sessionManager.establish_sublist t.sessionId _)
  | marked t padded plaintext hstrip hbook =>
      exact Or.inl (Gateway.sessions_of_book hbook ▸ List.Sublist.refl _)
  | removed t plaintext r hnew hshutdown hbook =>
      exact Or.inl (Gateway.sessions_of_book hbook ▸ g.sessionManager.removeSession_sublist _)

/-- Every live session was live before the section, or its call has just inserted it. -/
theorem sessions_mem (h : LockSection addr call st g st' g' ms) {sid : SessionId}
    (hsid : sid ∈ g'.sessionManager.sessions) :
    sid ∈ g.sessionManager.sessions ∨ ∃ a ip s, st = .insertSession a ip s ∧ s.sessionId = sid := by
  rcases h.sessions_cases with hsub | ⟨a, ip, s, hst, hsessions⟩
  · exact Or.inl (hsub.subset hsid)
  · rw [hsessions] at hsid
    rcases List.mem_append.1 hsid with hold | hnew
    · exact Or.inl hold
    · exact Or.inr ⟨a, ip, s, hst, (List.mem_singleton.1 hnew).symm⟩

/-- A call draws an id once, and holds it until the session is offered or rolled back. -/
theorem owns_cases (h : LockSection addr call st g st' g' ms) {sid : SessionId}
    (hsid : st'.owns = some sid) :
    st.owns = some sid ∨
      sid = g.sessionManager.nextId ∧ g'.sessionManager.nextId = g.sessionManager.nextId + 1 := by
  cases h with
  | quiet hbook hst => exact Or.inl (hst.owns ▸ hsid)
  | validated a client sid => exact Or.inl hsid
  | offered t => cases hsid
  | drawn hid hip haddr hbook =>
      cases hsid
      exact Or.inr ⟨hid, Gateway.nextId_of_book hbook⟩
  | inserted a ip s => exact Or.inl hsid
  | assigned a ip sid' =>
      rw [(a.resume_ok sid').1] at hsid
      exact Or.inl hsid
  | rolledBack g hst howns =>
      rw [howns] at hsid
      cases hsid
  | cleaned client t => cases hsid
  | marked t padded plaintext hstrip hbook => cases hsid
  | removed t plaintext r hnew hshutdown hbook => cases hsid

/-- A call reaches the insertion of a session from the section that made it: the session has the id
drawn there and the address of the call, and no VPN address yet. -/
theorem drawn_cases (h : LockSection addr call st g st' g' ms) {a : Attempt}
    {ip : Option Ipv4Addr} {s : Session} (hst : st' = .insertSession a ip s) :
    s.sessionId = g.sessionManager.nextId ∧ s.vpnIp = none ∧ s.clientAddr = addr := by
  cases h with
  | quiet hbook hquiet => exact absurd hst (hquiet.published a ip s)
  | validated a client sid => cases hst
  | offered t => cases hst
  | drawn hid hip haddr hbook =>
      cases hst
      exact ⟨hid, hip, haddr⟩
  | inserted a ip s => cases hst
  | assigned a' ip' sid => exact absurd hst ((a'.resume_ok sid).2.2.2.2 a ip s)
  | rolledBack g hst' howns =>
      rw [hst] at howns
      cases howns
  | cleaned client t => cases hst
  | marked t padded plaintext hstrip hbook => cases hst
  | removed t plaintext r hnew hshutdown hbook => cases hst

/-- A call goes on with its session, with one that it has just put in the session map, or with one
that it has found there. -/
theorem uses_cases (h : LockSection addr call st g st' g' ms) {sid : SessionId}
    (hsid : st'.uses = some sid) :
    st.uses = some sid ∨ sid ∈ g.sessionManager.sessions ∨
      ∃ a ip s, st = .insertSession a ip s ∧ s.sessionId = sid := by
  cases h with
  | quiet hbook hst =>
      rcases hst.uses with huses | huses | ⟨sid', hlive, huses⟩
      · exact Or.inl (huses ▸ hsid)
      · rw [huses] at hsid
        cases hsid
      · rw [huses] at hsid
        cases hsid
        exact Or.inr (Or.inl hlive)
  | validated a client sid => exact Or.inl hsid
  | offered t g ht =>
      subst ht
      exact Or.inl hsid
  | drawn hid hip haddr hbook => cases hsid
  | inserted a ip s =>
      -- the stage names the session it is about to insert
      cases hsid
      exact Or.inr (Or.inr ⟨a, ip, s, rfl, rfl⟩)
  | assigned a ip sid' =>
      rw [(a.resume_ok sid').2.2.2.1] at hsid
      exact Or.inl hsid
  | rolledBack g hst howns hassigned hunvalidated huses =>
      rw [huses] at hsid
      cases hsid
  | cleaned client t => exact Or.inl hsid
  | marked t padded plaintext hstrip hbook => exact Or.inl hsid
  | removed t plaintext r hnew hshutdown hbook => cases hsid

/-- A milestone is about the session of the call. -/
theorem milestone_uses (h : LockSection addr call st g st' g' ms) {m : Milestone}
    (hm : ms = some m) : st.uses = some m.sessionId := by
  cases h with
  | quiet => cases hm
  | validated a client sid =>
      cases hm
      rfl
  | offered t =>
      cases hm
      rfl
  | drawn => cases hm
  | inserted => cases hm
  | assigned a ip sid =>
      obtain ⟨vpnIp, -, rfl⟩ := Option.map_eq_some_iff.1 hm
      rfl
  | rolledBack => cases hm
  | cleaned client t =>
      obtain ⟨vpnIp, -, rfl⟩ := Option.map_eq_some_iff.1 hm
      rfl
  | marked t padded plaintext hstrip hbook =>
      cases hm
      rfl
  | removed => cases hm

end LockSection

namespace Pool

/-- The session has been in the session map: its id was drawn, and no call is about to insert it. -/
structure Known (p : Pool) (sid : SessionId) : Prop where
  drawn : sid < p.gateway.sessionManager.nextId
  inserted : ∀ i a ip s, (p.calls i).stage = .insertSession a ip s → s.sessionId ≠ sid

/-- Who holds which session. A session in the making belongs to the call that drew its id; every
other session that the gateway or a call refers to has been in the session map. -/
structure Ownership (p : Pool) : Prop where
  arrived : ∀ i, p.arrived ≤ i → (p.calls i).stage.isFinished = true
  live : ∀ sid ∈ p.gateway.sessionManager.sessions, p.Known sid
  drawn : ∀ i sid, (p.calls i).stage.owns = some sid → sid < p.gateway.sessionManager.nextId
  unique : ∀ i j sid, (p.calls i).stage.owns = some sid → (p.calls j).stage.owns = some sid → i = j
  used : ∀ i sid, (p.calls i).stage.uses = some sid → p.Known sid
  reached : ∀ m ∈ p.milestones, p.Known m.sessionId

/-- The pool after a section of call `i`. -/
def move (p : Pool) (i : Nat) (st : Stage) (g : Gateway) (ms : Option Milestone) : Pool :=
  { p with
    gateway := g
    calls := Function.update p.calls i { p.calls i with stage := st }
    milestones := ms.toList ++ p.milestones }

theorem move_stage (p : Pool) (i j : Nat) (st : Stage) (g : Gateway) (ms : Option Milestone) :
    ((p.move i st g ms).calls j).stage = if j = i then st else (p.calls j).stage := by
  unfold move
  by_cases h : j = i
  · subst h
    simp
  · simp [h]

theorem move_dispatchedFor (p : Pool) (i j : Nat) (st : Stage) (g : Gateway)
    (ms : Option Milestone) :
    ((p.move i st g ms).calls j).dispatchedFor = (p.calls j).dispatchedFor := by
  unfold move
  by_cases h : j = i
  · subst h
    simp
  · simp [h]

section

variable {p : Pool} {i : Nat} {st : Stage} {g : Gateway} {ms : Option Milestone}

theorem Known.move {sid : SessionId} (hk : p.Known sid)
    (h : LockSection (p.calls i).clientAddr i (p.calls i).stage p.gateway st g ms) :
    (p.move i st g ms).Known sid where
  drawn := lt_of_lt_of_le hk.drawn h.nextId_le
  inserted := by
    intro j a ip s hst
    rw [move_stage] at hst
    by_cases hj : j = i
    · rw [if_pos hj] at hst
      rw [(h.drawn_cases hst).1]
      exact (ne_of_lt hk.drawn).symm
    · rw [if_neg hj] at hst
      exact hk.inserted j a ip s hst

/-- Once it is inserted, the session of a call is known. -/
theorem Ownership.known_inserted (ho : p.Ownership)
    (h : LockSection (p.calls i).clientAddr i (p.calls i).stage p.gateway st g ms) {a : Attempt}
    {ip : Option Ipv4Addr} {s : Session} (hi : (p.calls i).stage = .insertSession a ip s) :
    (p.move i st g ms).Known s.sessionId := by
  have howns : (p.calls i).stage.owns = some s.sessionId := by
    rw [hi]
    rfl
  have hdrawn := ho.drawn i _ howns
  refine ⟨lt_of_lt_of_le hdrawn h.nextId_le, fun j b ip' s' hst => ?_⟩
  rw [move_stage] at hst
  by_cases hj : j = i
  · rw [if_pos hj] at hst
    rw [(h.drawn_cases hst).1]
    exact (ne_of_lt hdrawn).symm
  · rw [if_neg hj] at hst
    intro heq
    have hother : (p.calls j).stage.owns = some s.sessionId := by
      rw [hst, ← heq]
      rfl
    exact hj (ho.unique j i _ hother howns)

/-- A section keeps the order of ownership. -/
theorem Ownership.move (ho : p.Ownership) (hi : i < p.arrived)
    (h : LockSection (p.calls i).clientAddr i (p.calls i).stage p.gateway st g ms) :
    (p.move i st g ms).Ownership where
  arrived := by
    intro j hj
    rw [move_stage, if_neg (by intro h; exact absurd (h ▸ hi) (not_lt.2 hj))]
    exact ho.arrived j hj
  live := by
    intro sid hsid
    rcases h.sessions_mem hsid with hold | ⟨a, ip, s, hst, rfl⟩
    · exact (ho.live sid hold).move h
    · exact ho.known_inserted h hst
  drawn := by
    intro j sid hsid
    rw [move_stage] at hsid
    by_cases hj : j = i
    · rw [if_pos hj] at hsid
      rcases h.owns_cases hsid with hold | ⟨rfl, hnext⟩
      · exact lt_of_lt_of_le (ho.drawn i sid hold) h.nextId_le
      · exact hnext ▸ Nat.lt_succ_self _
    · rw [if_neg hj] at hsid
      exact lt_of_lt_of_le (ho.drawn j sid hsid) h.nextId_le
  unique := by
    -- an id that call `i` has just drawn is above all others
    have hnew : ∀ j sid, j ≠ i → (p.calls j).stage.owns = some sid → st.owns = some sid →
        (p.calls i).stage.owns = some sid := by
      intro j sid hj hsid hi
      rcases h.owns_cases hi with hold | ⟨rfl, -⟩
      · exact hold
      · exact absurd (ho.drawn j _ hsid) (lt_irrefl _)
    intro j k sid hjsid hksid
    rw [move_stage] at hjsid hksid
    by_cases hj : j = i
    · by_cases hk : k = i
      · rw [hj, hk]
      · rw [if_pos hj] at hjsid
        rw [if_neg hk] at hksid
        exact absurd (ho.unique k i sid hksid (hnew k sid hk hksid hjsid)) hk
    · rw [if_neg hj] at hjsid
      by_cases hk : k = i
      · rw [if_pos hk] at hksid
        exact absurd (ho.unique j i sid hjsid (hnew j sid hj hjsid hksid)) hj
      · rw [if_neg hk] at hksid
        exact ho.unique j k sid hjsid hksid
  used := by
    intro j sid hsid
    rw [move_stage] at hsid
    by_cases hj : j = i
    · rw [if_pos hj] at hsid
      rcases h.uses_cases hsid with hold | hlive | ⟨a, ip, s, hst, rfl⟩
      · exact (ho.used i sid hold).move h
      · exact (ho.live sid hlive).move h
      · exact ho.known_inserted h hst
    · rw [if_neg hj] at hsid
      exact (ho.used j sid hsid).move h
  reached := by
    intro m hm
    rcases List.mem_append.1 hm with hnew | hold
    · have hms : ms = some m := Option.mem_toList.1 hnew
      exact (ho.used i _ (h.milestone_uses hms)).move h
    · exact (ho.reached m hold).move h

end

/-! ## Steps of the pool -/

/-- What a task does to the address book: nothing, the removal of sessions by the cleanup of
expired ones, or another order of the session map. -/
theorem task_addressBook (P : Primitives) (rng : Randomness) (cfg : GatewayConfig) (env : Env)
    (t : Task) (g : Gateway) :
    (g.step P rng cfg (env, t.event)).addressBook = g.addressBook ∨
    (t = .cleanup ∧ ∃ sids, (g.step P rng cfg (env, t.event)).addressBook =
      (g.sessionManager.removeSessions sids).addressBook) ∨
    ∃ sids, sids.Perm g.sessionManager.sessions ∧
      (g.step P rng cfg (env, t.event)).addressBook = { g.addressBook with sessions := sids } := by
  cases t with
  | tun packet => exact Or.inl (Gateway.keeps_addressBook_tunRead P cfg env packet g)
  | rotateMask sid maskData =>
      exact Or.inl (Gateway.keeps_addressBook_rotateMask P rng env sid maskData g)
  | cleanup => exact Or.inr (Or.inl ⟨rfl, _, rfl⟩)
  | reload clients => exact Or.inl rfl
  | rehash sids =>
      by_cases hperm : sids.Perm g.sessionManager.sessions
      · refine Or.inr (Or.inr ⟨sids, hperm, ?_⟩)
        simp [Gateway.step, Gateway.perform, Task.event, Gateway.modifyManager, hperm,
          Gateway.addressBook, SessionManager.addressBook]
      · refine Or.inl ?_
        simp [Gateway.step, Gateway.perform, Task.event, Gateway.modifyManager, hperm,
          Gateway.addressBook]

/-- A task draws no session id and adds no session. -/
theorem task_sessions (P : Primitives) (rng : Randomness) (cfg : GatewayConfig) (env : Env)
    (t : Task) (g : Gateway) :
    (g.step P rng cfg (env, t.event)).sessionManager.nextId = g.sessionManager.nextId ∧
      List.Subperm (g.step P rng cfg (env, t.event)).sessionManager.sessions
        g.sessionManager.sessions := by
  rcases task_addressBook P rng cfg env t g with hbook | ⟨-, sids, hbook⟩ | ⟨sids, hperm, hbook⟩
  · rw [Gateway.sessions_of_book hbook]
    exact ⟨Gateway.nextId_of_book hbook, List.Subperm.refl _⟩
  · rw [Gateway.sessions_of_book hbook]
    exact ⟨(Gateway.nextId_of_book hbook).trans (SessionManager.removeSessions_nextId _ sids),
      (g.sessionManager.removeSessions_sublist sids).subperm⟩
  · rw [Gateway.sessions_of_book hbook]
    exact ⟨Gateway.nextId_of_book hbook, hperm.subperm⟩

section

variable {P : Primitives} {rng : Randomness} {cfg : GatewayConfig} {workerCount : Nat}

variable (P rng cfg workerCount) in
/-- What one step of the pool can be: an arrival, a section of a call whose turn it is, a task, or
nothing. -/
theorem step_cases (p : Pool) (e : Env × Event) :
    (∃ packetData addr, e.2 = .arrive packetData addr ∧
      p.step P rng cfg workerCount e = { p with
        calls := Function.update p.calls p.arrived (p.dispatch workerCount packetData addr)
        arrived := p.arrived + 1 }) ∨
    (∃ i st g ms, e.2 = .advance i ∧ p.Ready i ∧
      LockSection (p.calls i).clientAddr i (p.calls i).stage p.gateway st g ms ∧
      p.step P rng cfg workerCount e = p.move i st g ms ∧
      st = (Gateway.advance P rng cfg e.1 (p.calls i).packetData (p.calls i).clientAddr
        (p.calls i).stage p.gateway).1) ∨
    (∃ t, e.2 = .task t ∧ p.step P rng cfg workerCount e =
      { p with gateway := p.gateway.step P rng cfg (e.1, t.event) }) ∨
    ((∃ i, e.2 = .advance i ∧ ¬ p.Ready i) ∧ p.step P rng cfg workerCount e = p) := by
  rcases e with ⟨env, ⟨packetData, addr⟩ | i | t⟩
  · exact Or.inl ⟨_, _, rfl, rfl⟩
  · by_cases hready : p.Ready i
    · refine Or.inr (Or.inl ⟨i, _, _, _, rfl, hready,
        lockSection_of_advance (p.calls i).packetData _ i _ _, if_pos hready, rfl⟩)
    · exact Or.inr (Or.inr (Or.inr ⟨⟨i, rfl, hready⟩, if_neg hready⟩))
  · exact Or.inr (Or.inr (Or.inl ⟨t, rfl, rfl⟩))

/-- An arrival keeps the order of ownership. -/
theorem Ownership.arrive {p : Pool} (ho : p.Ownership) (packetData : Bytes) (addr : SocketAddr) :
    ({ p with
      calls := Function.update p.calls p.arrived (p.dispatch workerCount packetData addr)
      arrived := p.arrived + 1 } : Pool).Ownership := by
  have hstage : ∀ j, (Function.update p.calls p.arrived (p.dispatch workerCount packetData addr)
      j).stage = if j = p.arrived then .lookup else (p.calls j).stage := by
    intro j
    by_cases h : j = p.arrived
    · subst h
      simp [dispatch]
    · simp [h]
  have hknown : ∀ {sid}, p.Known sid → ({ p with
      calls := Function.update p.calls p.arrived (p.dispatch workerCount packetData addr)
      arrived := p.arrived + 1 } : Pool).Known sid := by
    intro sid hk
    refine ⟨hk.drawn, fun j a ip s hst => ?_⟩
    -- the new call starts at its lookup, where it holds no session
    simp only [hstage] at hst
    split_ifs at hst
    exact hk.inserted j a ip s hst
  refine ⟨?_, fun sid hsid => hknown (ho.live sid hsid), ?_, ?_, ?_,
    fun m hm => hknown (ho.reached m hm)⟩
  · intro j hj
    have hne : j ≠ p.arrived := Nat.ne_of_gt hj
    simp only [hstage, if_neg hne]
    exact ho.arrived j (Nat.le_of_succ_le hj)
  · intro j sid hsid
    simp only [hstage] at hsid
    split_ifs at hsid
    · cases hsid
    · exact ho.drawn j sid hsid
  · intro j k sid hj hk
    simp only [hstage] at hj hk
    split_ifs at hj
    · cases hj
    · split_ifs at hk
      · cases hk
      · exact ho.unique j k sid hj hk
  · intro j sid hsid
    simp only [hstage] at hsid
    split_ifs at hsid
    · cases hsid
    · exact hknown (ho.used j sid hsid)

/-- A change of the gateway that draws no id and adds no session keeps the order of ownership. -/
theorem Ownership.gateway {p : Pool} (ho : p.Ownership) {g : Gateway}
    (hnext : g.sessionManager.nextId = p.gateway.sessionManager.nextId)
    (hsessions : ∀ sid ∈ g.sessionManager.sessions, sid ∈ p.gateway.sessionManager.sessions) :
    ({ p with gateway := g } : Pool).Ownership := by
  have hknown : ∀ {sid}, p.Known sid → ({ p with gateway := g } : Pool).Known sid := by
    intro sid hk
    exact ⟨hnext ▸ hk.drawn, hk.inserted⟩
  refine ⟨ho.arrived, fun sid hsid => hknown (ho.live sid (hsessions sid hsid)),
    fun j sid hsid => hnext ▸ ho.drawn j sid hsid, ho.unique,
    fun j sid hsid => hknown (ho.used j sid hsid), fun m hm => hknown (ho.reached m hm)⟩

variable (P rng cfg workerCount) in
theorem Ownership.step {p : Pool} (ho : p.Ownership) (e : Env × Event) :
    (p.step P rng cfg workerCount e).Ownership := by
  rcases step_cases P rng cfg workerCount p e with
    ⟨packetData, addr, -, hp⟩ | ⟨i, st, g, ms, -, hready, hsec, hp, -⟩ | ⟨t, -, hp⟩ | ⟨-, hp⟩
  · rw [hp]
    exact ho.arrive packetData addr
  · rw [hp]
    exact ho.move hready.1 hsec
  · rw [hp]
    obtain ⟨hnext, hsub⟩ := task_sessions P rng cfg e.1 t p.gateway
    exact ho.gateway hnext fun sid hsid => List.Subperm.subset hsub hsid
  · rw [hp]
    exact ho

theorem Ownership.start {g : Gateway} (hg : g.sessionManager.Allocated) :
    (Pool.start g).Ownership where
  arrived := fun _ _ => rfl
  live := fun sid hsid => ⟨hg sid hsid, fun _ _ _ _ h => by cases h⟩
  drawn := fun _ _ h => by cases h
  unique := fun _ _ _ h => by cases h
  used := fun _ _ h => by cases h
  reached := fun _ h => by cases h

variable (P rng cfg workerCount) in
/-- The order of ownership in every state of every run. -/
theorem ownership_of_run {g : Gateway} (hg : g.sessionManager.Allocated)
    (es : List (Env × Event)) :
    (runFrom (Pool.step P rng cfg workerCount) (Pool.start g) es).Ownership :=
  runFrom_invariant (fun _ e ho => ho.step P rng cfg workerCount e) (Ownership.start hg) es

end

end Pool

end Aivpn
