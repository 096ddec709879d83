import Aivpn.Server.WorkerSteps
import Aivpn.Server.LegacyMode

/-!
# The session limits

`create_session` counts the sessions in one section and inserts the new one in a later section,
and a datagram from another endpoint rewrites the address that is counted. The limits hold in every
run in which few enough sessions come between the two sections of a call, and no session moves to a
client IP that has five (`limits_of_uncontended`). Six handshakes that count before any of them
inserts are all admitted (`handshakes_exceed_limit`).
-/

set_option autoImplicit false

namespace Aivpn

open Aivpn.Lib

section

universe u v

variable {α : Type u} {β : Type v} [DecidableEq α] {f : α → β} {q : β → Bool} {l : List α} {a : α}

/-- The count over a list without duplicates after the value at one member is replaced. -/
theorem countP_update (hl : l.Nodup) (ha : a ∈ l) (b : β) :
    l.countP (fun x => q (Function.update f a b x)) + (if q (f a) then 1 else 0) =
      l.countP (fun x => q (f x)) + (if q b then 1 else 0) := by
  have hperm := List.perm_cons_erase ha
  have hrest : (l.erase a).countP (fun x => q (Function.update f a b x)) =
      (l.erase a).countP fun x => q (f x) := by
    refine List.countP_congr fun x hx => ?_
    have hne : x ≠ a := fun h => (List.Nodup.mem_erase_iff hl).1 hx |>.1 h
    rw [Function.update_of_ne hne]
  rw [hperm.countP_eq, hperm.countP_eq, List.countP_cons, List.countP_cons, hrest,
    Function.update_self]
  omega

end

namespace AddressBook

/-- The number of live sessions whose client has the given IP. -/
def ipCount (book : AddressBook) (ip : IpAddr) : Nat :=
  book.sessions.countP fun sid => (book.clientAddr sid).ip = ip

/-- At most `MAX_SESSIONS` sessions, and at most five for each client IP. -/
structure WithinLimits (book : AddressBook) : Prop where
  sessions : book.sessions.length ≤ maxSessions
  perIp : ∀ ip, book.ipCount ip ≤ 5

/-- Fewer sessions with the same addresses stay within the limits. -/
theorem WithinLimits.of_subperm {book book' : AddressBook} (h : book.WithinLimits)
    (hsub : List.Subperm book'.sessions book.sessions)
    (haddr : book'.clientAddr = book.clientAddr) : book'.WithinLimits := by
  refine ⟨(List.Subperm.length_le hsub).trans h.sessions, fun ip => ?_⟩
  unfold ipCount
  rw [haddr]
  exact (List.Subperm.countP_le _ hsub).trans (h.perIp ip)

/-- The insertion of a session that is not yet live. -/
theorem ipCount_insert {book book' : AddressBook} {sid : SessionId} {addr : SocketAddr}
    (hnew : sid ∉ book.sessions) (hsessions : book'.sessions = book.sessions ++ [sid])
    (haddr : book'.clientAddr = Function.update book.clientAddr sid addr) (ip : IpAddr) :
    book'.ipCount ip = book.ipCount ip + if addr.ip = ip then 1 else 0 := by
  -- the new session is in no count yet
  have hold : book.sessions.countP (fun x => (Function.update book.clientAddr sid addr x).ip = ip) =
      book.ipCount ip := by
    refine List.countP_congr fun x hx => ?_
    have hne : x ≠ sid := fun h => hnew (h ▸ hx)
    rw [Function.update_of_ne hne]
  unfold ipCount at hold ⊢
  rw [hsessions, haddr, List.countP_append, hold, List.countP_singleton, Function.update_self]
  by_cases hip : addr.ip = ip
  · simp [hip]
  · simp [hip]

/-- The migration of a session changes the count of the new IP only where it is another one and the
session is live. -/
theorem ipCount_migrate (book : AddressBook) (hnodup : book.sessions.Nodup) (t : TagMatch)
    (addr : SocketAddr) (ip : IpAddr) :
    (book.migrate t addr).ipCount ip ≤ book.ipCount ip +
      if addr.ip = ip ∧ t.isNewSession = false ∧ t.sessionId ∈ book.sessions ∧
        (book.clientAddr t.sessionId).ip ≠ addr.ip then 1 else 0 := by
  by_cases hnew : t.isNewSession = true
  · have hsame : book.migrate t addr = book := by
      unfold migrate
      rw [if_pos hnew, Function.update_eq_self]
    rw [hsame]
    exact Nat.le_add_right _ _
  rw [Bool.not_eq_true] at hnew
  by_cases hlive : t.sessionId ∈ book.sessions
  · -- the move takes the session out of one count and puts it into another, which may be the same
    have hcount := countP_update (f := book.clientAddr) (q := fun x => decide (x.ip = ip)) hnodup
      hlive addr
    simp only [decide_eq_true_eq] at hcount
    have hmigrate : (book.migrate t addr).ipCount ip =
        book.sessions.countP fun x =>
          decide ((Function.update book.clientAddr t.sessionId addr x).ip = ip) := by
      unfold ipCount migrate
      rw [hnew, if_neg Bool.false_ne_true]
    rw [← hmigrate] at hcount
    unfold ipCount at hcount ⊢
    split_ifs at hcount ⊢ with hold haddr hmoves hmoves <;> grind
  · -- of a session that is not in the map, no address is counted
    refine le_trans (le_of_eq (List.countP_congr fun x hx => ?_)) (Nat.le_add_right _ _)
    have hne : x ≠ t.sessionId := fun h => hlive (h ▸ hx)
    simp only [migrate, Function.update_of_ne hne]

end AddressBook

/-- A call comes to these stages by the section that counts, where there is room. -/
theorem Gateway.advance_counted {P : Primitives} {rng : Randomness} {cfg : GatewayConfig} {env : Env}
    {packetData : Bytes} {addr : SocketAddr} {st : Stage} {g : Gateway}
    (h : (advance P rng cfg env packetData addr st g).1.counted = true) :
    st.counted = true ∨ (∃ a, st = .checkLimits a) ∧ g.sessionManager.HasRoom addr := by
  generalize hst : (advance P rng cfg env packetData addr st g).1 = st' at h
  have hchecked := checked_of_advance P rng cfg env packetData addr g st
  rw [hst] at hchecked
  cases hchecked with
  | nothing hcounted hfailing =>
      rw [hcounted] at h
      cases h
  | limits a ip hsessions hip => exact Or.inr ⟨⟨a, rfl⟩, hsessions, hip⟩
  | drawn => exact Or.inl rfl
  | mismatch => cases h
  | lapsed => cases h

namespace Pool

/-! ## What happens between the two sections -/

/-- The call counts the sessions. -/
def counts (call : Nat) (x : Pool × Env × Event) : Bool :=
  match sectionOf x with
  | some (i, .checkLimits _) => i == call
  | _ => false

/-- The call whose session the step inserts, with the client address of the session. -/
def inserted (x : Pool × Env × Event) : Option (Nat × SocketAddr) :=
  match sectionOf x with
  | some (i, .insertSession _ _ s) => some (i, s.clientAddr)
  | _ => none

/-- The client address to which the step moves a live session from another IP. -/
def movedTo (x : Pool × Env × Event) : Option SocketAddr :=
  match sectionOf x with
  | some (i, .mark t padded) =>
      let addr := (x.1.calls i).clientAddr
      if (stripPadding padded).isOk ∧ t.isNewSession = false ∧
          t.sessionId ∈ x.1.gateway.sessionManager.sessions ∧
          (x.1.gateway.session t.sessionId).clientAddr.ip ≠ addr.ip then some addr
      else none
  | _ => none

/-- The step brings a session to the client IP: a new one, or one from another IP. -/
def comesTo (ip : IpAddr) (x : Pool × Env × Event) : Bool :=
  ((inserted x).map Prod.snd).any (fun addr => addr.ip = ip) ||
    (movedTo x).any fun addr => addr.ip = ip

/-- `n` more are below the limit, or there are none of them. -/
def Fits (counted n limit : Nat) : Prop := n = 0 ∨ counted + n < limit

instance (counted n limit : Nat) : Decidable (Fits counted n limit) :=
  inferInstanceAs (Decidable (_ ∨ _))

/-- Where a session is inserted, no other one has been since its call counted, or so few that with
those counted they are below the limit, and likewise for those that have come to its client IP.
Where a session moves to another client IP, there are fewer than five. -/
def Uncontended (past : List (Pool × Env × Event)) (p : Pool) (e : Env × Event) : Prop :=
  (∀ new ∈ inserted (p, e), ∀ x ∈ past.find? (counts new.1),
    Fits x.1.gateway.sessionManager.sessions.length
      ((since (counts new.1) past).countP fun y => (inserted y).isSome) maxSessions ∧
    Fits (x.1.gateway.sessionManager.ipCount new.2)
      ((since (counts new.1) past).countP (comesTo new.2.ip)) 5) ∧
  ∀ addr ∈ movedTo (p, e), p.gateway.sessionManager.ipCount addr < 5

instance (past : List (Pool × Env × Event)) (p : Pool) (e : Env × Event) :
    Decidable (Uncontended past p e) :=
  inferInstanceAs (Decidable (_ ∧ _))

/-! ## What a step adds to the counts -/

/-- The address book has at most the sessions of before and the one that the step brings. -/
structure Grows (x : Pool × Env × Event) (book : AddressBook) : Prop where
  sessions : book.sessions.length ≤
    x.1.gateway.addressBook.sessions.length + if (inserted x).isSome then 1 else 0
  perIp : ∀ ip, book.ipCount ip ≤
    x.1.gateway.addressBook.ipCount ip + if comesTo ip x then 1 else 0

/-- Fewer sessions with the same addresses. -/
theorem Grows.of_subperm {x : Pool × Env × Event} {book : AddressBook}
    (hsub : List.Subperm book.sessions x.1.gateway.addressBook.sessions)
    (haddr : book.clientAddr = x.1.gateway.addressBook.clientAddr) : Grows x book := by
  refine ⟨(List.Subperm.length_le hsub).trans (Nat.le_add_right _ _), fun ip => ?_⟩
  refine le_trans ?_ (Nat.le_add_right _ _)
  unfold AddressBook.ipCount
  rw [haddr]
  exact List.Subperm.countP_le _ hsub

section

variable {p : Pool} {e : Env × Event} {i : Nat}

/-- The insertion of a session that is not yet live. -/
theorem Grows.of_inserted {a : Attempt} {ip : Option Ipv4Addr} {s : Session}
    (hsection : sectionOf (p, e) = some (i, .insertSession a ip s))
    (hnew : s.sessionId ∉ p.gateway.addressBook.sessions) :
    Grows (p, e) (p.gateway.sessionManager.insertSession s).addressBook := by
  have hinserted : inserted (p, e) = some (i, s.clientAddr) := by
    simp only [inserted, hsection]
  have haddr : (p.gateway.sessionManager.insertSession s).addressBook.clientAddr =
      Function.update p.gateway.addressBook.clientAddr s.sessionId s.clientAddr :=
    Function.comp_update Session.clientAddr p.gateway.sessionManager.heap s.sessionId s
  refine ⟨?_, fun ip => ?_⟩
  · simp only [hinserted, Option.isSome_some, if_true]
    exact List.length_append.le
  · refine (AddressBook.ipCount_insert hnew rfl haddr ip).le.trans (le_of_eq ?_)
    simp [comesTo, movedTo, hsection, hinserted]

/-- A session that moves to another client IP is one that comes to it. -/
theorem Grows.of_marked {t : TagMatch} {padded plaintext : Bytes}
    (hsection : sectionOf (p, e) = some (i, .mark t padded))
    (hnodup : p.gateway.sessionManager.sessions.Nodup) (hstrip : stripPadding padded = .ok plaintext) :
    Grows (p, e) (p.gateway.addressBook.migrate t (p.calls i).clientAddr) := by
  refine ⟨Nat.le_add_right _ _, fun ip => ?_⟩
  refine (p.gateway.addressBook.ipCount_migrate hnodup t (p.calls i).clientAddr ip).trans ?_
  refine Nat.add_le_add_left ?_ _
  split_ifs with hmoves hcomes
  · exact le_rfl
  · refine absurd ?_ hcomes
    have hok : (stripPadding padded).isOk = true := by
      rw [hstrip]
      rfl
    have hmoved : movedTo (p, e) = some (p.calls i).clientAddr := by
      simp only [movedTo, hsection]
      exact if_pos ⟨hok, hmoves.2⟩
    simp [comesTo, hmoved, hmoves.1]
  · exact Nat.zero_le _
  · exact le_rfl

end

/-- The session map within its limits, without duplicates, and with its sessions in order. -/
structure Limited (p : Pool) : Prop where
  ownership : p.Ownership
  nodup : p.gateway.sessionManager.sessions.Nodup
  limits : p.gateway.addressBook.WithinLimits

section

variable (P : Primitives) (rng : Randomness) (cfg : GatewayConfig) (workerCount : Nat)

/-- A section of a call brings the session that it inserts or moves, and no other. -/
theorem Limited.grows_section {p : Pool} (hp : p.Limited) {e : Env × Event} {i : Nat} {st : Stage}
    {g : Gateway} {ms : Option Milestone} (hsection : sectionOf (p, e) = some (i, (p.calls i).stage))
    (hsec : LockSection (p.calls i).clientAddr i (p.calls i).stage p.gateway st g ms) :
    Grows (p, e) g.addressBook := by
  have hremoves : ∀ m : SessionManager, m.sessions.Sublist p.gateway.sessionManager.sessions →
      (∀ sid, (m.heap sid).clientAddr = (p.gateway.session sid).clientAddr) →
      Grows (p, e) m.addressBook := fun m hsessions haddr =>
    Grows.of_subperm hsessions.subperm (funext haddr)
  have hsame : Grows (p, e) p.gateway.addressBook := Grows.of_subperm (List.Subperm.refl _) rfl
  generalize hst : (p.calls i).stage = st₀ at hsec hsection
  cases hsec with
  | quiet hbook hquiet => exact hbook ▸ hsame
  | validated a client sid => exact hsame
  | offered t => exact hsame
  | drawn hid hip haddr hbook => exact hbook ▸ Grows.of_subperm (List.Subperm.refl _) rfl
  | inserted a ip s =>
      exact .of_inserted hsection fun h => (hp.ownership.live _ h).inserted i a ip s hst rfl
  | assigned a ip sid =>
      have hbook := p.gateway.sessionManager.mapVpnIp_addressBook sid
        (a.client.map ClientConfig.vpnIp) ip
      obtain ⟨hsessions, -, haddr⟩ := p.gateway.sessionManager.addressBook.assign_sessions sid
        (p.gateway.sessionManager.assignVpnIp (a.client.map ClientConfig.vpnIp) ip).1
      rw [← hbook] at hsessions haddr
      exact Grows.of_subperm (hsessions ▸ List.Subperm.refl _) haddr
  | @rolledBack _ _ sid _ hst' =>
      refine hremoves (p.gateway.sessionManager.rollbackFailedSession sid) ?_ fun other => ?_
      · rw [SessionManager.rollbackFailedSession_sessions]
        exact p.gateway.sessionManager.removeSession_sublist _
      · rw [SessionManager.rollbackFailedSession_heap]
        rfl
  | cleaned client t =>
      refine hremoves _ (p.gateway.sessionManager.establish_sublist t.sessionId _) fun sid => ?_
      exact congrArg (fun heap : SessionId → Session => (heap sid).clientAddr)
        (SessionManager.establish_heap _ _ _)
  | marked t padded plaintext hstrip hbook =>
      exact hbook ▸ .of_marked hsection hp.nodup hstrip
  | removed t plaintext r hnew hshutdown hbook =>
      rw [hbook]
      refine hremoves _ (p.gateway.sessionManager.removeSession_sublist _) fun sid => ?_
      rw [SessionManager.removeSession_heap]
      rfl

/-- A step brings the session that it inserts or moves, and no other. -/
theorem Limited.grows_step {p : Pool} (hp : p.Limited) (e : Env × Event) :
    Grows (p, e) (p.step P rng cfg workerCount e).gateway.addressBook := by
  have hsame : Grows (p, e) p.gateway.addressBook := Grows.of_subperm (List.Subperm.refl _) rfl
  rcases step_cases P rng cfg workerCount p e with
    ⟨packetData, addr, he, hstep⟩ | ⟨i, st, g, ms, he, hready, hsec, hstep, -⟩ | ⟨t, he, hstep⟩ |
    ⟨-, hstep⟩
  · rw [hstep]
    exact hsame
  · rw [hstep]
    exact hp.grows_section (by simp only [sectionOf, he, if_pos hready]) hsec
  · rw [hstep]
    rcases task_addressBook P rng cfg e.1 t p.gateway with hbook | ⟨-, sids, hbook⟩ |
      ⟨sids, hperm, hbook⟩
    · rw [hbook]
      exact hsame
    · rw [hbook]
      exact Grows.of_subperm (p.gateway.sessionManager.removeSessions_sublist sids).subperm
        (by simp [SessionManager.addressBook, Gateway.addressBook])
    · rw [hbook]
      exact Grows.of_subperm hperm.subperm rfl
  · rw [hstep]
    exact hsame

theorem Limited.nodup_step {p : Pool} (hp : p.Limited) (e : Env × Event) :
    (p.step P rng cfg workerCount e).gateway.sessionManager.sessions.Nodup := by
  rcases step_cases P rng cfg workerCount p e with
    ⟨packetData, addr, -, hstep⟩ | ⟨i, st, g, ms, -, -, hsec, hstep, -⟩ | ⟨t, -, hstep⟩ | ⟨-, hstep⟩
  · rw [hstep]
    exact hp.nodup
  · rw [hstep]
    rcases hsec.sessions_cases with hsub | ⟨a, ip, s, hst, hsessions⟩
    · exact hp.nodup.sublist hsub
    · have hnew : s.sessionId ∉ p.gateway.sessionManager.sessions := fun h =>
        (hp.ownership.live _ h).inserted i a ip s hst rfl
      exact hsessions ▸ hp.nodup.append (List.nodup_singleton _) (List.disjoint_singleton.2 hnew)
  · rw [hstep]
    obtain ⟨sids, hperm, hsub⟩ := (task_sessions P rng cfg e.1 t p.gateway).2
    exact hperm.nodup_iff.1 (hp.nodup.sublist hsub)
  · rw [hstep]
    exact hp.nodup

/-- The limits hold behind a step that finds room for what it brings. -/
theorem Limited.step {p : Pool} (hp : p.Limited) {e : Env × Event}
    (hinserted : ∀ new ∈ inserted (p, e), p.gateway.sessionManager.HasRoom new.2)
    (hmoved : ∀ addr ∈ movedTo (p, e), p.gateway.sessionManager.ipCount addr < 5) :
    (p.step P rng cfg workerCount e).Limited := by
  obtain ⟨hsessions, hperIp⟩ := hp.grows_step P rng cfg workerCount e
  refine ⟨hp.ownership.step P rng cfg workerCount e, hp.nodup_step P rng cfg workerCount e, ?_,
    fun ip => ?_⟩
  · refine hsessions.trans ?_
    split_ifs with hnew
    · obtain ⟨new, hnew⟩ := Option.isSome_iff_exists.1 hnew
      exact (hinserted new hnew).1
    · exact hp.limits.sessions
  · refine (hperIp ip).trans ?_
    split_ifs with hcomes
    · -- the session that comes to the IP is a new one, or one that moves
      rw [comesTo, Bool.or_eq_true, Option.any_eq_true, Option.any_eq_true] at hcomes
      rcases hcomes with ⟨addr, hnew, hip⟩ | ⟨addr, hmove, hip⟩
      · obtain ⟨new, hmem, rfl⟩ := Option.map_eq_some_iff.1 hnew
        exact of_decide_eq_true hip ▸ (hinserted new hmem).2
      · exact of_decide_eq_true hip ▸ hmoved addr hmove
    · exact hp.limits.perIp ip

/-! ## From the count to the insertion -/

/-- The call has counted `x.1`, with room for a session of the client address, and the address book
has at most the sessions that it counted and those that have come since. -/
structure Counted (past : List (Pool × Env × Event)) (call : Nat) (addr : SocketAddr)
    (book : AddressBook) (x : Pool × Env × Event) : Prop where
  found : past.find? (counts call) = some x
  room : x.1.gateway.sessionManager.HasRoom addr
  sessions : book.sessions.length ≤ x.1.gateway.sessionManager.sessions.length +
    (since (counts call) past).countP fun y => (inserted y).isSome
  perIp : book.ipCount addr.ip ≤ x.1.gateway.sessionManager.ipCount addr +
    (since (counts call) past).countP (comesTo addr.ip)

section

variable {past : List (Pool × Env × Event)} {call : Nat} {addr : SocketAddr} {book : AddressBook}
  {x y : Pool × Env × Event}

/-- Another step of the run. -/
theorem Counted.next (h : Counted past call addr y.1.gateway.addressBook x)
    (hother : counts call y = false) (hgrows : Grows y book) :
    Counted (y :: past) call addr book x where
  found := (List.find?_cons_of_neg (by simp [hother])).trans h.found
  room := h.room
  sessions := by
    rw [since_cons_of_neg hother, List.countP_cons]
    exact hgrows.sessions.trans (by have := h.sessions; omega)
  perIp := by
    rw [since_cons_of_neg hother, List.countP_cons]
    exact (hgrows.perIp addr.ip).trans (by have := h.perIp; omega)

/-- The count itself, which leaves the address book alone. -/
theorem Counted.first (hcounts : counts call y = true) (hroom : y.1.gateway.sessionManager.HasRoom addr)
    (hbook : book = y.1.gateway.addressBook) : Counted (y :: past) call addr book y where
  found := List.find?_cons_of_pos hcounts
  room := hroom
  sessions := by
    rw [hbook]
    exact Nat.le_add_right _ _
  perIp := by
    rw [hbook]
    exact Nat.le_add_right _ _

theorem lt_of_fits {counted now n limit : Nat} (hfits : Fits counted n limit)
    (hroom : counted < limit) (hnow : now ≤ counted + n) : now < limit := by
  rcases hfits with rfl | hlt
  · exact hnow.trans_lt hroom
  · exact hnow.trans_lt hlt

/-- Where few enough have come, there is still room. -/
theorem Counted.hasRoom {m : SessionManager} (h : Counted past call addr m.addressBook x)
    (hsessions : Fits x.1.gateway.sessionManager.sessions.length
      ((since (counts call) past).countP fun y => (inserted y).isSome) maxSessions)
    (hperIp : Fits (x.1.gateway.sessionManager.ipCount addr)
      ((since (counts call) past).countP (comesTo addr.ip)) 5) : m.HasRoom addr :=
  ⟨lt_of_fits hsessions h.room.1 h.sessions, lt_of_fits hperIp h.room.2 h.perIp⟩

end

theorem sectionOf_eq_some {x : Pool × Env × Event} {i : Nat} {st : Stage}
    (h : sectionOf x = some (i, st)) :
    x.2.2 = .advance i ∧ x.1.Ready i ∧ (x.1.calls i).stage = st := by
  unfold sectionOf at h
  split at h
  · split_ifs at h with hready
    cases h
    exact ⟨‹_›, hready, rfl⟩
  · cases h

theorem inserted_eq_some {x : Pool × Env × Event} {new : Nat × SocketAddr}
    (h : inserted x = some new) : ∃ a ip s, (x.1.calls new.1).stage = .insertSession a ip s ∧
      s.clientAddr = new.2 := by
  unfold inserted at h
  split at h
  · next i a ip s hsection =>
      cases h
      exact ⟨a, ip, s, (sectionOf_eq_some hsection).2.2, rfl⟩
  · cases h

/-- The limits hold, and every call that has counted the sessions and not inserted its own is
followed since its count. -/
structure Watched (past : List (Pool × Env × Event)) (p : Pool) : Prop where
  limited : p.Limited
  inserting : ∀ i a ip s, (p.calls i).stage = .insertSession a ip s →
    s.clientAddr = (p.calls i).clientAddr
  counted : ∀ i, (p.calls i).stage.counted = true →
    ∃ x, Counted past i (p.calls i).clientAddr p.gateway.addressBook x

section

variable {past : List (Pool × Env × Event)} {p : Pool} {e : Env × Event}

theorem Watched.limited_step (h : Watched past p) (hfew : Uncontended past p e) :
    (p.step P rng cfg workerCount e).Limited := by
  refine h.limited.step P rng cfg workerCount (fun new hnew => ?_) hfew.2
  obtain ⟨a, ip, s, hst, haddr⟩ := inserted_eq_some hnew
  obtain ⟨x, hx⟩ := h.counted new.1 (by rw [hst]; rfl)
  rw [← h.inserting new.1 a ip s hst, haddr] at hx
  obtain ⟨hsessions, hperIp⟩ := hfew.1 new hnew x hx.found
  exact hx.hasRoom hsessions hperIp

/-- A call that stands where it stood is followed on. -/
theorem Watched.counted_next (h : Watched past p) {i : Nat}
    (hcounted : (p.calls i).stage.counted = true) :
    ∃ x, Counted ((p, e) :: past) i (p.calls i).clientAddr
      (p.step P rng cfg workerCount e).gateway.addressBook x := by
  obtain ⟨x, hx⟩ := h.counted i hcounted
  refine ⟨x, hx.next ?_ (h.limited.grows_step P rng cfg workerCount e)⟩
  -- a call that counts has not counted yet
  unfold counts
  split
  · next j a hsection =>
      rw [beq_eq_false_iff_ne]
      rintro rfl
      rw [(sectionOf_eq_some hsection).2.2] at hcounted
      cases hcounted
  · rfl

theorem Watched.step (h : Watched past p) (hfew : Uncontended past p e) :
    Watched ((p, e) :: past) (p.step P rng cfg workerCount e) := by
  have hlimited : (p.step P rng cfg workerCount e).Limited :=
    h.limited_step P rng cfg workerCount hfew
  have hnext := fun i => @Watched.counted_next P rng cfg workerCount past p e h i
  rcases step_cases P rng cfg workerCount p e with
    ⟨packetData, addr, -, hstep⟩ | ⟨i, st, g, ms, he, hready, hsec, hstep, hst⟩ | ⟨t, -, hstep⟩ |
    ⟨-, hstep⟩
  · rw [hstep] at hlimited hnext ⊢
    refine ⟨hlimited, fun j a ip s hst => ?_, fun j hst => ?_⟩
    -- the new call is at its lookup
    · by_cases hj : j = p.arrived
      · simp only [hj, Function.update_self] at hst
        cases hst
      · simp only [Function.update_of_ne hj] at hst ⊢
        exact h.inserting j a ip s hst
    · by_cases hj : j = p.arrived
      · simp only [hj, Function.update_self] at hst
        cases hst
      · simp only [Function.update_of_ne hj] at hst ⊢
        exact hnext j hst
  · rw [hstep] at hlimited hnext ⊢
    have haddr : ∀ j, ((p.move i st g ms).calls j).clientAddr = (p.calls j).clientAddr := by
      intro j
      by_cases hj : j = i
      · subst hj
        simp [move]
      · simp [move, hj]
    refine ⟨hlimited, fun j a ip s hins => ?_, fun j hcounted => ?_⟩
    · rw [haddr]
      rw [move_stage] at hins
      split_ifs at hins with hj
      · subst hj
        exact (hsec.drawn_cases hins).2.2
      · exact h.inserting j a ip s hins
    · rw [haddr]
      rw [move_stage] at hcounted
      split_ifs at hcounted with hj
      · subst hj
        rw [hst] at hcounted
        rcases Gateway.advance_counted hcounted with hbefore | ⟨⟨a, ha⟩, hroom⟩
        · exact hnext j hbefore
        · have hsection : sectionOf (p, e) = some (j, .checkLimits a) := by
            simp only [sectionOf, he, if_pos hready, ha]
          refine ⟨(p, e), Counted.first ?_ hroom ?_⟩
          · simp only [counts, hsection, beq_self_eq_true]
          · rw [ha] at hsec
            cases hsec with
            | quiet hbook _ => exact hbook
            | rolledBack _ hst' => rcases hst' with ⟨_, heq⟩ | ⟨_, heq⟩ <;> cases heq
      · exact hnext j hcounted
  · rw [hstep] at hlimited hnext ⊢
    exact ⟨hlimited, h.inserting, hnext⟩
  · rw [hstep] at hlimited hnext ⊢
    exact ⟨hlimited, h.inserting, hnext⟩

end

theorem watched_start (serverKeys : KeyPair) (signingKey : Key)
    (clientDb : Option (List ClientConfig)) :
    Watched [] (start (Gateway.new serverKeys signingKey clientDb)) where
  limited := ⟨Ownership.start (fun _ h => by cases h), List.nodup_nil, Nat.zero_le _,
    fun _ => Nat.zero_le _⟩
  inserting := fun _ _ _ _ h => by cases h
  counted := fun _ h => by cases h

end

end Pool

/-- The limits hold in every state of a run in which few enough sessions come between the count and
the insertion of a call, and none moves to a client IP that has five. -/
theorem limits_of_uncontended (P : Primitives) (rng : Randomness) (cfg : GatewayConfig)
    (workerCount : Nat) (serverKeys : KeyPair) (signingKey : Key)
    (clientDb : Option (List ClientConfig)) (es : List (Env × Pool.Event))
    (hfew : AlongPast (Pool.step P rng cfg workerCount) Pool.Uncontended
      (Pool.start (Gateway.new serverKeys signingKey clientDb)) es) :
    Along (Pool.step P rng cfg workerCount) (fun p e =>
        (p.step P rng cfg workerCount e).gateway.addressBook.WithinLimits)
      (Pool.start (Gateway.new serverKeys signingKey clientDb)) es := by
  have hstep : ∀ past p e, Pool.Watched past p → Pool.Uncontended past p e →
      Pool.Watched ((p, e) :: past) (p.step P rng cfg workerCount e) :=
    fun _ _ _ h hfew => h.step P rng cfg workerCount hfew
  have hlimits : ∀ past p e, Pool.Watched past p → Pool.Uncontended past p e →
      (p.step P rng cfg workerCount e).gateway.addressBook.WithinLimits :=
    fun _ _ _ h hfew => (h.limited_step P rng cfg workerCount hfew).limits
  exact hfew.imp_of_invariant hstep hlimits (Pool.watched_start serverKeys signingKey clientDb)

/-- The datagrams of six clients behind one address. -/
def sampleRivals : List (Env × Pool.Event) :=
  (List.range 6).map fun k => (sampleEnv 100, .arrive (sampleLegacyInit (5 + 8 * k))
    { sampleAddr with port := UInt16.ofNat (4000 + k) })

/-- Two of them, whose calls take turns until both sessions are inserted. -/
def sampleUncontended : List (Env × Pool.Event) :=
  sampleRivals.take 2 ++ (List.range 12).map fun k => (sampleEnv 100, .advance (k % 2))

/-- Both count before either inserts its session, which leaves room for the other. -/
theorem sampleUncontended_limits :
    Along (Pool.step samplePrimitives sampleRandomness sampleConfig 16) (fun p e =>
        (p.step samplePrimitives sampleRandomness sampleConfig 16 e).gateway.addressBook.WithinLimits)
      (Pool.start (Gateway.new sampleServerKeys default none)) sampleUncontended :=
  limits_of_uncontended samplePrimitives sampleRandomness sampleConfig 16 sampleServerKeys default
    none sampleUncontended (by decide +kernel)

/-- One section of each of the six calls. -/
def sampleRound : List (Env × Pool.Event) :=
  (List.range 6).map fun k => (sampleEnv 100, .advance k)

/-- Six handshakes from one address count the sessions before any of them inserts its own: all six
sessions are live. -/
theorem handshakes_exceed_limit :
    ¬ (runFrom (Pool.step samplePrimitives sampleRandomness sampleConfig 16)
      (Pool.start (Gateway.new sampleServerKeys default none))
      (sampleRivals ++ sampleRound ++ sampleRound ++ sampleRound ++ sampleRound ++
        sampleRound)).gateway.addressBook.WithinLimits := by
  have hcount : (runFrom (Pool.step samplePrimitives sampleRandomness sampleConfig 16)
      (Pool.start (Gateway.new sampleServerKeys default none))
      (sampleRivals ++ sampleRound ++ sampleRound ++ sampleRound ++ sampleRound ++
        sampleRound)).gateway.addressBook.ipCount sampleAddr.ip = 6 := by
    decide +kernel
  intro h
  have hfive := h.perIp sampleAddr.ip
  rw [hcount] at hfive
  exact absurd hfive (by decide)

end Aivpn
