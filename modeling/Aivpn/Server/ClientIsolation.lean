import Aivpn.Server.LateInit
import Aivpn.Server.LookupComplete

/-!
# Handshakes and the other clients

A handshake is resolved by creating one session for each registered client in turn and rolling it
back when the tag does not fit. Everything a handshake does to the session it opens leaves the
others alone (`bystanders`), and the removal of older sessions goes by the VPN address, which in a
database of distinct addresses belongs to one client (`Owned`). `handshake_isolation` puts the two
together with the outcome of the loop over the clients.
-/

set_option autoImplicit false

namespace Aivpn

open Aivpn.Lib Action Relation

/-- A session created for a static VPN address has it. -/
theorem SessionManager.createSession_vpnIp {P : Primitives} {rng : Randomness} {env : Env}
    {m m' : SessionManager} {addr : SocketAddr} {ephPub : Key} {psk : Option Key} {ip : Ipv4Addr}
    {sid : SessionId} (h : m.createSession P rng env addr ephPub psk (some ip) = (.ok sid, m')) :
    (m'.heap sid).vpnIp = some ip := by
  obtain ⟨-, -, rfl, dh1, dh2, -, -, rfl⟩ := createSession_ok h
  show (Function.update m.heap m.nextId _ m.nextId).vpnIp = some ip
  rw [Function.update_self]
  rfl

/-! ## The other sessions -/

namespace Gateway

variable (P : Primitives) (rng : Randomness) (cfg : GatewayConfig) (env : Env)

/-- The contents of all sessions but `sid`. -/
def bystanders (sid : SessionId) (g : Gateway) : SessionId → Session :=
  Function.update g.sessionManager.heap sid default

theorem session_eq_of_bystanders {sid other : SessionId} {g g' : Gateway}
    (h : bystanders sid g' = bystanders sid g) (hne : other ≠ sid) :
    g'.session other = g.session other := by
  have hother := congrFun h other
  unfold bystanders at hother
  rwa [Function.update_of_ne hne, Function.update_of_ne hne] at hother

/-- A command that rewrites the cell of one session only. -/
theorem bystanders_of_heap {sid : SessionId} {s : Session} {g g' : Gateway}
    (h : g'.sessionManager.heap = Function.update g.sessionManager.heap sid s) :
    bystanders sid g' = bystanders sid g := by
  unfold bystanders
  rw [h, Function.update_idem]

theorem keeps_bystanders_sendTo (sid sid' : SessionId) (packet : Bytes) (addr : SocketAddr) :
    Keeps (bystanders sid) (sendTo env sid' packet addr) := by
  unfold sendTo
  split_ifs
  · exact fun _ => rfl
  · exact keeps_throw _

theorem keeps_bystanders_sendServerHello (sid : SessionId) (addr : SocketAddr) :
    Keeps (bystanders sid) (sendServerHello P rng env sid addr) := by
  unfold sendServerHello
  refine Keeps.bind (keeps_gets _) fun s => ?_
  split
  · refine Keeps.bind (fun g => bystanders_of_heap rfl) fun packet => ?_
    exact keeps_bystanders_sendTo env sid sid packet addr
  · exact keeps_throw _

theorem keeps_bystanders_recordClient (sid : SessionId) (client : Option ClientConfig) :
    Keeps (bystanders sid) (recordClient sid client) := by
  cases client with
  | none => exact keeps_pure _
  | some client =>
      exact Keeps.bind (fun _ => rfl) fun _ => fun g => bystanders_of_heap rfl

theorem keeps_bystanders_acceptHandshake (sid : SessionId) (client : Option ClientConfig)
    (addr : SocketAddr) : Keeps (bystanders sid) (acceptHandshake P rng env sid client addr) := by
  unfold acceptHandshake
  refine Keeps.bind (fun g => ?_) fun _ => ?_
  · show Function.update (g.sessionManager.establish sid _).heap sid default = bystanders sid g
    rw [SessionManager.establish_heap]
    rfl
  refine Keeps.bind (fun _ => rfl) fun _ => ?_
  exact Keeps.bind (keeps_bystanders_recordClient sid client) fun _ =>
    keeps_bystanders_sendServerHello P rng env sid addr

theorem keeps_bystanders_ratchet (t : TagMatch) :
    Keeps (bystanders t.sessionId) (ratchet t) := by
  unfold ratchet
  split_ifs
  · intro g
    show Function.update ((g.sessionManager.completeSessionRatchet
      t.sessionId).refreshSessionTags t.sessionId).heap t.sessionId default = _
    rw [SessionManager.refreshSessionTags_heap]
    rcases SessionManager.completeSessionRatchet_heap g.sessionManager t.sessionId with heq | heq
    · rw [heq]
      rfl
    · rw [heq, Function.update_idem]
      rfl
  · exact keeps_pure _

theorem keeps_bystanders_receive (t : TagMatch) (addr : SocketAddr) (len : Nat) :
    Keeps (bystanders t.sessionId) (manager fun m => m.receive P env t addr len) :=
  fun g => bystanders_of_heap (SessionManager.receive_heap P env g.sessionManager t addr len)

theorem keeps_bystanders_recordTraffic (sid : SessionId) (flush : Option (String × Nat)) :
    Keeps (bystanders sid) (recordTraffic flush) := by
  cases flush with
  | none => exact keeps_pure _
  | some flush =>
      unfold recordTraffic
      refine Keeps.bind (keeps_gets _) fun clientDb => ?_
      split_ifs
      · exact fun _ => rfl
      · exact keeps_pure _

/-- A datagram whose handshake opened the session `sid`, or failed, touches no other session once
the session is identified, and leaves the session map alone. -/
theorem handlePacket_bystanders {packetData : Bytes} {addr : SocketAddr} {g g₁ : Gateway}
    {r : Outcome TagMatch} {sid : SessionId} (hlen : ¬ packetData.length < tagSize + 2)
    (hid : identify P rng env packetData addr g = (r, g₁))
    (hnew : ∀ t, r = .ok t → t.sessionId = sid ∧ t.isNewSession = true) :
    bystanders sid (handlePacket P rng cfg env packetData addr g).2 = bystanders sid g₁ ∧
      routing (handlePacket P rng cfg env packetData addr g).2 = routing g₁ := by
  have hreceived : bystanders sid (receivePacket P rng env packetData addr g).2 =
      bystanders sid g₁ := by
    unfold receivePacket
    rw [if_neg hlen]
    cases r with
    | error e => rw [bind_of_error hid]
    | ok t =>
        obtain ⟨rfl, -⟩ := hnew t rfl
        rw [bind_of_ok hid]
        -- behind `identify`, every step writes into the new session's cell only
        refine Keeps.bind (keeps_gets _) (fun s => ?_) g₁
        refine Keeps.bind (keeps_ofExcept _) fun padded => ?_
        refine Keeps.bind (keeps_bystanders_ratchet t) fun _ => ?_
        refine Keeps.bind (keeps_ofExcept _) fun plaintext => ?_
        refine Keeps.bind (keeps_bystanders_receive P env t addr _) fun flush => ?_
        exact Keeps.bind (keeps_bystanders_recordTraffic _ flush) fun _ => keeps_pure _
  unfold handlePacket
  rcases hr : receivePacket P rng env packetData addr g with ⟨e | ⟨t, plaintext⟩, g₂⟩
  · obtain ⟨hrouting, -⟩ := receivePacket_cases P rng env hlen hr
    rw [hr] at hreceived
    rw [hid] at hrouting
    rw [bind_of_error hr]
    exact ⟨hreceived, hrouting⟩
  · obtain ⟨hrouting, hok⟩ := receivePacket_cases P rng env hlen hr
    obtain ⟨hidt, -⟩ := hok t plaintext rfl
    rw [hr] at hreceived
    rw [hid] at hrouting hidt
    rw [bind_of_ok hr]
    -- the first datagram of a session carries no inner payload
    simp only
    rw [if_pos (hnew t hidt).2]
    exact ⟨hreceived, hrouting⟩

/-! ## The outcome of a handshake -/

/-- The client a session belongs to, with the VPN address. -/
def owner (sid : SessionId) (g : Gateway) : Option String × Option Ipv4Addr :=
  ((g.session sid).clientId, (g.session sid).vpnIp)

theorem owner_of_heap {sid : SessionId} {s : Session} {g g' : Gateway}
    (h : g'.sessionManager.heap = Function.update g.sessionManager.heap sid s) :
    owner sid g' = (s.clientId, s.vpnIp) := by
  unfold owner session
  rw [h, Function.update_self]

theorem keeps_owner_sendServerHello (sid : SessionId) (addr : SocketAddr) :
    Keeps (owner sid) (sendServerHello P rng env sid addr) := by
  unfold sendServerHello
  refine Keeps.bind (keeps_gets _) fun s => ?_
  split
  · refine Keeps.bind (fun g => ?_) fun packet => ?_
    · exact @owner_of_heap sid (g.session sid).nextSendNonce.2.2 g _ rfl
    · unfold sendTo
      split_ifs
      · exact fun _ => rfl
      · exact keeps_throw _
  · exact keeps_throw _

/-- An accepted handshake identifies its session. -/
theorem owner_acceptHandshake (sid : SessionId) (client : ClientConfig) (addr : SocketAddr)
    (g : Gateway) : owner sid (acceptHandshake P rng env sid (some client) addr g).2 =
      (some client.id, (g.session sid).vpnIp) := by
  have hheap := SessionManager.establish_heap g.sessionManager sid (some client.psk)
  generalize hm : g.sessionManager.establish sid (some client.psk) = m at hheap
  have hrecorded := @owner_of_heap sid { m.heap sid with clientId := some client.id }
    { g with sessionManager := m } { g with sessionManager :=
      (m.setSession sid { m.heap sid with clientId := some client.id }) } rfl
  refine (keeps_owner_sendServerHello P rng env sid addr _).trans ?_
  subst hm
  refine hrecorded.trans ?_
  rw [hheap]
  rfl

/-- The registered client that a datagram authenticates: the one for which the handshake branch
offers a session, when the lookup chain does not know the tag. -/
def authenticatedClient (g : Gateway) (packetData : Bytes) (addr : SocketAddr) :
    Option ClientConfig :=
  if packetData.length < tagSize + 2 then none
  else
    let tag : Tag := readArray 8 0 packetData
    match g.sessionManager.findSession P env tag addr.ip with
    | (.ok none, m) =>
        match offerSession P rng env packetData tag addr { g with sessionManager := m } with
        | (.ok (_, client, _, _), _) => client
        | _ => none
    | _ => none

/-- What the handshake branch leaves behind when it accepts a datagram for `client` in the session
`sid`: `m₀` are the sessions after the failed attempts, `m₁` those with the new one. -/
structure OpensFor (g₁ : Gateway) (r : Outcome TagMatch) (client : ClientConfig) (sid : SessionId)
    (m₀ m₁ : SessionManager) (addr : SocketAddr) (ephPub : Key) : Prop where
  inv : m₀.MapInv
  created : m₀.createSession P rng env addr ephPub (some client.psk) (some client.vpnIp) =
    (.ok sid, m₁)
  result : ∀ t, r = .ok t → t.sessionId = sid ∧ t.isNewSession = true
  others : bystanders sid g₁ = Function.update m₁.heap sid default
  routes : routing g₁ = routing { g₁ with sessionManager := m₁.establish sid (some client.psk) }
  owned : owner sid g₁ = (some client.id, some client.vpnIp)

/-- With a client database, a datagram with an unknown tag either fails as a handshake and leaves the
live sessions as the lookup chain left them, or opens a session for the client it authenticates. -/
theorem identify_handshake {packetData : Bytes} {addr : SocketAddr} {g g₁ : Gateway}
    {r : Outcome TagMatch} {clients : List ClientConfig} {m : SessionManager}
    (hlen : ¬ packetData.length < tagSize + 2) (hm : m.MapInv) (hdb : g.clientDb = some clients)
    (hfs : g.sessionManager.findSession P env (readArray 8 0 packetData) addr.ip = (.ok none, m))
    (hid : identify P rng env packetData addr g = (r, g₁)) :
    (authenticatedClient P rng env g packetData addr = none ∧ (∃ e, r = .error e) ∧
      SessionManager.SameLive m g₁.sessionManager ∧
      (tagSize + mdhLen + 32 ≤ packetData.length →
        offeredClient P rng env { g with sessionManager := m }
          (handshakeEphPub P m.serverKeys.publicKeyBytes packetData) (readArray 8 0 packetData)
          addr clients = none)) ∨
    ∃ client sid m₀ m₁, authenticatedClient P rng env g packetData addr = some client ∧
      offeredClient P rng env { g with sessionManager := m }
        (handshakeEphPub P m.serverKeys.publicKeyBytes packetData) (readArray 8 0 packetData) addr
        clients = some client ∧
      SessionManager.SameLive m m₀ ∧
      ∃ ephPub, OpensFor P rng env g₁ r client sid m₀ m₁ addr ephPub := by
  unfold identify at hid
  rw [bind_of_ok (managerExcept_of_ok hfs)] at hid
  unfold authenticatedClient
  rw [if_neg hlen]
  simp only [hfs]
  simp only [handshake] at hid
  rcases hoffer : offerSession P rng env packetData (readArray 8 0 packetData) addr
    { g with sessionManager := m } with ⟨ro, g₂⟩
  by_cases hshort : packetData.length < tagSize + mdhLen + 32
  · -- the datagram has no room for a key
    refine Or.inl ?_
    have hfail : (∃ e, ro = .error e) ∧ g₂ = { g with sessionManager := m } := by
      unfold offerSession at hoffer
      rw [bind_of_ok (gets_apply _ _)] at hoffer
      split_ifs at hoffer
      · cases hoffer
        exact ⟨⟨_, rfl⟩, rfl⟩
      · cases hoffer
        exact ⟨⟨_, rfl⟩, rfl⟩
    obtain ⟨⟨e, rfl⟩, rfl⟩ := hfail
    rw [bind_of_error hoffer] at hid
    cases hid
    exact ⟨rfl, ⟨_, rfl⟩, SessionManager.SameLive.refl m, fun hge => absurd hshort (Nat.not_lt.2 hge)⟩
  · rcases offerSession_live P rng env (g := { g with sessionManager := m }) (Nat.not_lt.1 hshort) hm
      hdb rfl hoffer with ⟨⟨e, rfl⟩, hnone, hsame⟩ |
        ⟨sid, client, counter, isRatcheted, ephPub, m₀, rfl, hoffered, hinv, hsame, hnew⟩
    · rw [bind_of_error hoffer] at hid
      cases hid
      exact Or.inl ⟨rfl, ⟨_, rfl⟩, hsame, fun _ => hnone⟩
    · refine Or.inr ⟨client, sid, m₀, g₂.sessionManager, rfl, hoffered, hsame, ephPub, ?_⟩
      rw [bind_of_ok hoffer] at hid
      simp only at hid
      have hstate : g₁ = (acceptHandshake P rng env sid (some client) addr g₂).2 := by
        rcases hacc : acceptHandshake P rng env sid (some client) addr g₂ with ⟨e | u, g₃⟩
        · rw [bind_of_error hacc] at hid
          cases hid
          rfl
        · rw [bind_of_ok hacc] at hid
          cases hid
          rfl
      refine ⟨hinv, hnew, ?_, ?_, ?_, ?_⟩
      · rintro t rfl
        obtain ⟨_, _, -, ht⟩ := bind_eq_ok.1 hid
        cases ht
        exact ⟨rfl, rfl⟩
      · rw [hstate]
        exact keeps_bystanders_acceptHandshake P rng env sid (some client) addr g₂
      · rw [hstate]
        exact routing_acceptHandshake P rng env sid (some client) addr g₂
      · rw [hstate, owner_acceptHandshake]
        exact congrArg (Prod.mk _) (SessionManager.createSession_vpnIp hnew)

end Gateway

/-! ## The owner of a session -/

namespace SessionManager

variable {P : Primitives} {rng : Randomness} {e : Env × Gateway.Event}
  {Q : SessionId → ClientConfig → Prop}

/-- Every live session belongs to a client that may have it, and has the client's VPN address. -/
def OwnedBy (Q : SessionId → ClientConfig → Prop) (m : SessionManager) : Prop :=
  ∀ sid ∈ m.sessions, ∃ c, Q sid c ∧ (m.heap sid).clientId = some c.id ∧
    (m.heap sid).vpnIp = some c.vpnIp

/-- Every live session belongs to a client of `S` and has the client's VPN address. -/
def Owned (S : Set ClientConfig) (m : SessionManager) : Prop :=
  ∀ sid ∈ m.sessions, ∃ c ∈ S, (m.heap sid).clientId = some c.id ∧
    (m.heap sid).vpnIp = some c.vpnIp

/-- The owner of a session stays. -/
theorem Change.owner {m m' : SessionManager} (h : Change P rng e m m') {sid : SessionId}
    {id : String} (halloc : sid < m.nextId) (hid : (m.heap sid).clientId = some id) :
    (m'.heap sid).clientId = some id ∧ (m'.heap sid).vpnIp = (m.heap sid).vpnIp := by
  rcases h.heap_cases sid with heq | hch | ⟨ephPub, psk, rfl, -⟩
  · rw [heq]
    exact ⟨hid, rfl⟩
  · obtain ⟨hip, hnone | hsame⟩ := hch.owner
    · rw [hnone] at hid
      cases hid
    · exact ⟨hsame.trans hid, hip⟩
  · exact absurd halloc (Nat.lt_irrefl _)

theorem OwnedBy.change {m m' : SessionManager} (h : m.OwnedBy Q) (hm : m.MapInv)
    (hch : Change P rng e m m') : m'.OwnedBy Q := by
  intro sid hmem
  have hold := hch.sessions_subset sid hmem
  obtain ⟨c, hc, hid, hip⟩ := h sid hold
  obtain ⟨hid', hip'⟩ := hch.owner (hm.allocated sid hold) hid
  exact ⟨c, hc, hid', hip'.trans hip⟩

theorem OwnedBy.sameLive {m m' : SessionManager} (h : m.OwnedBy Q) (hsame : SameLive m m') :
    m'.OwnedBy Q := by
  intro sid hmem
  rw [hsame.sessions] at hmem
  rw [hsame.heap sid hmem]
  exact h sid hmem

/-- An invariant of the map and of the owners. -/
theorem ownedBy_of_changes {cfg : GatewayConfig} {g g' : Gateway}
    (h : Gateway.Changes P rng cfg e g g') (hm : g.sessionManager.MapInv)
    (howned : g.sessionManager.OwnedBy Q) :
    g'.sessionManager.MapInv ∧ g'.sessionManager.OwnedBy Q :=
  @Gateway.Changes.of_change P rng cfg e (fun m => m.MapInv ∧ m.OwnedBy Q) _ _ h
    (fun _ _ hinv hch => ⟨hinv.1.change hch, hinv.2.change hinv.1 hch⟩) ⟨hm, howned⟩

end SessionManager

/-- The first match is an enabled client of the database. -/
theorem firstMatch_mem {P : Primitives} {rng : Randomness} {tw : Nat} {serverKeys : KeyPair}
    {ephPub : Key} {tag : Tag} {clients : List ClientConfig} {n : SessionId}
    {client : ClientConfig} (h : firstMatch P rng tw serverKeys ephPub tag clients n = some client) :
    client ∈ clients ∧ client.enabled = true := by
  induction clients generalizing n with
  | nil => cases h
  | cons first rest ih =>
      have hrest : ∀ {n}, firstMatch P rng tw serverKeys ephPub tag rest n = some client →
          client ∈ first :: rest ∧ client.enabled = true :=
        fun h => ⟨List.mem_cons_of_mem _ (ih h).1, (ih h).2⟩
      unfold firstMatch at h
      split_ifs at h with henabled
      · split at h
        · simp only at h
          split_ifs at h
          · cases h
            exact ⟨List.mem_cons_self, henabled⟩
          · exact hrest h
        · exact hrest h
      · exact hrest h

namespace Gateway

variable {P : Primitives} {rng : Randomness} {cfg : GatewayConfig} {env : Env}
  {S : Set ClientConfig} {Q : SessionId → ClientConfig → Prop} {A : ClientConfig → Prop}

theorem offeredClient_mem {g : Gateway} {ephPub : Key} {tag : Tag} {addr : SocketAddr}
    {clients : List ClientConfig} {client : ClientConfig}
    (h : offeredClient P rng env g ephPub tag addr clients = some client) :
    client ∈ clients ∧ client.enabled = true := by
  unfold offeredClient at h
  split_ifs at h
  exact firstMatch_mem h

/-- What the opening of a session does to the others. -/
theorem OpensFor.session_of_ne {g₁ : Gateway} {r : Outcome TagMatch} {client : ClientConfig}
    {sid other : SessionId} {m₀ m₁ : SessionManager} {addr : SocketAddr} {ephPub : Key}
    (h : OpensFor P rng env g₁ r client sid m₀ m₁ addr ephPub) (hlive : other ∈ m₀.sessions) :
    other ≠ sid ∧ g₁.session other = m₀.heap other := by
  obtain ⟨s, -, rfl, hheap⟩ := SessionManager.createSession_heap h.created
  have hne : other ≠ m₀.nextId := Nat.ne_of_lt (h.inv.allocated other hlive)
  have hother := congrFun h.others other
  unfold bystanders at hother
  rw [Function.update_of_ne hne, Function.update_of_ne hne, hheap,
    Function.update_of_ne hne] at hother
  exact ⟨hne, hother⟩

/-- Only the new session and older ones are live behind it. -/
theorem OpensFor.mem {g₁ : Gateway} {r : Outcome TagMatch} {client : ClientConfig}
    {sid other : SessionId} {m₀ m₁ : SessionManager} {addr : SocketAddr} {ephPub : Key}
    (h : OpensFor P rng env g₁ r client sid m₀ m₁ addr ephPub)
    (hlive : other ∈ g₁.sessionManager.sessions) : other = sid ∨ other ∈ m₀.sessions := by
  have hsessions : g₁.sessionManager.sessions = (m₁.establish sid (some client.psk)).sessions :=
    congrArg Prod.fst h.routes
  rw [hsessions, SessionManager.mem_establish] at hlive
  obtain ⟨hmem, -, hsid⟩ := SessionManager.createSession_sessions h.created
  rw [hmem, List.mem_append, List.mem_singleton, ← hsid] at hlive
  exact hlive.1.symm

theorem identify_ownedBy (cfg : GatewayConfig) {packetData : Bytes} {addr : SocketAddr}
    {g : Gateway} {clients : List ClientConfig} (hlen : ¬ packetData.length < tagSize + 2)
    (hm : g.sessionManager.MapInv) (howned : g.sessionManager.OwnedBy Q)
    (hdb : g.clientDb = some clients)
    (hQ : ∀ c ∈ clients, c.enabled = true → ∀ sid, Q sid c) :
    (identify P rng env packetData addr g).2.sessionManager.MapInv ∧
      (identify P rng env packetData addr g).2.sessionManager.OwnedBy Q := by
  have hopening := identify_opening P rng cfg (env, .cleanup) hlen addr g
  have hinv : (identify P rng env packetData addr g).2.sessionManager.MapInv :=
    hopening.of_change P rng _ (fun _ _ h hch => h.change hch) (fun _ _ _ _ h => h.opens) hm
  refine ⟨hinv, ?_⟩
  have hchanges := changes_of_manager P rng cfg (env, .cleanup) (g := g)
    (SessionManager.changes_findSession P rng (env, .cleanup) g.sessionManager
      (readArray 8 0 packetData) addr.ip)
  obtain ⟨hfound, hfoundOwned⟩ := SessionManager.ownedBy_of_changes hchanges hm howned
  rcases hfs : g.sessionManager.findSession P env (readArray 8 0 packetData) addr.ip with ⟨r, m⟩
  rw [hfs] at hfound hfoundOwned
  rcases r with e | _ | hit
  · unfold identify
    rw [bind_of_error (managerExcept_of_error hfs)]
    exact hfoundOwned
  · rcases hid : identify P rng env packetData addr g with ⟨r, g₁⟩
    rcases identify_handshake P rng env hlen hfound hdb hfs hid with ⟨-, -, hsame, -⟩ |
      ⟨client, sid, m₀, m₁, -, hoffered, hsame, ephPub, hopens⟩
    · exact hfoundOwned.sameLive hsame
    -- the new session is of the client that was offered, and the others keep theirs
    · intro other hlive
      rcases hopens.mem hlive with rfl | hold
      · have hown := hopens.owned
        obtain ⟨hmem, henabled⟩ := offeredClient_mem hoffered
        exact ⟨client, hQ client hmem henabled _, congrArg Prod.fst hown, congrArg Prod.snd hown⟩
      · have hcell := (hopens.session_of_ne hold).2
        rw [session] at hcell
        rw [hcell]
        exact (hfoundOwned.sameLive hsame) other hold
  · unfold identify
    rw [bind_of_ok (managerExcept_of_ok hfs)]
    exact hfoundOwned

/-- The clients that are registered at some time of a run. -/
def registered (clients : List ClientConfig) (es : List (Env × Event)) : Set ClientConfig :=
  { c | c ∈ clients ∨ ∃ e ∈ es, ∃ reloaded, e.2 = .reload reloaded ∧ c ∈ reloaded }

/-- The map is exact, and every live session belongs to a client that was registered. -/
structure OwnedInv (S : Set ClientConfig) (g : Gateway) : Prop where
  map : g.sessionManager.MapInv
  owned : g.sessionManager.Owned S
  db : ∃ clients, g.clientDb = some clients ∧ ∀ c ∈ clients, c ∈ S

/-- The map is exact, every live session belongs to a client that may have it, and the clients of
the database are admissible. -/
structure Attributed (A : ClientConfig → Prop) (Q : SessionId → ClientConfig → Prop)
    (g : Gateway) : Prop where
  map : g.sessionManager.MapInv
  owned : g.sessionManager.OwnedBy Q
  db : ∃ clients, g.clientDb = some clients ∧ ∀ c ∈ clients, A c

/-- Where enabled admissible clients may have any session, a step keeps the attribution. -/
theorem Attributed.step {g : Gateway} (h : Attributed A Q g)
    (hA : ∀ c, A c → c.enabled = true → ∀ sid, Q sid c) {e : Env × Event}
    (he : ∀ clients, e.2 = .reload clients → ∀ c ∈ clients, A c) :
    Attributed A Q (Gateway.step P rng cfg g e) := by
  obtain ⟨clients, hdb, hclients⟩ := h.db
  have hcases := step_cases P rng cfg e g
  -- an event without a handshake only makes changes
  have hquiet : opened P rng g e = none → (∀ reloaded, e.2 ≠ .reload reloaded) →
      Attributed A Q (Gateway.step P rng cfg g e) := by
    intro hnone hreload
    rw [hnone] at hcases
    obtain ⟨hinv, howned⟩ := SessionManager.ownedBy_of_changes hcases h.map h.owned
    exact ⟨hinv, howned, clients, (Changes.clientDb P rng cfg hcases hreload).trans hdb, hclients⟩
  rcases e with ⟨env, event⟩
  cases event with
  | packet packetData addr =>
      by_cases hlen : packetData.length < tagSize + 2
      · exact hquiet (if_pos hlen) (by simp)
      · obtain ⟨hinv, howned⟩ := @identify_ownedBy P rng env Q cfg packetData addr g clients hlen
          h.map h.owned hdb (fun c hc henabled => hA c (hclients c hc) henabled)
        obtain ⟨hinv', howned'⟩ := SessionManager.ownedBy_of_changes
          (changes_handlePacket P rng cfg (env, .packet packetData addr) hlen rfl g) hinv howned
        refine ⟨hinv', howned', clients, ?_, hclients⟩
        exact (hcases.clientDb P rng cfg (by simp)).trans hdb
  | reload reloaded =>
      refine ⟨h.map, h.owned, reloaded, ?_, he reloaded rfl⟩
      show g.clientDb.map (fun _ => reloaded) = some reloaded
      rw [hdb]
      rfl
  | tun packet => exact hquiet rfl (by simp)
  | rotateMask sid maskData => exact hquiet rfl (by simp)
  | cleanup => exact hquiet rfl (by simp)
  | rehash sessions => exact hquiet rfl (by simp)

theorem OwnedInv.step {g : Gateway} (h : OwnedInv S g) {e : Env × Event}
    (he : ∀ clients, e.2 = .reload clients → ∀ c ∈ clients, c ∈ S) :
    OwnedInv S (Gateway.step P rng cfg g e) := by
  have hattr : Attributed (fun c => c ∈ S) (fun _ c => c ∈ S) g := ⟨h.map, h.owned, h.db⟩
  obtain ⟨hmap, howned, hdb⟩ := @Attributed.step P rng cfg _ _ g hattr (fun _ hc _ _ => hc) e he
  exact ⟨hmap, howned, hdb⟩

theorem ownedInv_of_run (P : Primitives) (rng : Randomness) (cfg : GatewayConfig)
    (serverKeys : KeyPair) (signingKey : Key) (clients : List ClientConfig)
    (es : List (Env × Event)) :
    OwnedInv (registered clients es)
      (runFrom (Gateway.step P rng cfg) (Gateway.new serverKeys signingKey (some clients)) es) := by
  refine runFrom_invariant_of_along (fun g e hg he => hg.step he) ?_
    (along_of_forall (C := fun e => ∀ reloaded, e.2 = .reload reloaded → ∀ c ∈ reloaded,
      c ∈ registered clients es) fun e he reloaded hreload c hc => ?_)
  · refine ⟨mapInv_of_run P rng cfg serverKeys signingKey (some clients) [], ?_, clients, rfl, ?_⟩
    · intro sid hmem
      cases hmem
    · exact fun c hc => Or.inl hc
  · exact Or.inr ⟨e, he, reloaded, hreload, hc⟩

/-! ## One handshake -/

/-- The lookup chain that misses has only refreshed the tag windows. -/
theorem findSession_none_heap {α : Type} (f : Session → α)
    (hrefresh : ∀ (tw : Nat) (s : Session),
      f ((s.updateTagWindow P tw).updateRatchetedTagWindow P tw) = f s)
    {m m' : SessionManager} {tag : Tag} {ip : IpAddr}
    (h : m.findSession P env tag ip = (.ok none, m')) (sid : SessionId) :
    f (m'.heap sid) = f (m.heap sid) := by
  rcases m.findSession_cases P env tag ip with ⟨sid', -, hfs | ⟨c, r, -, hfs⟩⟩ |
    ⟨-, ⟨hit, -, hfs⟩ | ⟨-, hfs⟩⟩
  · rw [hfs] at h
    cases h
  · rw [hfs] at h
    cases h
  · rw [hfs] at h
    cases h
  · have hloop : f ((m.refreshAndFindByTag P env.timeWindow tag).2.heap sid) = f (m.heap sid) :=
      SessionManager.refreshLoop_heap P f env.timeWindow tag (hrefresh _) m.sessions m sid
    rw [hfs] at h
    revert h hloop
    generalize (m.refreshAndFindByTag P env.timeWindow tag).2 = m₁
    intro h hloop
    cases hhit : m₁.recoveryHit P env.timeWindow tag ip with
    | none =>
        simp only [SessionManager.recoverSessionByTag, hhit] at h
        rw [← (Prod.mk.inj h).2, hloop]
    | some hit =>
        simp only [SessionManager.recoverSessionByTag, hhit] at h
        cases (Prod.mk.inj h).1

/-- What a handshake keeps of a session: the part that only authentic datagrams may change, the
keys with the state of the ratchet, the place in the session map and the route. -/
structure Untouched (g g' : Gateway) (sid : SessionId) : Prop where
  live : sid ∈ g'.sessionManager.sessions
  view : (g'.session sid).view = (g.session sid).view
  keyState : (g'.session sid).keyState = (g.session sid).keyState
  route : ∀ ip, (g.session sid).vpnIp = some ip → g'.sessionManager.vpnIpMap ip = some sid

theorem handlePacket_of_error {packetData : Bytes} {addr : SocketAddr} {g g₁ : Gateway}
    {e : Fault Error} (hlen : ¬ packetData.length < tagSize + 2)
    (hid : identify P rng env packetData addr g = (.error e, g₁)) :
    (handlePacket P rng cfg env packetData addr g).2 = g₁ := by
  unfold handlePacket receivePacket
  rw [if_neg hlen, bind_of_error (bind_of_error hid _)]

/-- A handshake touches no session with another VPN address than the client's that it
authenticates. -/
theorem handshake_untouched {packetData : Bytes} {addr : SocketAddr} {g : Gateway}
    {clients : List ClientConfig} {sid : SessionId} {ip : Ipv4Addr} (hm : g.sessionManager.MapInv)
    (hdb : g.clientDb = some clients)
    (hunknown : TagUnknown P env g (readArray 8 0 packetData) addr.ip)
    (hlive : sid ∈ g.sessionManager.sessions) (hip : (g.session sid).vpnIp = some ip)
    (hother : ∀ client, authenticatedClient P rng env g packetData addr = some client →
      client.vpnIp ≠ ip) :
    Untouched g (handlePacket P rng cfg env packetData addr g).2 sid := by
  have hroute : g.sessionManager.vpnIpMap ip = some sid := (hm.routed ip sid).2 ⟨hlive, hip⟩
  by_cases hlen : packetData.length < tagSize + 2
  · have hsame : (handlePacket P rng cfg env packetData addr g).2 = g := by
      unfold handlePacket
      rw [bind_of_error (receivePacket_short P rng env hlen addr g)]
    rw [hsame]
    exact ⟨hlive, rfl, rfl, fun ip' hip' => Option.some.inj (hip.symm.trans hip') ▸ hroute⟩
  obtain ⟨hs, hmap, -⟩ := g.sessionManager.findSession_map P env (readArray 8 0 packetData) addr.ip
  have hchanges := SessionManager.changes_findSession P rng (env, .cleanup) g.sessionManager
    (readArray 8 0 packetData) addr.ip
  have hvpn := (SessionManager.findSession_vpnIp P env g.sessionManager (readArray 8 0 packetData)
    addr.ip sid).trans hip
  have hfound := (tagUnknown_iff P env g _ addr.ip).1 hunknown
  rcases hfs : g.sessionManager.findSession P env (readArray 8 0 packetData) addr.ip with ⟨r, m⟩
  rw [hfs] at hs hmap hvpn hfound hchanges
  cases hfound
  have hview := findSession_none_heap Session.view (SessionManager.refresh_view P) hfs sid
  have hkeys := findSession_none_heap Session.keyState (fun tw s => Session.refresh_keyState tw s)
    hfs sid
  have hlive' : sid ∈ m.sessions := hs ▸ hlive
  -- it is enough to keep the cell and the entries that the lookup chain left
  have hkept : ∀ {g' : Gateway}, sid ∈ g'.sessionManager.sessions →
      g'.session sid = m.heap sid → g'.sessionManager.vpnIpMap ip = m.vpnIpMap ip →
      Untouched g g' sid := by
    intro g' h1 h2 h3
    refine ⟨h1, by rw [h2, hview]; rfl, by rw [h2, hkeys]; rfl, fun ip' hip' => ?_⟩
    rw [← Option.some.inj (hip.symm.trans hip'), h3, hmap, hroute]
  rcases hid : identify P rng env packetData addr g with ⟨r, g₁⟩
  rcases identify_handshake P rng env hlen (hm.changes hchanges) hdb hfs hid with
    ⟨-, ⟨e, rfl⟩, hsame, -⟩ | ⟨client, sid', m₀, m₁, hauth, -, hsame, ephPub, hopens⟩
  · rw [handlePacket_of_error hlen hid]
    exact hkept (hsame.sessions ▸ hlive') (hsame.heap sid hlive') (congrFun hsame.vpnIpMap ip)
  · have hlive₀ : sid ∈ m₀.sessions := hsame.sessions ▸ hlive'
    have hcell := hsame.heap sid hlive'
    obtain ⟨hne, hsession⟩ := hopens.session_of_ne hlive₀
    obtain ⟨hothers, hrouting⟩ :=
      handlePacket_bystanders P rng cfg env hlen hid hopens.result
    obtain ⟨hmem, hentry⟩ := (hopens.inv.establish_kept_iff hopens.created hlive₀
      ((congrArg Session.vpnIp hcell).trans hvpn)).2 (hother client hauth)
    have hfinal := hrouting.trans hopens.routes
    have hsessions := congrArg Prod.fst hfinal
    have hroutes := congrArg (fun r => r.2.1 ip) hfinal
    simp only [routing] at hsessions hroutes
    refine hkept (hsessions ▸ hmem) ?_ ?_
    · rw [session_eq_of_bystanders hothers hne, hsession, hcell]
    · rw [hroutes, hentry, hsame.vpnIpMap]

/-- The session of an authenticated client. -/
theorem handshake_session {packetData : Bytes} {addr : SocketAddr} {g : Gateway}
    {clients : List ClientConfig} {client : ClientConfig} (hm : g.sessionManager.MapInv)
    (hdb : g.clientDb = some clients)
    (hauth : authenticatedClient P rng env g packetData addr = some client) :
    client ∈ clients ∧ client.enabled = true ∧
      ∃ sid ∈ (handlePacket P rng cfg env packetData addr g).2.sessionManager.sessions,
        sid ∉ g.sessionManager.sessions ∧
        ((handlePacket P rng cfg env packetData addr g).2.session sid).clientId =
          some client.id ∧
        ((handlePacket P rng cfg env packetData addr g).2.session sid).vpnIp =
          some client.vpnIp := by
  by_cases hlen : packetData.length < tagSize + 2
  · rw [authenticatedClient, if_pos hlen] at hauth
    cases hauth
  obtain ⟨hs, -, -⟩ := g.sessionManager.findSession_map P env (readArray 8 0 packetData) addr.ip
  have hchanges := SessionManager.changes_findSession P rng (env, .cleanup) g.sessionManager
    (readArray 8 0 packetData) addr.ip
  rcases hfs : g.sessionManager.findSession P env (readArray 8 0 packetData) addr.ip with ⟨r, m⟩
  rw [hfs] at hs hchanges
  rcases r with e | _ | hit
  · simp only [authenticatedClient, if_neg hlen, hfs] at hauth
    cases hauth
  · rcases hid : identify P rng env packetData addr g with ⟨r, g₁⟩
    rcases identify_handshake P rng env hlen (hm.changes hchanges) hdb hfs hid with
      ⟨hnone, -⟩ | ⟨client', sid, m₀, m₁, hauth', hoffered, hsame, ephPub, hopens⟩
    · cases hauth.symm.trans hnone
    · obtain rfl := Option.some.inj (hauth.symm.trans hauth')
      obtain ⟨hmem, henabled⟩ := offeredClient_mem hoffered
      obtain ⟨-, hrouting⟩ := handlePacket_bystanders P rng cfg env hlen hid hopens.result
      have hfinal := hrouting.trans hopens.routes
      have hsessions : (handlePacket P rng cfg env packetData addr g).2.sessionManager.sessions =
          (m₁.establish sid (some client.psk)).sessions := congrArg Prod.fst hfinal
      have hnext : g₁.sessionManager.nextId = (m₁.establish sid (some client.psk)).nextId :=
        congrArg (fun r => r.2.2) hopens.routes
      obtain ⟨-, hid₁, rfl⟩ := SessionManager.createSession_sessions hopens.created
      rw [SessionManager.establish_nextId, hid₁] at hnext
      -- behind the identification the owner stays
      have hbehind := changes_handlePacket P rng cfg (env, .packet packetData addr) hlen rfl g
      rw [hid] at hbehind
      obtain ⟨-, hclient, hip⟩ := @Changes.of_change P rng cfg _ (fun m => m₀.nextId < m.nextId ∧
        (m.heap m₀.nextId).clientId = some client.id ∧
        (m.heap m₀.nextId).vpnIp = some client.vpnIp) _ _ hbehind
        (fun m m' hinv hch => by
          obtain ⟨hclient, hip⟩ := hch.owner hinv.1 hinv.2.1
          exact ⟨Nat.lt_of_lt_of_le hinv.1 hch.nextId_le, hclient, hip.trans hinv.2.2⟩)
        ⟨hnext ▸ Nat.lt_succ_self _, congrArg Prod.fst hopens.owned, congrArg Prod.snd hopens.owned⟩
      refine ⟨hmem, henabled, m₀.nextId, ?_, ?_, hclient, hip⟩
      · rw [hsessions]
        exact SessionManager.establish_live hopens.created _
      · intro hold
        have hlt := hopens.inv.allocated _ (hsame.sessions.symm ▸ hs.symm ▸ hold)
        exact Nat.lt_irrefl _ hlt
  · simp only [authenticatedClient, if_neg hlen, hfs] at hauth
    cases hauth

end Gateway

/-! ## The client of an init datagram -/

section

variable (P : Primitives) (rng : Randomness) (serverKeys : KeyPair) (ephPub : Key)

/-- The keys that `create_session` derives from DH1 for a client with the given PSK. -/
def attemptKeys (psk : Key) : SessionKeys :=
  P.deriveSessionKeys (P.x25519 serverKeys.privateKeyBytes ephPub) (some psk) ephPub

/-- The ratcheted keys of the same attempt when its session has the id `n`. -/
def attemptRatchetedKeys (psk : Key) (n : SessionId) : SessionKeys :=
  P.deriveSessionKeys (P.x25519 (P.fromPrivateKey (rng.serverEph n)).privateKeyBytes ephPub)
    (some (attemptKeys P serverKeys ephPub psk).sessionKey) ephPub

/-- The tags that the attempts for `clients` look for, when the first of them gets the id `n`. -/
def attemptTriples (W : Set Nat) (clients : List ClientConfig) (n : SessionId) :
    Set (Key × Nat × Nat) :=
  { x | x.2.1 < tagWindowSize ∧ x.2.2 ∈ W ∧ ∃ c ∈ clients,
    x.1 = (attemptKeys P serverKeys ephPub c.psk).tagSecret ∨
      ∃ k < clients.length, x.1 =
        (attemptRatchetedKeys P rng serverKeys ephPub c.psk (n + k)).tagSecret }

end

/-- The primitives are ideal for a handshake with the ephemeral key `ephPub`: no DH result is zero,
distinct PSKs give distinct tag secrets, none of them is a tag secret of a live session or of a
ratchet, and tags do not collide. -/
structure HandshakeIdeal (P : Primitives) (rng : Randomness) (W : Set Nat) (m : SessionManager)
    (ephPub : Key) (clients : List ClientConfig) : Prop where
  dh1 : P.x25519 m.serverKeys.privateKeyBytes ephPub ≠ ByteArr.replicate 32 0
  dh2 : ∀ k < clients.length,
    P.x25519 (P.fromPrivateKey (rng.serverEph (m.nextId + k))).privateKeyBytes ephPub ≠
      ByteArr.replicate 32 0
  psks : ∀ c ∈ clients, ∀ c' ∈ clients, (attemptKeys P m.serverKeys ephPub c.psk).tagSecret =
    (attemptKeys P m.serverKeys ephPub c'.psk).tagSecret → c.psk = c'.psk
  ratchets : ∀ c ∈ clients, ∀ c' ∈ clients, ∀ k < clients.length,
    (attemptKeys P m.serverKeys ephPub c.psk).tagSecret ≠
      (attemptRatchetedKeys P rng m.serverKeys ephPub c'.psk (m.nextId + k)).tagSecret
  fresh : ∀ c ∈ clients, ∀ sid ∈ m.sessions, ∀ r,
    (m.heap sid).tagSecret r ≠ some (attemptKeys P m.serverKeys ephPub c.psk).tagSecret
  tags : P.CollisionFree
    (m.tagTriples W ∪ attemptTriples P rng m.serverKeys ephPub W clients m.nextId)

theorem computeShared_of_ne {P : Primitives} {kp : KeyPair} {remotePublic : Key}
    (h : P.x25519 kp.privateKeyBytes remotePublic ≠ ByteArr.replicate 32 0) :
    P.computeShared kp remotePublic = .ok (P.x25519 kp.privateKeyBytes remotePublic) := if_neg h

theorem inFirstWindow_eq_true {P : Primitives} {secret : Key} {tw : Nat} {tag : Tag} :
    inFirstWindow P secret tw tag = true ↔ ∃ w ∈ nearWindows tw, ∃ c < tagWindowSize,
      P.generateResonanceTag secret c w = tag := by
  unfold inFirstWindow
  simp only [List.any_eq_true, List.mem_range, decide_eq_true_eq]
  rfl

/-- The loop over the clients ends with the only one whose initial keys explain the tag. -/
theorem firstMatch_of_unique {P : Primitives} {rng : Randomness} {tw : Nat} {serverKeys : KeyPair}
    {ephPub : Key} {tag : Tag} {client : ClientConfig} (henabled : client.enabled = true)
    (hdh1 : P.x25519 serverKeys.privateKeyBytes ephPub ≠ ByteArr.replicate 32 0)
    (hmatch : inFirstWindow P (attemptKeys P serverKeys ephPub client.psk).tagSecret tw tag = true)
    {clients : List ClientConfig} (hmem : client ∈ clients) {n : SessionId}
    (hdh2 : ∀ k < clients.length,
      P.x25519 (P.fromPrivateKey (rng.serverEph (n + k))).privateKeyBytes ephPub ≠
        ByteArr.replicate 32 0)
    (hothers : ∀ c ∈ clients, c ≠ client →
      inFirstWindow P (attemptKeys P serverKeys ephPub c.psk).tagSecret tw tag = false ∧
      ∀ k < clients.length, inFirstWindow P
        (attemptRatchetedKeys P rng serverKeys ephPub c.psk (n + k)).tagSecret tw tag = false) :
    firstMatch P rng tw serverKeys ephPub tag clients n = some client := by
  induction clients generalizing n with
  | nil => cases hmem
  | cons first rest ih =>
      -- the loop draws one id for each enabled client it tries, so that the hypothesis on the keys
      -- speaks of `n + k`
      have hzero := computeShared_of_ne (hdh2 0 (by simp))
      rw [Nat.add_zero] at hzero
      unfold firstMatch
      by_cases heq : first = client
      · rw [heq, if_pos henabled, computeShared_of_ne hdh1, hzero]
        simp only
        rw [if_pos]
        rw [Bool.or_eq_true]
        exact Or.inl hmatch
      · have hmem : client ∈ rest := (List.mem_cons.1 hmem).resolve_left (Ne.symm heq)
        by_cases hfirst : first.enabled = true
        · obtain ⟨hno, hnoRatchet⟩ := hothers first List.mem_cons_self heq
          have hnoRatchet := hnoRatchet 0 (by simp)
          rw [Nat.add_zero] at hnoRatchet
          rw [if_pos hfirst, computeShared_of_ne hdh1, hzero]
          -- the client before it has no key that fits the tag
          simp only
          rw [if_neg]
          · refine ih hmem (fun k hk => ?_) fun c hc hne => ?_
            · rw [Nat.add_assoc, Nat.add_comm 1 k]
              exact hdh2 (k + 1) (by simpa using hk)
            · obtain ⟨h1, h2⟩ := hothers c (List.mem_cons_of_mem _ hc) hne
              refine ⟨h1, fun k hk => ?_⟩
              rw [Nat.add_assoc, Nat.add_comm 1 k]
              exact h2 (k + 1) (by simpa using hk)
          · rw [Bool.not_eq_true, Bool.or_eq_false_iff]
            exact ⟨hno, hnoRatchet⟩
        · rw [if_neg hfirst]
          refine ih hmem (fun k hk => hdh2 k (by simp only [List.length_cons]; omega))
            fun c hc hne => ?_
          obtain ⟨h1, h2⟩ := hothers c (List.mem_cons_of_mem _ hc) hne
          exact ⟨h1, fun k hk => h2 k (by simp only [List.length_cons]; omega)⟩

namespace InitDatagram

variable (P : Primitives) (serverKeys : KeyPair)

theorem readArray_bytes (i : InitDatagram) : readArray 8 0 (i.bytes P serverKeys) =
    P.generateResonanceTag (attemptKeys P serverKeys i.ephPub i.psk).tagSecret i.counter
      i.timeWindow := by
  have hread := readArray_append_toList [] (P.generateResonanceTag
    (i.keys P serverKeys).tagSecret i.counter i.timeWindow)
    (i.header.toList ++ i.body P serverKeys) rfl
  rw [List.nil_append, ← List.append_assoc] at hread
  exact hread

theorem handshakeEphPub_bytes (i : InitDatagram) :
    Gateway.handshakeEphPub P serverKeys.publicKeyBytes (i.bytes P serverKeys) = i.ephPub := by
  have hread := @handshakeEphPub_append P
    (P.generateResonanceTag (i.keys P serverKeys).tagSecret i.counter i.timeWindow) i.header
    (P.obfuscateEphPub i.ephPub serverKeys.publicKeyBytes) serverKeys.publicKeyBytes
    (P.encryptPayload (i.keys P serverKeys).sessionKey (counterToNonce i.counter) i.padded)
  rw [P.obfuscateEphPub_obfuscateEphPub] at hread
  unfold bytes body
  rwa [← List.append_assoc, List.append_assoc _ i.header.toList]

end InitDatagram

namespace Gateway

variable {P : Primitives} {rng : Randomness} {cfg : GatewayConfig} {env : Env} {W : Set Nat}

/-- An init datagram of an enabled client is unknown to the lookup chain, and authenticates the
client when there is room for one more session. -/
theorem authenticatedClient_of_init {g : Gateway} {clients : List ClientConfig}
    {client : ClientConfig}
    {i : InitDatagram} {packetData : Bytes} {addr : SocketAddr} (hm : g.sessionManager.MapInv)
    (htags : g.sessionManager.TagInv)
    (hsound : ∀ sid ∈ g.sessionManager.sessions, (g.sessionManager.heap sid).CacheSound P W)
    (hnear : ∀ w ∈ nearWindows env.timeWindow, w ∈ W) (hdb : g.clientDb = some clients)
    (hpsk : ∀ c ∈ clients, ∀ c' ∈ clients, c.psk = c'.psk → c = c') (hmem : client ∈ clients)
    (henabled : client.enabled = true)
    (hpacket : packetData = i.bytes P g.sessionManager.serverKeys) (hi : i.psk = client.psk)
    (hcounter : i.counter < tagWindowSize) (hw : i.timeWindow ∈ nearWindows env.timeWindow)
    (hcool : cooldownActive env g addr.ip = false)
    (hideal : HandshakeIdeal P rng W g.sessionManager i.ephPub clients) :
    TagUnknown P env g (readArray 8 0 packetData) addr.ip ∧
      authenticatedClient P rng env g packetData addr =
        if g.sessionManager.HasRoom addr then some client else none := by
  have htag : readArray 8 0 packetData = P.generateResonanceTag
      (attemptKeys P g.sessionManager.serverKeys i.ephPub client.psk).tagSecret i.counter
      i.timeWindow := by
    rw [hpacket, InitDatagram.readArray_bytes, hi]
  have htriple : ((attemptKeys P g.sessionManager.serverKeys i.ephPub client.psk).tagSecret,
      i.counter, i.timeWindow) ∈ g.sessionManager.tagTriples W ∪ attemptTriples P rng
        g.sessionManager.serverKeys i.ephPub W clients g.sessionManager.nextId :=
    Or.inr ⟨hcounter, hnear _ hw, client, hmem, Or.inl rfl⟩
  have hno : ∀ sid ∈ g.sessionManager.sessions, ∀ c r,
      ¬ (g.sessionManager.heap sid).HasTag P W (readArray 8 0 packetData) c r := by
    intro sid hlive c r hhas
    obtain ⟨secret, w, hsecret, hmemTriple, heq⟩ := hhas.triple
    rw [htag] at heq
    have hsame := hideal.tags (Or.inl ⟨sid, hlive, hmemTriple⟩) htriple heq
    obtain rfl : secret =
        (attemptKeys P g.sessionManager.serverKeys i.ephPub client.psk).tagSecret :=
      congrArg Prod.fst hsame
    exact hideal.fresh client hmem sid hlive r hsecret
  have hnone := SessionManager.findSession_of_no_tag htags hsound hnear hno addr.ip
  have hunknown := (tagUnknown_iff P env g _ addr.ip).2 hnone
  refine ⟨hunknown, ?_⟩
  -- the attempts for the other clients do not look for the tag
  have hmatch : firstMatch P rng env.timeWindow g.sessionManager.serverKeys i.ephPub
      (readArray 8 0 packetData) clients g.sessionManager.nextId = some client := by
    have hcollides : ∀ secret, inFirstWindow P secret env.timeWindow (readArray 8 0 packetData) =
        true → (∃ c ∈ clients,
          secret = (attemptKeys P g.sessionManager.serverKeys i.ephPub c.psk).tagSecret ∨
          ∃ k < clients.length, secret = (attemptRatchetedKeys P rng g.sessionManager.serverKeys
            i.ephPub c.psk (g.sessionManager.nextId + k)).tagSecret) →
        secret = (attemptKeys P g.sessionManager.serverKeys i.ephPub client.psk).tagSecret := by
      intro secret hwindow hsecret
      obtain ⟨w, hwmem, c, hc, heq⟩ := inFirstWindow_eq_true.1 hwindow
      rw [htag] at heq
      exact congrArg Prod.fst (@hideal.tags (secret, c, w) (Or.inr ⟨hc, hnear w hwmem, hsecret⟩) _
        htriple heq)
    refine firstMatch_of_unique henabled hideal.dh1 ?_ hmem hideal.dh2 fun c hc hne => ⟨?_, ?_⟩
    · exact inFirstWindow_eq_true.2 ⟨i.timeWindow, hw, i.counter, hcounter, htag.symm⟩
    · rw [← Bool.not_eq_true]
      intro hwindow
      have hsame := hcollides _ hwindow ⟨c, hc, Or.inl rfl⟩
      exact hne (hpsk c hc client hmem (hideal.psks c hc client hmem hsame))
    · intro k hk
      rw [← Bool.not_eq_true]
      intro hwindow
      have hsame := hcollides _ hwindow ⟨c, hc, Or.inr ⟨k, hk, rfl⟩⟩
      exact hideal.ratchets client hmem c hc k hk hsame.symm
  have hlen : tagSize + mdhLen + 32 ≤ packetData.length := by
    rw [hpacket]
    exact i.length_bytes P _
  have hlen' : ¬ packetData.length < tagSize + 2 := by
    simp only [tagSize, mdhLen] at hlen ⊢
    omega
  obtain ⟨-, -, hnext⟩ := g.sessionManager.findSession_map P env (readArray 8 0 packetData) addr.ip
  have hchanges := SessionManager.changes_findSession P rng (env, .cleanup) g.sessionManager
    (readArray 8 0 packetData) addr.ip
  have hroom := g.sessionManager.findSession_hasRoom P env (readArray 8 0 packetData) addr.ip addr
  rcases hfs : g.sessionManager.findSession P env (readArray 8 0 packetData) addr.ip with ⟨r, m⟩
  rw [hfs] at hnone hnext hchanges hroom
  cases hnone
  have hkeys : m.serverKeys = g.sessionManager.serverKeys := hchanges.serverKeys
  have hid' : m.nextId = g.sessionManager.nextId := hnext
  have hoffered : offeredClient P rng env { g with sessionManager := m }
      (handshakeEphPub P m.serverKeys.publicKeyBytes packetData) (readArray 8 0 packetData) addr
      clients = if g.sessionManager.HasRoom addr then some client else none := by
    have hcool' : cooldownActive env { g with sessionManager := m } addr.ip = false := hcool
    unfold offeredClient
    simp only [hcool', hroom, true_and, hkeys, hid']
    rw [hpacket, InitDatagram.handshakeEphPub_bytes, ← hpacket, hmatch]
  rcases hid : identify P rng env packetData addr g with ⟨r, g₁⟩
  rcases identify_handshake P rng env hlen' (hm.changes hchanges) hdb hfs hid with
    ⟨hauth, -, -, hrefused⟩ | ⟨client', sid, m₀, m₁, hauth, hoffered', -⟩
  · exact hauth.trans ((hrefused hlen).symm.trans hoffered)
  · exact hauth.trans (hoffered'.symm.trans hoffered)

/-- With room for the session it authenticates the client. -/
theorem authenticated_of_init {g : Gateway} {clients : List ClientConfig} {client : ClientConfig}
    {i : InitDatagram} {packetData : Bytes} {addr : SocketAddr} (hm : g.sessionManager.MapInv)
    (htags : g.sessionManager.TagInv)
    (hsound : ∀ sid ∈ g.sessionManager.sessions, (g.sessionManager.heap sid).CacheSound P W)
    (hnear : ∀ w ∈ nearWindows env.timeWindow, w ∈ W) (hdb : g.clientDb = some clients)
    (hpsk : ∀ c ∈ clients, ∀ c' ∈ clients, c.psk = c'.psk → c = c') (hmem : client ∈ clients)
    (henabled : client.enabled = true)
    (hpacket : packetData = i.bytes P g.sessionManager.serverKeys) (hi : i.psk = client.psk)
    (hcounter : i.counter < tagWindowSize) (hw : i.timeWindow ∈ nearWindows env.timeWindow)
    (hcool : cooldownActive env g addr.ip = false) (hroom : g.sessionManager.HasRoom addr)
    (hideal : HandshakeIdeal P rng W g.sessionManager i.ephPub clients) :
    TagUnknown P env g (readArray 8 0 packetData) addr.ip ∧
      authenticatedClient P rng env g packetData addr = some client := by
  have hauth := authenticatedClient_of_init hm htags hsound hnear hdb hpsk hmem henabled hpacket hi
    hcounter hw hcool hideal
  rwa [if_pos hroom] at hauth

end Gateway

/-- In every run with a client database in which a VPN address always belongs to one client and PSKs
are distinct, whatever datagram arrives: an init datagram of an enabled client authenticates that
client; a client that is authenticated is registered and enabled, and gets a new live session with
its id and its VPN address; and a handshake touches no live session of another client. -/
theorem handshake_isolation (P : Primitives) (rng : Randomness) (cfg : GatewayConfig)
    (serverKeys : KeyPair) (signingKey : Key) (db : List ClientConfig)
    (es : List (Env × Gateway.Event)) {g : Gateway} {clients : List ClientConfig}
    (hg : g = runFrom (Gateway.step P rng cfg) (Gateway.new serverKeys signingKey (some db)) es)
    (hdb : g.clientDb = some clients)
    (hpsk : ∀ c ∈ clients, ∀ c' ∈ clients, c.psk = c'.psk → c = c')
    (hip : ∀ c ∈ Gateway.registered db es, ∀ c' ∈ Gateway.registered db es,
      c.vpnIp = c'.vpnIp → c.id = c'.id)
    (env : Env) (packetData : Bytes) (addr : SocketAddr) {g' : Gateway}
    (hg' : g' = (Gateway.handlePacket P rng cfg env packetData addr g).2) :
    (∀ client ∈ clients, client.enabled = true → ∀ i : InitDatagram,
      packetData = i.bytes P g.sessionManager.serverKeys → i.psk = client.psk → i.counter < 256 →
      i.timeWindow ∈ nearWindows env.timeWindow →
      Gateway.cooldownActive env g addr.ip = false → g.sessionManager.HasRoom addr →
      HandshakeIdeal P rng (Gateway.windowsOf es ∪ { w | w ∈ nearWindows env.timeWindow })
        g.sessionManager i.ephPub clients →
      Gateway.TagUnknown P env g (readArray 8 0 packetData) addr.ip ∧
        Gateway.authenticatedClient P rng env g packetData addr = some client) ∧
    (∀ client, Gateway.authenticatedClient P rng env g packetData addr = some client →
      client ∈ clients ∧ client.enabled = true ∧
        ∃ sid ∈ g'.sessionManager.sessions, sid ∉ g.sessionManager.sessions ∧
          (g'.session sid).clientId = some client.id ∧
          (g'.session sid).vpnIp = some client.vpnIp) ∧
    (Gateway.TagUnknown P env g (readArray 8 0 packetData) addr.ip →
      ∀ sid ∈ g.sessionManager.sessions,
        (∀ client, Gateway.authenticatedClient P rng env g packetData addr = some client →
          (g.session sid).clientId ≠ some client.id) →
        Gateway.Untouched g g' sid) := by
  have hinv := Gateway.ownedInv_of_run P rng cfg serverKeys signingKey db es
  have htags := tagInv_of_run P rng cfg serverKeys signingKey (some db) es
  have hsound := cacheSound_of_run P rng cfg serverKeys signingKey (some db) es
  rw [← hg] at hinv htags hsound
  have hregistered : ∀ c ∈ clients, c ∈ Gateway.registered db es := by
    obtain ⟨clients', hdb', hS⟩ := hinv.db
    rw [hdb] at hdb'
    cases hdb'
    exact hS
  subst hg'
  refine ⟨?_, ?_, ?_⟩
  · intro client hmem henabled i hpacket hi hcounter hw hcool hroom hideal
    exact Gateway.authenticated_of_init hinv.map htags
      (fun sid _ => (hsound sid).mono Set.subset_union_left) (fun _ => Or.inr) hdb hpsk hmem
      henabled hpacket hi hcounter hw hcool hroom hideal
  · intro client hauth
    exact Gateway.handshake_session hinv.map hdb hauth
  · intro hunknown sid hlive hother
    obtain ⟨c, hc, hid, hvpn⟩ := hinv.owned sid hlive
    refine Gateway.handshake_untouched hinv.map hdb hunknown hlive hvpn fun client hauth heq => ?_
    -- the address tells the client
    obtain ⟨hmem, -⟩ := @Gateway.handshake_session P rng cfg env packetData addr g clients client
      hinv.map hdb hauth
    have hsame := hip client (hregistered client hmem) c hc heq
    exact hother client hauth (hsame ▸ hid)

/-- A second registered client. -/
def sampleSecondClient : ClientConfig :=
  ⟨"client-2", ByteArr.replicate 32 11, ⟨10, 0, 0, 3⟩, true⟩

/-- The gateway with both clients registered and the first one connected and ratcheted. -/
def sampleShared : Gateway :=
  runFrom (Gateway.step samplePrimitives sampleRandomness sampleConfig)
    (Gateway.new sampleServerKeys default (some [sampleClient, sampleSecondClient])) sampleConnect

/-- An init datagram of the second client. -/
def sampleSecondInit : InitDatagram where
  ephPub := (samplePrimitives.fromPrivateKey (ByteArr.replicate 32 21)).publicKeyBytes
  psk := sampleSecondClient.psk
  counter := 0
  timeWindow := 101
  header := ByteArr.replicate 4 0
  padded := zeroMdhPlaintext sampleDraw (buildInnerPacket .control 0 ControlPayload.keepalive.encode)

/-- The tag secrets that matter for it. -/
def sampleAttemptSecrets : List Key :=
  (sampleShared.session 0).secrets ++ [sampleClient, sampleSecondClient].flatMap fun c =>
    (attemptKeys samplePrimitives sampleServerKeys sampleSecondInit.ephPub c.psk).tagSecret ::
      (List.range 2).map fun k => (attemptRatchetedKeys samplePrimitives sampleRandomness
        sampleServerKeys sampleSecondInit.ephPub c.psk (1 + k)).tagSecret

theorem sampleShared_state :
    sampleShared.sessionManager.sessions = [0] ∧
    sampleShared.sessionManager.serverKeys = sampleServerKeys ∧
    sampleShared.sessionManager.nextId = 1 ∧
    sampleShared.clientDb = some [sampleClient, sampleSecondClient] ∧
    Gateway.cooldownActive (sampleEnv 100) sampleShared sampleAddr.ip = false ∧
    sampleShared.sessionManager.HasRoom sampleAddr ∧
    (sampleShared.session 0).clientId ≠ some sampleSecondClient.id ∧
    (sampleShared.sessionManager.heap 0).counter ≤ 0 ∧
    (sampleShared.sessionManager.heap 0).tagWindowBase ≤ 0 ∧
    (sampleAttemptSecrets.map fun s => s.toList.take 2).Nodup ∧
    (let ephPub := sampleSecondInit.ephPub
    let clients := [sampleClient, sampleSecondClient]
    samplePrimitives.x25519 sampleServerKeys.privateKeyBytes ephPub ≠ ByteArr.replicate 32 0 ∧
    (∀ k < clients.length, samplePrimitives.x25519 (samplePrimitives.fromPrivateKey
      (sampleRandomness.serverEph (1 + k))).privateKeyBytes ephPub ≠ ByteArr.replicate 32 0) ∧
    (∀ c ∈ clients, ∀ c' ∈ clients,
      (attemptKeys samplePrimitives sampleServerKeys ephPub c.psk).tagSecret =
        (attemptKeys samplePrimitives sampleServerKeys ephPub c'.psk).tagSecret → c.psk = c'.psk) ∧
    (∀ c ∈ clients, ∀ c' ∈ clients, ∀ k < clients.length,
      (attemptKeys samplePrimitives sampleServerKeys ephPub c.psk).tagSecret ≠
        (attemptRatchetedKeys samplePrimitives sampleRandomness sampleServerKeys ephPub c'.psk
          (1 + k)).tagSecret) ∧
    ∀ c ∈ clients, ∀ sid ∈ sampleShared.sessionManager.sessions, ∀ r,
      (sampleShared.sessionManager.heap sid).tagSecret r ≠
        some (attemptKeys samplePrimitives sampleServerKeys ephPub c.psk).tagSecret) := by
  -- the run is evaluated once for all of its facts
  decide +kernel

theorem sampleSecondInit_ideal {W : Set Nat} (hW : ∀ w ∈ W, w < 2 ^ 24) :
    HandshakeIdeal samplePrimitives sampleRandomness W sampleShared.sessionManager
      sampleSecondInit.ephPub [sampleClient, sampleSecondClient] := by
  obtain ⟨hone, hkeys, hnext, -, -, -, -, hcounter, hbase, hprefixes, hdh1, hdh2, hpsks, hratchets,
    hfresh⟩ := sampleShared_state
  refine ⟨by rw [hkeys]; exact hdh1, by rw [hnext]; exact hdh2, by rw [hkeys]; exact hpsks,
    by rw [hkeys, hnext]; exact hratchets, by rw [hkeys]; exact hfresh,
    (samplePrimitives_collisionFree hprefixes).mono ?_⟩
  rintro x (⟨sid, hsid, r, hr, hw, hc⟩ | ⟨hc, hw, c, hmem, hsecret⟩)
  · rw [hone] at hsid
    obtain rfl := List.mem_singleton.1 hsid
    -- the secrets of the session that lives already
    refine ⟨List.mem_append_left _ (Session.mem_secrets hr), ?_, hW _ hw⟩
    cases r with
    | false =>
        rw [if_neg Bool.false_ne_true] at hc
        exact Nat.lt_trans (Session.lt_of_mem_lookupCounters (n := 0) hcounter hbase hc) (by decide)
    | true =>
        rw [if_pos rfl] at hc
        exact Nat.lt_trans hc (by decide)
  · rw [hkeys, hnext] at hsecret
    refine ⟨List.mem_append_right _ (List.mem_flatMap.2 ⟨c, hmem, ?_⟩),
      Nat.lt_trans hc (by decide), hW _ hw⟩
    -- the secrets that the loop over the clients tries
    rcases hsecret with heq | ⟨k, hk, heq⟩
    · rw [heq]
      exact List.mem_cons_self
    · rw [heq]
      exact List.mem_cons_of_mem _ (List.mem_map.2 ⟨k, List.mem_range.2 hk, rfl⟩)

theorem sampleConnect_windows_lt : ∀ w ∈ Gateway.windowsOf sampleConnect ∪
    { w | w ∈ nearWindows (sampleEnv 100).timeWindow }, w < 2 ^ 24 := by
  rintro w (⟨e, he, rfl⟩ | hw)
  · simp only [sampleConnect, List.mem_cons, List.not_mem_nil, or_false] at he
    rcases he with rfl | rfl
    · decide
    · decide
  · have hnear : ∀ w ∈ nearWindows (sampleEnv 100).timeWindow, w < 2 ^ 24 := by decide
    exact hnear w hw

/-- The second client connects, gets its own session, and leaves the first one's alone. -/
theorem sampleSecondInit_isolated :
    let g' := (Gateway.handlePacket samplePrimitives sampleRandomness sampleConfig (sampleEnv 100)
      (sampleSecondInit.bytes samplePrimitives sampleServerKeys) sampleAddr sampleShared).2
    (∃ sid ∈ g'.sessionManager.sessions, sid ∉ sampleShared.sessionManager.sessions ∧
      (g'.session sid).clientId = some "client-2" ∧
      (g'.session sid).vpnIp = some ⟨10, 0, 0, 3⟩) ∧
    Gateway.Untouched sampleShared g' 0 := by
  intro g'
  -- the state is evaluated for what the theorem asks of it; the tags are told apart by their
  -- secrets' first two bytes
  obtain ⟨hone, hkeys, -, hdb, hcooldown, hroom, hother, -⟩ := sampleShared_state
  obtain ⟨hinit, hsession, huntouched⟩ := @handshake_isolation samplePrimitives sampleRandomness
    sampleConfig sampleServerKeys default [sampleClient, sampleSecondClient] sampleConnect
    sampleShared [sampleClient, sampleSecondClient] rfl hdb (by decide) (by
      rintro c (hc | ⟨e, he, reloaded, hreload, -⟩) c' (hc' | ⟨e, he, reloaded, hreload, -⟩)
      · exact (by decide : ∀ c ∈ [sampleClient, sampleSecondClient],
          ∀ c' ∈ [sampleClient, sampleSecondClient], c.vpnIp = c'.vpnIp → c.id = c'.id) c hc c' hc'
      all_goals
        rcases List.mem_cons.1 he with rfl | he
        · cases hreload
        · obtain rfl := List.mem_singleton.1 he
          cases hreload) (sampleEnv 100)
    (sampleSecondInit.bytes samplePrimitives sampleServerKeys) sampleAddr g' rfl
  obtain ⟨hunknown, hauth⟩ := hinit sampleSecondClient
    (List.mem_cons_of_mem _ (List.mem_singleton_self _)) rfl sampleSecondInit (by rw [hkeys]) rfl
    (by decide) (by decide) hcooldown hroom (sampleSecondInit_ideal sampleConnect_windows_lt)
  obtain ⟨-, -, hopened⟩ := hsession _ hauth
  have hlive : 0 ∈ sampleShared.sessionManager.sessions := by
    rw [hone]
    exact List.mem_singleton_self 0
  refine ⟨hopened, huntouched hunknown 0 hlive fun client hclient => ?_⟩
  obtain rfl := Option.some.inj (hauth.symm.trans hclient)
  exact hother

end Aivpn
