import Aivpn.Server.ClientIsolation

/-!
# The gateway without client database

In legacy mode `create_session` takes the VPN address of the first live session with the same public
IP, and the next octet of the pool when there is none. Once the tag is valid, the other sessions with
that address go. `handlePacket_legacy` says what an accepted handshake does to the live sessions and
their addresses.

Two consequences over runs. A session of another client behind the same public IP survives, and the
new one gets an address of its own, exactly when the address taken over is not the other client's
(`coexists_iff`). And the new session gets an address of the pool exactly when it takes one over, or the
octet has not run out (`pooled_iff`); the octet never goes back.
-/

set_option autoImplicit false

namespace Aivpn

open Aivpn.Lib Aivpn.Lib.Action

/-! ## VPN addresses and the allocator stay -/

namespace SessionManager

variable {P : Primitives} {rng : Randomness} {e : Env × Gateway.Event}

theorem refreshLoop_nextIpOctet (tw : Nat) (tag : Tag) (sids : List SessionId)
    (m : SessionManager) : (refreshLoop P tw tag sids m).2.nextIpOctet = m.nextIpOctet := by
  induction sids generalizing m with
  | nil => rfl
  | cons sid rest ih =>
      unfold refreshLoop
      simp only
      split
      · rfl
      · rw [ih]
        rfl

theorem register_vpnIp (m : SessionManager) (s : Session) (ip : Option Ipv4Addr) (octet : Nat) :
    ((m.register s ip octet).heap m.nextId).vpnIp = ip := by
  unfold register
  simp only [Function.update_self]

@[simp] theorem removeSession_nextIpOctet (m : SessionManager) (sid : SessionId) :
    (m.removeSession sid).nextIpOctet = m.nextIpOctet := by
  unfold removeSession
  split_ifs
  · rfl
  · rfl

theorem rollbackFailedSession_nextIpOctet (m : SessionManager) (sid : SessionId) :
    (m.rollbackFailedSession sid).nextIpOctet = m.nextIpOctet := by
  have hremove := removeSession_nextIpOctet m sid
  unfold rollbackFailedSession
  simp only
  split
  · exact hremove
  · split
    · exact hremove
    · exact hremove

/-- The lookup chain leaves what the assignment of a VPN address depends on. -/
theorem findSession_assign {env : Env} {m m' : SessionManager} {tag : Tag} {ip : IpAddr}
    (h : m.findSession P env tag ip = (.ok none, m')) (addr : SocketAddr) :
    m'.reusedVpnIp addr = m.reusedVpnIp addr ∧ m'.nextIpOctet = m.nextIpOctet := by
  have hip := fun sid => findSession_heap P (fun s => (s.clientAddr, s.vpnIp))
    (fun tw s => congrArg (fun v : SessionView => (v.clientAddr, v.vpnIp)) (refresh_view P tw s))
    (fun tw c s => by simp [Session.recoverAt, Session.updateTagWindow]) env m tag ip sid
  have hsessions := (m.findSession_map P env tag ip).1
  constructor
  · rw [h] at hip hsessions
    unfold reusedVpnIp
    rw [hsessions]
    refine congrArg (fun f => m.sessions.findSome? f) (funext fun sid => ?_)
    obtain ⟨haddr, hvpn⟩ := Prod.mk.inj (hip sid)
    rw [haddr, hvpn]
  · rcases m.findSession_cases P env tag ip with ⟨sid', -, hfs | ⟨c, r, -, hfs⟩⟩ |
      ⟨-, ⟨hit, -, hfs⟩ | ⟨-, hfs⟩⟩
    · cases h.symm.trans hfs
    · cases h.symm.trans hfs
    · cases h.symm.trans hfs
    · rw [h] at hfs
      obtain ⟨hnone, rfl⟩ := Prod.mk.inj hfs
      have hmiss := Except.ok.inj hnone
      unfold recoverSessionByTag at hmiss ⊢
      split at hmiss
      · exact refreshLoop_nextIpOctet env.timeWindow tag _ m
      · cases hmiss

theorem Change.vpnIp {m m' : SessionManager} (h : Change P rng e m m') {sid : SessionId}
    (halloc : sid < m.nextId) : (m'.heap sid).vpnIp = (m.heap sid).vpnIp := by
  rcases h.heap_cases sid with heq | hch | ⟨ephPub, psk, rfl, -⟩
  · rw [heq]
  · exact hch.owner.1
  · exact absurd halloc (Nat.lt_irrefl _)

end SessionManager

theorem Gateway.Changes.vpnIp {P : Primitives} {rng : Randomness} {cfg : GatewayConfig}
    {e : Env × Gateway.Event} {g g' : Gateway} (h : Gateway.Changes P rng cfg e g g')
    {sid : SessionId} (halloc : sid < g.sessionManager.nextId) :
    (g'.session sid).vpnIp = (g.session sid).vpnIp := by
  induction h with
  | refl => rfl
  | @tail g₁ g₂ hch hlast ih =>
      have hle : g.sessionManager.nextId ≤ g₁.sessionManager.nextId :=
        Gateway.Changes.nextId_le hch
      cases hlast with
      | manager hm => exact (hm.vpnIp (Nat.lt_of_lt_of_le halloc hle)).trans ih
      | emit _ => exact ih
      | cooldowns _ => exact ih
      | clients _ => exact ih

namespace Gateway

variable {P : Primitives} {rng : Randomness} {env : Env}

theorem keeps_vpnIp_acceptHandshake (sid other : SessionId) (client : Option ClientConfig)
    (addr : SocketAddr) :
    Keeps (fun g : Gateway => (g.session other).vpnIp)
      (acceptHandshake P rng env sid client addr) := by
  -- a command that rewrites one cell without touching the address
  have hcell : ∀ {g g' : Gateway} {sid : SessionId} {s : Session},
      g'.sessionManager.heap = Function.update g.sessionManager.heap sid s →
      s.vpnIp = (g.session sid).vpnIp → (g'.session other).vpnIp = (g.session other).vpnIp := by
    intro g g' sid s hheap hs
    unfold session at hs ⊢
    rw [hheap]
    by_cases hsid : other = sid
    · rw [hsid, Function.update_self, hs]
    · rw [Function.update_of_ne hsid]
  unfold acceptHandshake
  refine Keeps.bind (fun g => ?_) fun _ => Keeps.bind (fun _ => rfl) fun _ => Keeps.bind ?_ fun _ => ?_
  · exact congrArg (fun heap : SessionId → Session => (heap other).vpnIp)
      (SessionManager.establish_heap g.sessionManager sid _)
  · cases client with
    | none => exact keeps_pure _
    | some client =>
        refine Keeps.bind (fun _ => rfl) fun _ => fun g => ?_
        exact @hcell g _ sid { g.session sid with clientId := some client.id } rfl rfl
  · unfold sendServerHello
    refine Keeps.bind (keeps_gets _) fun s => ?_
    split
    · refine Keeps.bind (fun g => ?_) fun packet => ?_
      · exact @hcell g _ sid (g.session sid).nextSendNonce.2.2 rfl rfl
      · unfold sendTo
        split_ifs
        · exact fun _ => rfl
        · exact keeps_throw _
    · exact keeps_throw _

/-! ## Handshakes without database -/

/-- The handshake branch up to the validation of the tag, once a session is created. -/
theorem offerSession_legacy {packetData : Bytes} {tag : Tag} {addr : SocketAddr} {g : Gateway}
    {sid : SessionId} {m : SessionManager} (hdb : g.clientDb = none)
    (hcool : cooldownActive env g addr.ip = false)
    (hlen : tagSize + mdhLen + 32 ≤ packetData.length)
    (hnew : g.sessionManager.createSession P rng env addr
      (handshakeEphPub P g.sessionManager.serverKeys.publicKeyBytes packetData) none none =
        (.ok sid, m)) :
    offerSession P rng env packetData tag addr g =
      match (m.heap sid).validateTag P env.timeWindow tag with
      | none => (err (.invalidPacket "Tag mismatch on new session"),
          { g with sessionManager := m.rollbackFailedSession sid })
      | some (counter, isRatcheted) =>
          (.ok (sid, none, counter, isRatcheted), { g with sessionManager := m }) := by
  unfold offerSession
  rw [bind_of_ok (gets_apply _ _)]
  simp only [id_eq, hcool, Bool.false_eq_true, if_false, Nat.not_lt.2 hlen]
  rw [bind_of_ok (openSession_of_created P rng env hdb hnew)]
  simp only
  rw [bind_of_ok (gets_apply _ _)]
  unfold session
  cases (m.heap sid).validateTag P env.timeWindow tag with
  | none => rfl
  | some found => rfl

/-- An accepted handshake has created a session without PSK. -/
theorem offerSession_legacy_ok {packetData : Bytes} {tag : Tag} {addr : SocketAddr} {g g' : Gateway}
    {sid : SessionId} {client : Option ClientConfig} {counter : Nat} {isRatcheted : Bool}
    (hdb : g.clientDb = none)
    (h : offerSession P rng env packetData tag addr g =
      (.ok (sid, client, counter, isRatcheted), g')) :
    client = none ∧ ∃ m, g.sessionManager.createSession P rng env addr
      (handshakeEphPub P g.sessionManager.serverKeys.publicKeyBytes packetData) none none =
        (.ok sid, m) ∧ g' = { g with sessionManager := m } := by
  have hfull := h
  unfold offerSession at h
  rw [bind_of_ok (gets_apply _ _)] at h
  simp only [id_eq] at h
  split_ifs at h with hcool hlen
  · cases h
  · cases h
  -- without a client database the one attempt is that with no pre-shared key
  · rcases hnew : g.sessionManager.createSession P rng env addr
      (handshakeEphPub P g.sessionManager.serverKeys.publicKeyBytes packetData) none none with
        ⟨e | sid', m⟩
    · rw [bind_of_error (openSession_of_failed P rng env hdb hnew)] at h
      cases h
    · rw [offerSession_legacy hdb (Bool.not_eq_true _ ▸ hcool) (Nat.not_lt.1 hlen) hnew] at hfull
      split at hfull
      · cases hfull
      · cases hfull
        exact ⟨rfl, m, rfl, rfl⟩

/-- What an accepted handshake goes through: the lookup chain does not know the tag, a session is
created, and it validates the tag. -/
theorem accepted_legacy {packetData : Bytes} {addr : SocketAddr} {g : Gateway} {ephPub : Key}
    {psk : Option Key} (hdb : g.clientDb = none)
    (hacc : acceptedHandshake P rng env g packetData addr = some (ephPub, psk)) :
    ¬ packetData.length < tagSize + 2 ∧ ∃ m m₁ sid counter isRatcheted,
      g.sessionManager.findSession P env (readArray 8 0 packetData) addr.ip = (.ok none, m) ∧
      m.createSession P rng env addr
        (handshakeEphPub P m.serverKeys.publicKeyBytes packetData) none none = (.ok sid, m₁) ∧
      offerSession P rng env packetData (readArray 8 0 packetData) addr
        { g with sessionManager := m } =
          (.ok (sid, none, counter, isRatcheted), { g with sessionManager := m₁ }) := by
  unfold acceptedHandshake at hacc
  by_cases hlen : packetData.length < tagSize + 2
  · rw [if_pos hlen] at hacc
    cases hacc
  refine ⟨hlen, ?_⟩
  rw [if_neg hlen] at hacc
  -- an accepted handshake is one whose tag no session has
  rcases hfs : g.sessionManager.findSession P env (readArray 8 0 packetData) addr.ip with
    ⟨e | hit, m⟩
  · simp only [hfs] at hacc
    cases hacc
  cases hit with
  | some hit =>
      simp only [hfs] at hacc
      cases hacc
  | none =>
      simp only [hfs] at hacc
      rcases hoffer : offerSession P rng env packetData (readArray 8 0 packetData) addr
        { g with sessionManager := m } with ⟨e | ⟨sid, client, counter, isRatcheted⟩, g₂⟩
      · rw [hoffer] at hacc
        cases hacc
      · obtain ⟨rfl, m₁, hnew, rfl⟩ := offerSession_legacy_ok
          (g := { g with sessionManager := m }) hdb hoffer
        exact ⟨m, m₁, sid, counter, isRatcheted, rfl, hnew, hoffer⟩

/-- A handshake is accepted when the tag is unknown and belongs to the first counters of the keys that
the session would get. -/
theorem accepted_of_first {packetData : Bytes} {addr : SocketAddr} {g : Gateway} {ephPub : Key}
    {dh1 dh2 : Key} (hdb : g.clientDb = none) (hcool : cooldownActive env g addr.ip = false)
    (hlen : tagSize + mdhLen + 32 ≤ packetData.length)
    (hunknown : (g.sessionManager.findSession P env (readArray 8 0 packetData) addr.ip).1 = .ok none)
    (hroom : g.sessionManager.HasRoom addr)
    (heph : handshakeEphPub P g.sessionManager.serverKeys.publicKeyBytes packetData = ephPub)
    (hdh1 : P.computeShared g.sessionManager.serverKeys ephPub = .ok dh1)
    (hdh2 : P.computeShared (P.fromPrivateKey (rng.serverEph g.sessionManager.nextId)) ephPub =
      .ok dh2)
    (hfirst : inFirstWindow P (P.deriveSessionKeys dh1 none ephPub).tagSecret env.timeWindow
      (readArray 8 0 packetData) = true) :
    acceptedHandshake P rng env g packetData addr = some (ephPub, none) := by
  have hshort : ¬ packetData.length < tagSize + 2 := by
    simp only [tagSize, mdhLen] at hlen ⊢
    omega
  -- the lookup changes no key, draws no id and leaves the room as it is
  have hchain := SessionManager.changes_findSession P rng (env, .cleanup) g.sessionManager
    (readArray 8 0 packetData) addr.ip
  obtain ⟨-, -, hnext⟩ := g.sessionManager.findSession_map P env (readArray 8 0 packetData) addr.ip
  have hroom' := (g.sessionManager.findSession_hasRoom P env (readArray 8 0 packetData) addr.ip
    addr).2 hroom
  rcases hfs : g.sessionManager.findSession P env (readArray 8 0 packetData) addr.ip with ⟨r, m⟩
  rw [hfs] at hunknown hchain hnext hroom'
  cases hunknown
  have hkeys : m.serverKeys = g.sessionManager.serverKeys := hchain.serverKeys
  have hid : m.nextId = g.sessionManager.nextId := hnext
  rw [← hkeys] at heph hdh1
  rw [← hid] at hdh2
  rcases hnew : m.createSession P rng env addr ephPub none none with ⟨e | sid, m₁⟩
  · exact absurd hnew (SessionManager.createSession_ne_error hroom' hdh1 hdh2)
  -- the session that is created has the tag in its first window
  obtain ⟨-, dh1', dh2', hdh1', -, hvalid⟩ :=
    SessionManager.createSession_validates hnew (readArray 8 0 packetData)
  cases hdh1.symm.trans hdh1'
  rw [hfirst, Bool.true_or] at hvalid
  obtain ⟨⟨counter, isRatcheted⟩, hvalid⟩ := Option.isSome_iff_exists.1 hvalid
  rw [← heph] at hnew
  have hoffer := @offerSession_legacy P rng env packetData (readArray 8 0 packetData) addr
    { g with sessionManager := m } sid m₁ hdb hcool hlen hnew
  simp only [hvalid] at hoffer
  unfold acceptedHandshake
  rw [if_neg hshort]
  simp only [hfs, hoffer, Option.map_none, heph]

/-- The VPN address that a new session is assigned. -/
def assignedVpnIp (g : Gateway) (addr : SocketAddr) : Option Ipv4Addr :=
  (g.sessionManager.assignVpnIp none (g.sessionManager.reusedVpnIp addr)).1

/-- An accepted handshake in legacy mode: the new session is live with the address assigned to it, the
live sessions with that address go, and the others stay with their addresses. -/
theorem handlePacket_legacy (cfg : GatewayConfig) {packetData : Bytes} {addr : SocketAddr}
    {g g' : Gateway} {ephPub : Key} {psk : Option Key} (hm : g.sessionManager.MapInv)
    (hdb : g.clientDb = none)
    (hacc : acceptedHandshake P rng env g packetData addr = some (ephPub, psk))
    (hg' : g' = (handlePacket P rng cfg env packetData addr g).2) :
    (g'.session g.sessionManager.nextId).vpnIp = assignedVpnIp g addr ∧
    (∀ sid ∈ g.sessionManager.sessions, (g'.session sid).vpnIp = (g.session sid).vpnIp) ∧
    ∀ sid, sid ∈ g'.sessionManager.sessions ↔ sid = g.sessionManager.nextId ∨
      sid ∈ g.sessionManager.sessions ∧
        (assignedVpnIp g addr = none ∨ (g.session sid).vpnIp ≠ assignedVpnIp g addr) := by
  obtain ⟨hlen, m, m₁, sid, counter, isRatcheted, hfs, hnew, hoffer⟩ := accepted_legacy hdb hacc
  have hchain := SessionManager.changes_findSession P rng (env, .cleanup) g.sessionManager
    (readArray 8 0 packetData) addr.ip
  obtain ⟨hsessions, -, hnext⟩ := g.sessionManager.findSession_map P env (readArray 8 0 packetData)
    addr.ip
  have hips := g.sessionManager.findSession_vpnIp P env (readArray 8 0 packetData) addr.ip
  rw [hfs] at hchain hsessions hnext hips
  obtain ⟨hreused, hoctet⟩ := SessionManager.findSession_assign hfs addr
  obtain ⟨-, -, hsid, dh1, dh2, -, -, hm₁⟩ := SessionManager.createSession_ok hnew
  have hsid' : sid = g.sessionManager.nextId := hsid.trans hnext
  -- the sessions behind the creation
  have hassigned : (m₁.heap sid).vpnIp = assignedVpnIp g addr := by
    rw [hm₁, hsid, SessionManager.register_vpnIp]
    unfold assignedVpnIp SessionManager.assignVpnIp
    rw [hreused, hoctet]
  have hother : ∀ other ∈ g.sessionManager.sessions,
      (m₁.heap other).vpnIp = (g.session other).vpnIp := by
    intro other hlive
    have hne : other ≠ m.nextId := by
      have hlt := hm.allocated other hlive
      rw [hnext]
      exact Nat.ne_of_lt hlt
    rw [hm₁]
    exact (congrArg Session.vpnIp (Function.update_of_ne hne _ _)).trans (hips other)
  -- the handshake branch behind it
  rcases hid : identify P rng env packetData addr g with ⟨r, g₁⟩
  have hidentify : g₁ = (acceptHandshake P rng env sid none addr { g with sessionManager := m₁ }).2 ∧
      ∀ t, r = .ok t → t.sessionId = sid ∧ t.isNewSession = true := by
    unfold identify at hid
    rw [bind_of_ok (managerExcept_of_ok hfs)] at hid
    simp only [handshake] at hid
    rw [bind_of_ok hoffer] at hid
    simp only at hid
    rcases hacc' : acceptHandshake P rng env sid none addr { g with sessionManager := m₁ } with
      ⟨e | u, g₂⟩
    · rw [bind_of_error hacc'] at hid
      cases hid
      exact ⟨rfl, fun t ht => by cases ht⟩
    · rw [bind_of_ok hacc'] at hid
      cases hid
      refine ⟨rfl, ?_⟩
      rintro t ht
      cases ht
      exact ⟨rfl, rfl⟩
  obtain ⟨hg₁, ht⟩ := hidentify
  obtain ⟨-, hrouting⟩ := handlePacket_bystanders P rng cfg env hlen hid ht
  have hroutes := routing_acceptHandshake P rng env sid none addr { g with sessionManager := m₁ }
  rw [← hg₁, ← hrouting, ← hg'] at hroutes
  have hlive : g'.sessionManager.sessions = (m₁.establish sid none).sessions :=
    congrArg Prod.fst hroutes
  have hfinal : ∀ other < m₁.nextId, (g'.session other).vpnIp = (m₁.heap other).vpnIp := by
    intro other halloc
    have hkept := @keeps_vpnIp_acceptHandshake P rng env sid other none addr
      { g with sessionManager := m₁ }
    have hchanges := changes_handlePacket P rng cfg (env, .packet packetData addr) hlen rfl g
    have hnextId : g₁.sessionManager.nextId = m₁.nextId := by
      have hroute := congrArg (fun r => r.2.2)
        (routing_acceptHandshake P rng env sid none addr { g with sessionManager := m₁ })
      rw [← hg₁] at hroute
      exact hroute.trans (SessionManager.establish_nextId m₁ sid none)
    rw [hid, ← hg'] at hchanges
    rw [hchanges.vpnIp (hnextId ▸ halloc), hg₁]
    exact hkept
  obtain ⟨hsessions₁, hnext₁, -⟩ := SessionManager.createSession_sessions hnew
  have halloc : m₁.nextId = g.sessionManager.nextId + 1 := hnext₁.trans (congrArg Nat.succ hnext)
  refine ⟨?_, ?_, ?_⟩
  · have hlt : sid < m₁.nextId := by
      rw [halloc, hsid']
      exact Nat.lt_succ_self _
    rw [← hsid', hfinal sid hlt, hassigned]
  · intro other hlive'
    have hlt : other < m₁.nextId := by
      rw [halloc]
      exact Nat.lt_succ_of_lt (hm.allocated other hlive')
    rw [hfinal other hlt, hother other hlive']
  · intro other
    rw [hlive, SessionManager.mem_establish, hsessions₁, hassigned, List.mem_append,
      List.mem_singleton, hsessions, ← hsid, hsid']
    constructor
    · rintro ⟨hold | rfl, hcase⟩
      · by_cases hnew' : other = g.sessionManager.nextId
        · exact Or.inl hnew'
        · refine Or.inr ⟨hold, hcase.resolve_left hnew' |>.imp_right ?_⟩
          rw [hother other hold]
          exact id
      · exact Or.inl rfl
    · rintro (rfl | ⟨hold, hcase⟩)
      · exact ⟨Or.inr rfl, Or.inl rfl⟩
      · refine ⟨Or.inl hold, Or.inr (hcase.imp_right ?_)⟩
        rw [hother other hold]
        exact id

theorem clientDb_of_run_none (P : Primitives) (rng : Randomness) (cfg : GatewayConfig)
    (serverKeys : KeyPair) (signingKey : Key) (es : List (Env × Event)) :
    (runFrom (step P rng cfg) (new serverKeys signingKey none) es).clientDb = none := by
  have hstep : ∀ (g : Gateway) (e : Env × Event), g.clientDb = none →
      (step P rng cfg g e).clientDb = none := by
    intro g e hdb
    by_cases he : ∃ clients, e.2 = .reload clients
    · obtain ⟨clients, he⟩ := he
      unfold step perform
      rw [he]
      exact congrArg (Option.map fun _ => clients) hdb
    · rw [(step_cases P rng cfg e g).clientDb P rng cfg (not_exists.1 he), hdb]
  exact runFrom_invariant hstep rfl es

/-- Between `g` and `g'` a handshake has left the session `sid` alone and has opened a session with a
VPN address of its own. -/
def Coexists (g g' : Gateway) (sid : SessionId) : Prop :=
  sid ∈ g'.sessionManager.sessions ∧
  (∀ ip, (g.session sid).vpnIp = some ip → g'.sessionManager.vpnIpMap ip = some sid) ∧
  ∃ new ∈ g'.sessionManager.sessions, new ∉ g.sessionManager.sessions ∧
    ∃ ip, (g'.session new).vpnIp = some ip ∧
      ∀ other ∈ g'.sessionManager.sessions, other ≠ new → (g'.session other).vpnIp ≠ some ip

/-- The VPN addresses of the pool: `10.0.0.2` to `10.0.0.254`. -/
def InPool (ip : Ipv4Addr) : Prop :=
  ip.a = 10 ∧ ip.b = 0 ∧ ip.c = 0 ∧ 2 ≤ ip.d.toNat ∧ ip.d.toNat ≤ 254

/-- Between `g` and `g'` a session was opened that has an address of the pool. -/
def OpensInPool (g g' : Gateway) : Prop :=
  ∃ new ∈ g'.sessionManager.sessions, new ∉ g.sessionManager.sessions ∧
    ∃ ip, InPool ip ∧ (g'.session new).vpnIp = some ip

theorem assignedVpnIp_of_some {g : Gateway} {addr : SocketAddr} {ip : Ipv4Addr}
    (h : g.sessionManager.reusedVpnIp addr = some ip) : assignedVpnIp g addr = some ip := by
  unfold assignedVpnIp SessionManager.assignVpnIp
  simp only [h, Option.none_or]

theorem assignedVpnIp_of_none {g : Gateway} {addr : SocketAddr}
    (h : g.sessionManager.reusedVpnIp addr = none) :
    assignedVpnIp g addr = if g.sessionManager.nextIpOctet ≤ 254 then
      some ⟨10, 0, 0, UInt8.ofNat g.sessionManager.nextIpOctet⟩ else none := by
  unfold assignedVpnIp SessionManager.assignVpnIp
  simp only [h, Option.none_or]

/-- The session that an accepted handshake opens is the only new one. -/
theorem new_session_legacy (cfg : GatewayConfig) {packetData : Bytes} {addr : SocketAddr}
    {g g' : Gateway} {ephPub : Key} {psk : Option Key} (hm : g.sessionManager.MapInv)
    (hdb : g.clientDb = none)
    (hacc : acceptedHandshake P rng env g packetData addr = some (ephPub, psk))
    (hg' : g' = (handlePacket P rng cfg env packetData addr g).2) (new : SessionId) :
    new ∈ g'.sessionManager.sessions ∧ new ∉ g.sessionManager.sessions ↔
      new = g.sessionManager.nextId := by
  obtain ⟨-, -, hlive⟩ := handlePacket_legacy cfg hm hdb hacc hg'
  rw [hlive]
  constructor
  · rintro ⟨heq | ⟨hold, -⟩, hnot⟩
    · exact heq
    · exact absurd hold hnot
  · rintro rfl
    exact ⟨Or.inl rfl, fun hold => Nat.lt_irrefl _ (hm.allocated _ hold)⟩

end Gateway

/-! ## Two clients behind one address -/

/-- In every run without client database, whatever handshake is accepted from the public IP of a live
session: that session stays live with its VPN address mapped to it, and the new session gets an address
that no other live session has, exactly when the address that is taken over is not that of the live
session, or there is none to take over and the octet has not run out. -/
theorem coexists_iff (P : Primitives) (rng : Randomness) (cfg : GatewayConfig)
    (serverKeys : KeyPair) (signingKey : Key) (es : List (Env × Gateway.Event)) {g : Gateway}
    (hg : g = runFrom (Gateway.step P rng cfg) (Gateway.new serverKeys signingKey none) es)
    (env : Env) (packetData : Bytes) (addr : SocketAddr) {ephPub : Key} {psk : Option Key}
    (hacc : Gateway.acceptedHandshake P rng env g packetData addr = some (ephPub, psk))
    {sid : SessionId} (hlive : sid ∈ g.sessionManager.sessions)
    (hip : (g.session sid).clientAddr.ip = addr.ip) :
    Gateway.Coexists g (Gateway.handlePacket P rng cfg env packetData addr g).2 sid ↔
      (∃ ip, g.sessionManager.reusedVpnIp addr = some ip ∧ (g.session sid).vpnIp ≠ some ip) ∨
      (g.sessionManager.reusedVpnIp addr = none ∧ g.sessionManager.nextIpOctet ≤ 254) := by
  have hm : g.sessionManager.MapInv := by
    rw [hg]
    exact mapInv_of_run P rng cfg serverKeys signingKey none es
  have hm' : (Gateway.handlePacket P rng cfg env packetData addr g).2.sessionManager.MapInv := by
    have hrun := mapInv_of_run P rng cfg serverKeys signingKey none
      (es ++ [(env, .packet packetData addr)])
    rw [runFrom_append, ← hg] at hrun
    exact hrun
  have hdb : g.clientDb = none := by
    rw [hg]
    exact Gateway.clientDb_of_run_none P rng cfg serverKeys signingKey es
  obtain ⟨hnewIp, holdIp, hmem⟩ := Gateway.handlePacket_legacy cfg hm hdb hacc rfl
  have hnew := Gateway.new_session_legacy cfg hm hdb hacc rfl
  -- what happens to the session, in terms of the address assigned
  have hcoexists : Gateway.Coexists g (Gateway.handlePacket P rng cfg env packetData addr g).2 sid ↔
      ∃ ip, Gateway.assignedVpnIp g addr = some ip ∧ (g.session sid).vpnIp ≠ some ip := by
    constructor
    · rintro ⟨hstays, -, new, hnewLive, hnewNot, ip, hnewVpn, -⟩
      obtain rfl := (hnew new).1 ⟨hnewLive, hnewNot⟩
      rw [hnewIp] at hnewVpn
      refine ⟨ip, hnewVpn, ?_⟩
      rcases (hmem sid).1 hstays with heq | ⟨-, hnone | hne⟩
      · exact absurd (heq ▸ hlive) hnewNot
      · rw [hnone] at hnewVpn
        cases hnewVpn
      · rwa [hnewVpn] at hne
    · rintro ⟨ip, hassigned, hne⟩
      have hstays := (hmem sid).2 (Or.inr ⟨hlive, Or.inr (hassigned ▸ hne)⟩)
      obtain ⟨hnewLive, hnewNot⟩ := (hnew _).2 rfl
      refine ⟨hstays, ?_, _, hnewLive, hnewNot, ip, hnewIp.trans hassigned, ?_⟩
      · intro own hown
        exact (hm'.routed own sid).2 ⟨hstays, (holdIp sid hlive).trans hown⟩
      · intro other hother hother'
        rcases (hmem other).1 hother with heq | ⟨hold, hnone | hne'⟩
        · exact absurd heq hother'
        · rw [hassigned] at hnone
          cases hnone
        · rw [holdIp other hold, ← hassigned]
          exact hne'
  rw [hcoexists]
  cases hreused : g.sessionManager.reusedVpnIp addr with
  | some ip =>
      rw [Gateway.assignedVpnIp_of_some hreused]
      simp
  | none =>
      -- no live session of this IP has an address, this one included
      have hnoIp : (g.session sid).vpnIp = none := by
        have hall := List.findSome?_eq_none_iff.1 hreused sid hlive
        have haddr : (g.sessionManager.heap sid).clientAddr.ip = addr.ip := hip
        rwa [if_pos haddr] at hall
      rw [Gateway.assignedVpnIp_of_none hreused, hnoIp]
      by_cases hoctet : g.sessionManager.nextIpOctet ≤ 254
      · simp [hoctet]
      · simp [hoctet]

/-- The init of a client without PSK, with the given ephemeral key. -/
def sampleLegacyInit (eph : Nat) : Bytes :=
  let keypair := samplePrimitives.fromPrivateKey (ByteArr.replicate 32 (UInt8.ofNat eph))
  (buildZeroMdhPacket samplePrimitives 100 sampleDraw (samplePrimitives.deriveSessionKeys
    (samplePrimitives.x25519 keypair.privateKeyBytes sampleServerKeys.publicKeyBytes) none
    keypair.publicKeyBytes) 0 (buildInnerPacket .control 0 ControlPayload.keepalive.encode)
    (some (obfuscateClientEphPub samplePrimitives keypair sampleServerKeys.publicKeyBytes))).1

/-- A gateway without client database to which one client has connected. -/
def sampleLegacy : Gateway :=
  runFrom (Gateway.step samplePrimitives sampleRandomness sampleConfig)
    (Gateway.new sampleServerKeys default none)
    [(sampleEnv 100, .packet (sampleLegacyInit 5) sampleAddr)]

/-- Another client behind the same public IP. -/
def sampleNeighbourAddr : SocketAddr := { sampleAddr with port := 4001 }

/-- The sample gateway and its neighbour's init, evaluated once for all of their facts. -/
theorem sampleLegacy_state :
    sampleLegacy.clientDb = none ∧ sampleLegacy.sessionManager.sessions = [0] ∧
    sampleLegacy.sessionManager.nextId = 1 ∧
    sampleLegacy.sessionManager.serverKeys = sampleServerKeys ∧
    Gateway.cooldownActive (sampleEnv 100) sampleLegacy sampleNeighbourAddr.ip = false ∧
    sampleLegacy.sessionManager.HasRoom sampleNeighbourAddr ∧
    (∀ secret ∈ (sampleLegacy.session 0).secrets, secret.toList.take 2 ≠
      (readArray 8 0 (sampleLegacyInit 21) : Tag).toList.take 2) ∧
    (sampleLegacy.session 0).clientAddr.ip = sampleNeighbourAddr.ip ∧
    (sampleLegacy.session 0).ephPub ≠
      (samplePrimitives.fromPrivateKey (ByteArr.replicate 32 21)).publicKeyBytes ∧
    sampleLegacy.sessionManager.reusedVpnIp sampleNeighbourAddr = some ⟨10, 0, 0, 2⟩ ∧
    (sampleLegacy.session 0).vpnIp = some ⟨10, 0, 0, 2⟩ := by
  decide +kernel

/-- The inits of the two sample clients, each with the id of the session it opens. -/
theorem sampleLegacyInit_valid :
    ∀ p ∈ [(5, 253), (21, 1)],
      let ephPub := (samplePrimitives.fromPrivateKey
        (ByteArr.replicate 32 (UInt8.ofNat p.1))).publicKeyBytes
      let dh1 := samplePrimitives.x25519 sampleServerKeys.privateKeyBytes ephPub
      tagSize + mdhLen + 32 ≤ (sampleLegacyInit p.1).length ∧
      Gateway.handshakeEphPub samplePrimitives sampleServerKeys.publicKeyBytes
        (sampleLegacyInit p.1) = ephPub ∧
      dh1 ≠ ByteArr.replicate 32 0 ∧
      samplePrimitives.x25519 (samplePrimitives.fromPrivateKey
        (sampleRandomness.serverEph p.2)).privateKeyBytes ephPub ≠ ByteArr.replicate 32 0 ∧
      samplePrimitives.generateResonanceTag
        (samplePrimitives.deriveSessionKeys dh1 none ephPub).tagSecret 0 100 =
          readArray 8 0 (sampleLegacyInit p.1) := by
  decide +kernel

/-- No session of the sample looks for a tag with another mark. -/
theorem sampleLegacy_unknown {tag : Tag} (ip : IpAddr)
    (h : ∀ secret ∈ (sampleLegacy.session 0).secrets, secret.toList.take 2 ≠ tag.toList.take 2) :
    (sampleLegacy.sessionManager.findSession samplePrimitives (sampleEnv 100) tag ip).1 =
      .ok none := by
  have htags : sampleLegacy.sessionManager.TagInv := tagInv_of_run samplePrimitives
    sampleRandomness sampleConfig sampleServerKeys default none _
  have hsound := fun sid => (cacheSound_of_run samplePrimitives sampleRandomness sampleConfig
    sampleServerKeys default none [(sampleEnv 100, .packet (sampleLegacyInit 5) sampleAddr)]
    sid).mono (Set.subset_univ _)
  obtain ⟨-, hone, -⟩ := sampleLegacy_state
  refine SessionManager.findSession_of_no_tag htags (fun sid _ => hsound sid)
    (fun _ _ => Set.mem_univ _) (fun sid hlive c r htag => ?_) ip
  rw [hone] at hlive
  obtain rfl := List.mem_singleton.1 hlive
  obtain ⟨secret, w, hsecret, -, heq⟩ := htag.triple
  refine h secret (Session.mem_secrets hsecret) ?_
  rw [← heq, samplePrimitives_tag, List.append_assoc, List.take_left' (by simp)]

theorem sampleLegacy_accepts :
    Gateway.acceptedHandshake samplePrimitives sampleRandomness (sampleEnv 100) sampleLegacy
      (sampleLegacyInit 21) sampleNeighbourAddr =
        some ((samplePrimitives.fromPrivateKey (ByteArr.replicate 32 21)).publicKeyBytes, none) := by
  obtain ⟨hdb, -, hnext, hkeys, hcool, hroom, hmark, -⟩ := sampleLegacy_state
  obtain ⟨hlen, heph, hdh1, hdh2, htag⟩ := sampleLegacyInit_valid (21, 1) (by decide)
  refine Gateway.accepted_of_first hdb hcool hlen (sampleLegacy_unknown _ hmark) hroom
    (by rw [hkeys]; exact heph) (computeShared_of_ne ?_) (computeShared_of_ne ?_) ?_
  · rw [hkeys]
    exact hdh1
  · rw [hnext]
    exact hdh2
  · rw [hkeys]
    exact inFirstWindow_eq_true.2 ⟨100, List.mem_cons_self, 0, by decide, htag⟩

/-- The second client behind the IP takes the first one's address, and the first one's session goes. -/
theorem neighbour_removes_session :
    0 ∈ sampleLegacy.sessionManager.sessions ∧
    (sampleLegacy.session 0).clientAddr.ip = sampleNeighbourAddr.ip ∧
    (sampleLegacy.session 0).ephPub ≠
      (samplePrimitives.fromPrivateKey (ByteArr.replicate 32 21)).publicKeyBytes ∧
    Gateway.acceptedHandshake samplePrimitives sampleRandomness (sampleEnv 100) sampleLegacy
      (sampleLegacyInit 21) sampleNeighbourAddr =
        some ((samplePrimitives.fromPrivateKey (ByteArr.replicate 32 21)).publicKeyBytes, none) ∧
    ¬ Gateway.Coexists sampleLegacy (Gateway.handlePacket samplePrimitives sampleRandomness
      sampleConfig (sampleEnv 100) (sampleLegacyInit 21) sampleNeighbourAddr sampleLegacy).2 0 := by
  have hm : sampleLegacy.sessionManager.MapInv := mapInv_of_run samplePrimitives sampleRandomness
    sampleConfig sampleServerKeys default none _
  obtain ⟨hdb, hone, hnext, -, -, -, -, hip, heph, hreused, hown⟩ := sampleLegacy_state
  refine ⟨hone ▸ List.mem_cons_self, hip, heph, sampleLegacy_accepts, ?_⟩
  rintro ⟨hstays, -, -⟩
  have hassigned := Gateway.assignedVpnIp_of_some hreused
  obtain ⟨-, -, hlive⟩ := Gateway.handlePacket_legacy sampleConfig hm hdb sampleLegacy_accepts rfl
  rcases (hlive 0).1 hstays with hnew | ⟨-, hnone | hne⟩
  · rw [hnext] at hnew
    cases hnew
  · rw [hassigned] at hnone
    cases hnone
  · exact hne (hown.trans hassigned.symm)

/-- The same from the condition: the address that is taken over is that of the first client. -/
theorem neighbour_takes_over :
    ¬ Gateway.Coexists sampleLegacy (Gateway.handlePacket samplePrimitives sampleRandomness
      sampleConfig (sampleEnv 100) (sampleLegacyInit 21) sampleNeighbourAddr sampleLegacy).2 0 := by
  obtain ⟨-, hone, -, -, -, -, -, haddr, -, hreused, hown⟩ := sampleLegacy_state
  intro hcoexists
  rcases (@coexists_iff samplePrimitives sampleRandomness sampleConfig sampleServerKeys default
    [(sampleEnv 100, .packet (sampleLegacyInit 5) sampleAddr)] sampleLegacy rfl (sampleEnv 100)
    (sampleLegacyInit 21) sampleNeighbourAddr _ _ sampleLegacy_accepts _
    (hone ▸ List.mem_cons_self) haddr).1 hcoexists with ⟨ip, hip, hne⟩ | ⟨hnone, -⟩
  · rw [hreused] at hip
    exact hne (hown.trans hip)
  · rw [hreused] at hnone
    cases hnone

/-! ## The pool -/

/-- In every run without client database, whatever handshake is accepted: the new session gets an
address of the pool exactly when it takes one over from a live session with the same public IP, or there
is none to take over and the octet that comes next is in the pool. -/
theorem pooled_iff (P : Primitives) (rng : Randomness) (cfg : GatewayConfig)
    (serverKeys : KeyPair) (signingKey : Key) (es : List (Env × Gateway.Event)) {g : Gateway}
    (hg : g = runFrom (Gateway.step P rng cfg) (Gateway.new serverKeys signingKey none) es)
    (env : Env) (packetData : Bytes) (addr : SocketAddr) {ephPub : Key} {psk : Option Key}
    (hacc : Gateway.acceptedHandshake P rng env g packetData addr = some (ephPub, psk)) :
    Gateway.OpensInPool g (Gateway.handlePacket P rng cfg env packetData addr g).2 ↔
      (∃ ip, g.sessionManager.reusedVpnIp addr = some ip ∧ Gateway.InPool ip) ∨
      (g.sessionManager.reusedVpnIp addr = none ∧ 2 ≤ g.sessionManager.nextIpOctet ∧
        g.sessionManager.nextIpOctet ≤ 254) := by
  have hm : g.sessionManager.MapInv := by
    rw [hg]
    exact mapInv_of_run P rng cfg serverKeys signingKey none es
  have hdb : g.clientDb = none := by
    rw [hg]
    exact Gateway.clientDb_of_run_none P rng cfg serverKeys signingKey es
  obtain ⟨hnewIp, -, -⟩ := Gateway.handlePacket_legacy cfg hm hdb hacc rfl
  have hnew := Gateway.new_session_legacy cfg hm hdb hacc rfl
  have hopens : Gateway.OpensInPool g (Gateway.handlePacket P rng cfg env packetData addr g).2 ↔
      ∃ ip, Gateway.InPool ip ∧ Gateway.assignedVpnIp g addr = some ip := by
    -- the pool is asked about the one session that is new
    constructor
    · rintro ⟨new, hlive, hnot, ip, hpool, hvpn⟩
      obtain rfl := (hnew new).1 ⟨hlive, hnot⟩
      exact ⟨ip, hpool, hnewIp.symm.trans hvpn⟩
    · rintro ⟨ip, hpool, hassigned⟩
      obtain ⟨hlive, hnot⟩ := (hnew _).2 rfl
      exact ⟨_, hlive, hnot, ip, hpool, hnewIp.trans hassigned⟩
  rw [hopens]
  cases hreused : g.sessionManager.reusedVpnIp addr with
  | some ip =>
      rw [Gateway.assignedVpnIp_of_some hreused]
      simp [and_comm]
  | none =>
      rw [Gateway.assignedVpnIp_of_none hreused]
      by_cases hoctet : g.sessionManager.nextIpOctet ≤ 254
      -- the octet fits into a byte, so that the address is the one counted
      · have hbyte : (UInt8.ofNat g.sessionManager.nextIpOctet).toNat =
            g.sessionManager.nextIpOctet := by
          rw [UInt8.toNat_ofNat']
          omega
        simp [hoctet, Gateway.InPool, hbyte]
      · simp [hoctet]

/-- A datagram that is long enough for a key, with a tag of no session. -/
def sampleFlood : Bytes := List.replicate 8 255 ++ List.replicate 4 0 ++ 0 :: 1 :: List.replicate 30 0

/-- The gateway without client database after `n` such datagrams. -/
def sampleFlooded (n : Nat) : Gateway :=
  runFrom (Gateway.step samplePrimitives sampleRandomness sampleConfig)
    (Gateway.new sampleServerKeys default none)
    (List.replicate n (sampleEnv 100, .packet sampleFlood sampleOtherAddr))

/-- No session is left behind, and `n` octets are used up. -/
structure Flooded (n : Nat) (g : Gateway) : Prop where
  map : g.sessionManager.MapInv
  sessions : g.sessionManager.sessions = []
  clientDb : g.clientDb = none
  cooldowns : g.handshakeCooldowns = fun _ => none
  octet : g.sessionManager.nextIpOctet = 2 + n
  nextId : g.sessionManager.nextId = n
  serverKeys : g.sessionManager.serverKeys = sampleServerKeys

theorem SessionManager.findSession_of_empty {P : Primitives} {env : Env} {m : SessionManager}
    (h : m.sessions = []) (tag : Tag) (ip : IpAddr) :
    m.findSession P env tag ip = (.ok none, m) := by
  have hget : m.getSessionByTag tag = none := by
    unfold getSessionByTag
    rw [h]
    split
    · exact if_neg List.not_mem_nil
    · rfl
  have hrefresh : m.refreshAndFindByTag P env.timeWindow tag = (none, m) := by
    unfold refreshAndFindByTag
    rw [h]
    rfl
  have hhit : m.recoveryHit P env.timeWindow tag ip = none := by
    unfold recoveryHit
    rw [h]
    rfl
  unfold findSession
  simp only [hget, hrefresh]
  unfold recoverSessionByTag
  simp only [hhit]

/-- The flood's tag is that of a window far away. -/
theorem sampleFlood_tag (secret : Key) {w : Nat} (hw : w ∈ nearWindows 100) (c : Nat) :
    samplePrimitives.generateResonanceTag secret c w ≠ readArray 8 0 sampleFlood := by
  intro heq
  have hbytes := congrArg (fun t : Tag => t.toList.drop 5) heq
  simp only [samplePrimitives_tag] at hbytes
  rw [List.drop_left' (by simp)] at hbytes
  have hwindows : ∀ w ∈ nearWindows 100,
      leBytes 3 w ≠ (readArray 8 0 sampleFlood : Tag).toList.drop 5 := by
    decide
  exact hwindows w hw hbytes

theorem samplePrimitives_x25519_byte {k u : Key} {i : Nat} {a b : UInt8}
    (ha : k.toList[i]? = some a) (hb : u.toList[i]? = some b) :
    (samplePrimitives.x25519 k u).toList[i]? = some (a + b) := by
  show (List.zipWith (· + ·) k.toList u.toList)[i]? = some (a + b)
  rw [List.getElem?_zipWith, ha, hb]

/-- The key in the flood has a shared secret with every key of equal bytes. -/
theorem sampleFlood_shared (b : UInt8) :
    ∃ dh, samplePrimitives.computeShared (samplePrimitives.fromPrivateKey (ByteArr.replicate 32 b))
      (Gateway.handshakeEphPub samplePrimitives sampleServerKeys.publicKeyBytes sampleFlood) =
        .ok dh := by
  refine ⟨_, computeShared_of_ne fun hzero => ?_⟩
  -- two bytes of the sum differ, since the clamping leaves the private key's alone
  have heph : (Gateway.handshakeEphPub samplePrimitives sampleServerKeys.publicKeyBytes
      sampleFlood).toList[1]? = some 24 ∧ (Gateway.handshakeEphPub samplePrimitives
        sampleServerKeys.publicKeyBytes sampleFlood).toList[2]? = some 25 := by
    decide
  have hprivate : ∀ i, i = 1 ∨ i = 2 → (samplePrimitives.fromPrivateKey
      (ByteArr.replicate 32 b)).privateKeyBytes.toList[i]? = some b := by
    rintro i (rfl | rfl)
    · rfl
    · rfl
  have h1 := samplePrimitives_x25519_byte (hprivate 1 (Or.inl rfl)) heph.1
  have h2 := samplePrimitives_x25519_byte (hprivate 2 (Or.inr rfl)) heph.2
  rw [hzero] at h1 h2
  have hsum : b + 24 = b + 25 := Option.some.inj (h1.symm.trans h2)
  exact absurd ((UInt8.add_right_inj b).1 hsum) (by decide)

/-- One datagram of the flood is refused, and uses up an octet. -/
theorem Flooded.step {n : Nat} {g : Gateway} (h : Flooded n g) (hn : n < 1000) :
    Flooded (n + 1) (Gateway.step samplePrimitives sampleRandomness sampleConfig g
      (sampleEnv 100, .packet sampleFlood sampleOtherAddr)) := by
  have hcool : Gateway.cooldownActive (sampleEnv 100) g sampleOtherAddr.ip = false := by
    unfold Gateway.cooldownActive
    rw [h.cooldowns]
  have hroom : g.sessionManager.HasRoom sampleOtherAddr := by
    unfold SessionManager.HasRoom SessionManager.ipCount
    rw [h.sessions]
    exact ⟨by decide, Nat.zero_lt_succ _⟩
  obtain ⟨dh1, hdh1⟩ := sampleFlood_shared 1
  obtain ⟨dh2, hdh2⟩ := sampleFlood_shared (UInt8.ofNat (n + 16))
  have hstatic : samplePrimitives.computeShared g.sessionManager.serverKeys
      (Gateway.handshakeEphPub samplePrimitives g.sessionManager.serverKeys.publicKeyBytes
        sampleFlood) = .ok dh1 := by
    rw [h.serverKeys]
    exact hdh1
  have heph : samplePrimitives.computeShared (samplePrimitives.fromPrivateKey
      (sampleRandomness.serverEph g.sessionManager.nextId)) (Gateway.handshakeEphPub
        samplePrimitives g.sessionManager.serverKeys.publicKeyBytes sampleFlood) = .ok dh2 := by
    rw [h.serverKeys, h.nextId]
    exact hdh2
  rcases hnew : g.sessionManager.createSession samplePrimitives sampleRandomness (sampleEnv 100)
    sampleOtherAddr (Gateway.handshakeEphPub samplePrimitives
      g.sessionManager.serverKeys.publicKeyBytes sampleFlood) none none with ⟨e | sid, m⟩
  · exact absurd hnew (SessionManager.createSession_ne_error hroom hstatic heph)
  -- the tag is not that of the new session
  obtain ⟨-, dh1', dh2', -, -, hvalid⟩ :=
    SessionManager.createSession_validates hnew (readArray 8 0 sampleFlood)
  have hwindow : ∀ secret, inFirstWindow samplePrimitives secret (sampleEnv 100).timeWindow
      (readArray 8 0 sampleFlood) = false := by
    intro secret
    rw [← Bool.not_eq_true]
    intro htrue
    obtain ⟨w, hw, c, -, htag⟩ := inFirstWindow_eq_true.1 htrue
    exact sampleFlood_tag secret hw c htag
  rw [hwindow, hwindow, Bool.or_false, Option.isSome_eq_false_iff, Option.isNone_iff_eq_none]
    at hvalid
  have hoffer := @Gateway.offerSession_legacy samplePrimitives sampleRandomness (sampleEnv 100)
    sampleFlood (readArray 8 0 sampleFlood) sampleOtherAddr g sid m h.clientDb hcool (by decide) hnew
  simp only [hvalid] at hoffer
  have hstep : Gateway.step samplePrimitives sampleRandomness sampleConfig g
      (sampleEnv 100, .packet sampleFlood sampleOtherAddr) =
        { g with sessionManager := m.rollbackFailedSession sid } := by
    have hid : Gateway.identify samplePrimitives sampleRandomness (sampleEnv 100) sampleFlood
        sampleOtherAddr g = (err (.invalidPacket "Tag mismatch on new session"),
          { g with sessionManager := m.rollbackFailedSession sid }) := by
      unfold Gateway.identify
      rw [bind_of_ok (Gateway.managerExcept_of_ok
        (SessionManager.findSession_of_empty h.sessions _ _))]
      simp only [Gateway.handshake]
      rw [bind_of_error hoffer]
    exact Gateway.handlePacket_of_error (by decide) hid
  obtain ⟨-, hnext, -⟩ := SessionManager.createSession_sessions hnew
  obtain ⟨-, -, -, _, _, -, -, hm⟩ := SessionManager.createSession_ok hnew
  have hmap := @Gateway.step_of_change samplePrimitives sampleRandomness sampleConfig
    (sampleEnv 100, .packet sampleFlood sampleOtherAddr) SessionManager.MapInv g h.map
    (fun _ _ hm hch => hm.change hch) (fun _ _ _ _ hm hopen => hm.opens hopen)
  have hoctet : (m.rollbackFailedSession sid).nextIpOctet = 2 + (n + 1) := by
    have hreused : g.sessionManager.reusedVpnIp sampleOtherAddr = none := by
      unfold SessionManager.reusedVpnIp
      rw [h.sessions]
      rfl
    rw [SessionManager.rollbackFailedSession_nextIpOctet, hm]
    unfold SessionManager.register SessionManager.assignVpnIp
    simp only [hreused, Option.none_or, h.octet]
    omega
  have hsessions : (m.rollbackFailedSession sid).sessions = [] :=
    (h.map.attempt hnew).1.trans h.sessions
  have hkeys : (m.rollbackFailedSession sid).serverKeys = sampleServerKeys := by
    rw [← h.serverKeys]
    have hrecords := congrArg Prod.fst ((m.rollbackFailedSession_records sid).trans
      (SessionManager.createSession_records hnew))
    exact hrecords
  rw [hstep] at hmap ⊢
  exact ⟨hmap, hsessions, h.clientDb, h.cooldowns, hoctet,
    (SessionManager.rollbackFailedSession_nextId m sid).trans (hnext.trans (congrArg _ h.nextId)),
    hkeys⟩

theorem flooded_sample {n : Nat} (hn : n ≤ 1000) : Flooded n (sampleFlooded n) := by
  induction n with
  | zero =>
      have hmap := mapInv_of_run samplePrimitives sampleRandomness sampleConfig sampleServerKeys
        default none []
      exact ⟨hmap, rfl, rfl, rfl, rfl, rfl, rfl⟩
  | succ n ih =>
      unfold sampleFlooded
      rw [List.replicate_succ', runFrom_append]
      exact (ih (Nat.le_of_succ_le hn)).step hn

/-- A gateway at the end of the pool still accepts a handshake. -/
theorem Flooded.accepts {g : Gateway} (h : Flooded 253 g) :
    Gateway.acceptedHandshake samplePrimitives sampleRandomness (sampleEnv 100) g
      (sampleLegacyInit 5) sampleAddr = some (sampleClientKeys.publicKeyBytes, none) := by
  have hcool : Gateway.cooldownActive (sampleEnv 100) g sampleAddr.ip = false := by
    unfold Gateway.cooldownActive
    rw [h.cooldowns]
  have hroom : g.sessionManager.HasRoom sampleAddr := by
    unfold SessionManager.HasRoom SessionManager.ipCount
    rw [h.sessions]
    exact ⟨by decide, Nat.zero_lt_succ _⟩
  have hunknown := @SessionManager.findSession_of_empty samplePrimitives (sampleEnv 100)
    g.sessionManager h.sessions (readArray 8 0 (sampleLegacyInit 5)) sampleAddr.ip
  obtain ⟨hlen, heph, hdh1, hdh2, htag⟩ := sampleLegacyInit_valid (5, 253) (by decide)
  refine Gateway.accepted_of_first h.clientDb hcool hlen (congrArg Prod.fst hunknown) hroom
    (by rw [h.serverKeys]; exact heph) (computeShared_of_ne ?_) (computeShared_of_ne ?_) ?_
  · rw [h.serverKeys]
    exact hdh1
  · rw [h.nextId]
    exact hdh2
  · rw [h.serverKeys]
    exact inFirstWindow_eq_true.2 ⟨100, List.mem_cons_self, 0, by decide, htag⟩

/-- The session that it opens has no address of the pool. -/
theorem Flooded.not_opensInPool {g : Gateway} (h : Flooded 253 g) :
    ¬ Gateway.OpensInPool g (Gateway.handlePacket samplePrimitives sampleRandomness sampleConfig
      (sampleEnv 100) (sampleLegacyInit 5) sampleAddr g).2 := by
  rintro ⟨new, hlive, hnot, ip, -, hvpn⟩
  obtain ⟨hnewIp, -, -⟩ := Gateway.handlePacket_legacy sampleConfig h.map h.clientDb h.accepts rfl
  obtain rfl := (Gateway.new_session_legacy sampleConfig h.map h.clientDb h.accepts rfl new).1
    ⟨hlive, hnot⟩
  have hreused : g.sessionManager.reusedVpnIp sampleAddr = none := by
    unfold SessionManager.reusedVpnIp
    rw [h.sessions]
    rfl
  rw [hnewIp, Gateway.assignedVpnIp_of_none hreused, h.octet, if_neg (by decide)] at hvpn
  cases hvpn

/-- After 253 refused datagrams no session is live, and the next valid handshake opens a session
without an address of the pool. -/
theorem flood_exhausts_pool :
    (sampleFlooded 253).sessionManager.sessions = [] ∧
    Gateway.acceptedHandshake samplePrimitives sampleRandomness (sampleEnv 100) (sampleFlooded 253)
      (sampleLegacyInit 5) sampleAddr = some (sampleClientKeys.publicKeyBytes, none) ∧
    ¬ Gateway.OpensInPool (sampleFlooded 253) (Gateway.handlePacket samplePrimitives
      sampleRandomness sampleConfig (sampleEnv 100) (sampleLegacyInit 5) sampleAddr
      (sampleFlooded 253)).2 := by
  have h := @flooded_sample 253 (by decide)
  exact ⟨h.sessions, h.accepts, h.not_opensInPool⟩

/-- The first handshake of a run gets the first address. -/
theorem first_handshake_pooled :
    Gateway.OpensInPool (sampleFlooded 0) (Gateway.handlePacket samplePrimitives sampleRandomness
      sampleConfig (sampleEnv 100) (sampleLegacyInit 5) sampleAddr (sampleFlooded 0)).2 := by
  have hacc : ∃ opened, Gateway.acceptedHandshake samplePrimitives sampleRandomness (sampleEnv 100)
      (sampleFlooded 0) (sampleLegacyInit 5) sampleAddr = some opened := by
    rw [← Option.isSome_iff_exists]
    decide +kernel
  obtain ⟨⟨ephPub, psk⟩, hacc⟩ := hacc
  refine (pooled_iff samplePrimitives sampleRandomness sampleConfig sampleServerKeys default [] rfl
    (sampleEnv 100) (sampleLegacyInit 5) sampleAddr hacc).2 (Or.inr ?_)
  decide +kernel

end Aivpn
