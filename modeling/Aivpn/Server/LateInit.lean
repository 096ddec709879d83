import Aivpn.Server.AuthFailure

/-!
# Late copies of an init datagram

Once a session has ratcheted, the tags of its initial keys belong to no session any more, so a copy
of the init datagram that created it passes through the lookup chain and reaches the handshake
branch. There it opens a second session for the same client, whose VPN address makes the first one
an old session to be removed. `survives_lateInit_iff` says when a ratcheted session survives such a
copy: exactly when the handshake branch does not accept it for a client with the session's address.
-/

set_option autoImplicit false

namespace Aivpn

open Aivpn.Lib Action

/-- An init datagram: the obfuscated `eph_pub` behind a 4-byte header, then a payload under the
initial keys of the client, for the given counter and time window. -/
structure InitDatagram where
  ephPub : Key
  psk : Key
  counter : Nat
  timeWindow : Nat
  header : ByteArr 4
  padded : Bytes

/-- The server reads the key behind a header of four bytes. -/
theorem handshakeEphPub_append {P : Primitives} (tag : Tag) (header : ByteArr 4)
    (obfuscated serverPub : Key)
    (rest : Bytes) :
    Gateway.handshakeEphPub P serverPub
      (tag.toList ++ (header.toList ++ obfuscated.toList) ++ rest) =
      P.obfuscateEphPub obfuscated serverPub := by
  have hread : readArray 32 (tagSize + mdhLen)
      (tag.toList ++ (header.toList ++ obfuscated.toList) ++ rest) = obfuscated := by
    have hlen : (tag.toList ++ header.toList).length = tagSize + mdhLen := by
      rw [List.length_append, ByteArr.length_toList, ByteArr.length_toList]
      rfl
    rw [← List.append_assoc]
    exact readArray_append_toList _ obfuscated rest hlen
  unfold Gateway.handshakeEphPub
  rw [hread]

namespace InitDatagram

variable (P : Primitives) (serverKeys : KeyPair)

/-- The initial keys, as `create_session` computes them. -/
def keys (i : InitDatagram) : SessionKeys :=
  P.deriveSessionKeys (P.x25519 serverKeys.privateKeyBytes i.ephPub) (some i.psk) i.ephPub

/-- What follows the header: the obfuscated key and the ciphertext. -/
def body (i : InitDatagram) : Bytes :=
  (P.obfuscateEphPub i.ephPub serverKeys.publicKeyBytes).toList ++
    P.encryptPayload (i.keys P serverKeys).sessionKey (counterToNonce i.counter) i.padded

/-- The datagram. -/
def bytes (i : InitDatagram) : Bytes :=
  (P.generateResonanceTag (i.keys P serverKeys).tagSecret i.counter i.timeWindow).toList ++
    i.header.toList ++ i.body P serverKeys

theorem drop_bytes (i : InitDatagram) :
    (i.bytes P serverKeys).drop (tagSize + mdhLen) = i.body P serverKeys := by
  unfold bytes
  exact List.drop_left' (by simp [tagSize, mdhLen])

theorem length_bytes (i : InitDatagram) :
    tagSize + mdhLen + 32 ≤ (i.bytes P serverKeys).length := by
  simp only [bytes, body, List.length_append, ByteArr.length_toList, tagSize, mdhLen]
  omega

end InitDatagram

/-- The session is still live, and its VPN address is routed as before. -/
def SessionKept (m m' : SessionManager) (sid : SessionId) (ip : Ipv4Addr) : Prop :=
  sid ∈ m'.sessions ∧ m'.vpnIpMap ip = m.vpnIpMap ip

/-! ## The handshake branch -/

namespace SessionManager

variable {P : Primitives} {rng : Randomness}

/-- The same live sessions with the same contents, the same routes, and the same server key. -/
structure SameLive (m m' : SessionManager) : Prop where
  sessions : m'.sessions = m.sessions
  vpnIpMap : m'.vpnIpMap = m.vpnIpMap
  heap : ∀ sid ∈ m.sessions, m'.heap sid = m.heap sid
  serverKeys : m'.serverKeys = m.serverKeys

theorem SameLive.refl (m : SessionManager) : SameLive m m := ⟨rfl, rfl, fun _ _ => rfl, rfl⟩

theorem SameLive.trans {m m' m'' : SessionManager} (h : SameLive m m') (h' : SameLive m' m'') :
    SameLive m m'' := by
  refine ⟨h'.sessions.trans h.sessions, h'.vpnIpMap.trans h.vpnIpMap, fun sid hmem => ?_,
    h'.serverKeys.trans h.serverKeys⟩
  rw [h'.heap sid (h.sessions ▸ hmem), h.heap sid hmem]

theorem MapInv.attempt_sameLive {env : Env} {m m₁ : SessionManager} {addr : SocketAddr}
    {ephPub : Key} {psk : Option Key} {ip : Option Ipv4Addr} {sid : SessionId} (h : m.MapInv)
    (hnew : m.createSession P rng env addr ephPub psk ip = (.ok sid, m₁)) :
    SameLive m (m₁.rollbackFailedSession sid) := by
  obtain ⟨hsessions, hmap⟩ := h.attempt hnew
  obtain ⟨s, -, -, hheap⟩ := createSession_heap hnew
  refine ⟨hsessions, hmap, fun other hmem => ?_,
    (Change.attempt (e := (env, .cleanup)) hnew).serverKeys⟩
  have hne : other ≠ m.nextId := Nat.ne_of_lt (h.allocated other hmem)
  rw [rollbackFailedSession_heap, hheap, Function.update_of_ne hne]

/-- There is room for one more session of the client address. -/
def HasRoom (m : SessionManager) (addr : SocketAddr) : Prop :=
  m.sessions.length < maxSessions ∧ m.ipCount addr < 5

instance (m : SessionManager) (addr : SocketAddr) : Decidable (m.HasRoom addr) :=
  inferInstanceAs (Decidable (_ ∧ _))

theorem SameLive.hasRoom_iff {m m' : SessionManager} (h : SameLive m m') (addr : SocketAddr) :
    m'.HasRoom addr ↔ m.HasRoom addr := by
  have hcount : m'.ipCount addr = m.ipCount addr := by
    unfold ipCount
    rw [h.sessions]
    refine List.countP_congr fun sid hmem => ?_
    rw [h.heap sid hmem]
  unfold HasRoom
  rw [h.sessions, hcount]

theorem findSession_hasRoom (P : Primitives) (env : Env) (m : SessionManager) (tag : Tag)
    (ip : IpAddr) (addr : SocketAddr) :
    (m.findSession P env tag ip).2.HasRoom addr ↔ m.HasRoom addr := by
  have haddr := fun sid => findSession_heap P Session.clientAddr
    (fun tw s => congrArg SessionView.clientAddr (refresh_view P tw s))
    (fun tw c s => by simp [Session.recoverAt, Session.updateTagWindow]) env m tag ip sid
  unfold HasRoom ipCount
  simp only [haddr, (m.findSession_map P env tag ip).1]

end SessionManager

/-! ## The client that a handshake matches -/

section

variable (P : Primitives)

/-- `tag` belongs to one of the first 256 counters, in time window `tw` or one next to it. -/
def inFirstWindow (tagSecret : Key) (tw : Nat) (tag : Tag) : Bool :=
  [tw, wrappingPred tw, wrappingAdd tw 1].any fun w =>
    (List.range tagWindowSize).any fun c => P.generateResonanceTag tagSecret c w = tag

/-- The first enabled client in the database whose PSK explains the tag of a handshake with the
given ephemeral key: the tag belongs to the initial keys of the session that would be created for
it, or to the ratcheted keys. `n` is the id of the next session. -/
def firstMatch (rng : Randomness) (tw : Nat) (serverKeys : KeyPair) (ephPub : Key) (tag : Tag) :
    List ClientConfig → SessionId → Option ClientConfig
  | [], _ => none
  | client :: rest, n =>
      if client.enabled then
        match P.computeShared serverKeys ephPub,
            P.computeShared (P.fromPrivateKey (rng.serverEph n)) ephPub with
        | .ok dh1, .ok dh2 =>
            let initialKeys := P.deriveSessionKeys dh1 (some client.psk) ephPub
            let ratchetedKeys := P.deriveSessionKeys dh2 (some initialKeys.sessionKey) ephPub
            if inFirstWindow P initialKeys.tagSecret tw tag ||
                inFirstWindow P ratchetedKeys.tagSecret tw tag then some client
            else firstMatch rng tw serverKeys ephPub tag rest (n + 1)
        | _, _ => firstMatch rng tw serverKeys ephPub tag rest n
      else firstMatch rng tw serverKeys ephPub tag rest n

namespace Session

/-- The first 256 counters as a cached window and its two neighbours cover `inFirstWindow`. -/
theorem inFirstWindow_eq (tagSecret : Key) (tw : Nat) (tag : Tag) :
    inFirstWindow P tagSecret tw tag =
      ((((List.range tagWindowSize).map fun c =>
          (c, P.generateResonanceTag tagSecret c tw)).find? fun e => e.2 = tag).isSome ||
        (adjacentMatch P tagSecret tw (List.range tagWindowSize) tag).isSome) := by
  rw [Bool.eq_iff_iff]
  simp [inFirstWindow, adjacentMatch, adjacentWindows, List.findSome?_isSome_iff]

/-- A session that has received nothing, with fresh tag windows, validates the tags of the first
256 counters of its current and its pending keys. -/
theorem validateTag_isSome_of_fresh {s : Session} {tw : Nat} {ratchetedKeys : SessionKeys}
    (hs : s.Unreceived) (hratcheted : s.isRatcheted = false)
    (hkeys : s.ratchetedKeys = some ratchetedKeys)
    (hexpected : s.expectedTags = s.windowCounters.map fun c =>
      (c, P.generateResonanceTag s.keys.tagSecret c tw))
    (hpending : s.ratchetedExpectedTags = (List.range tagWindowSize).map fun c =>
      (c, P.generateResonanceTag ratchetedKeys.tagSecret c tw)) (tag : Tag) :
    (s.validateTag P tw tag).isSome = (inFirstWindow P s.keys.tagSecret tw tag ||
      inFirstWindow P ratchetedKeys.tagSecret tw tag) := by
  have hwindow : s.windowCounters = List.range tagWindowSize := by
    simp [windowCounters, hs.counter, saturatingAdd, tagWindowSize, u64Max, List.range_eq_range']
  have hreplay : ∀ c, s.isReplay c = false := by
    -- nothing was received, so that no counter is a replay
    intro c
    unfold isReplay
    rw [hs.counter, hs.bitmap]
    by_cases hc : c = 0
    · subst hc
      decide
    · rw [if_pos (Nat.pos_of_ne_zero hc)]
  unfold validateTag validateRatchetedTag
  rw [inFirstWindow_eq, inFirstWindow_eq, ← hwindow, ← hexpected, hwindow, ← hpending]
  simp only [hreplay, hratcheted, hkeys]
  cases s.expectedTags.find? fun e => e.2 = tag with
  | some hit => rfl
  | none =>
      cases adjacentMatch P s.keys.tagSecret tw (List.range tagWindowSize) tag with
      | some c => rfl
      | none =>
          cases s.ratchetedExpectedTags.find? fun e => e.2 = tag with
          | some hit => rfl
          | none => simp
end Session

end

namespace SessionManager

variable {P : Primitives} {rng : Randomness}

/-- A `create_session` that succeeds had room, and its session validates the first tags of its
keys. -/
theorem createSession_validates {env : Env} {m m' : SessionManager} {addr : SocketAddr}
    {ephPub : Key} {psk : Option Key} {ip : Option Ipv4Addr} {sid : SessionId}
    (h : m.createSession P rng env addr ephPub psk ip = (.ok sid, m')) (tag : Tag) :
    m.HasRoom addr ∧ ∃ dh1 dh2, P.computeShared m.serverKeys ephPub = .ok dh1 ∧
      P.computeShared (P.fromPrivateKey (rng.serverEph m.nextId)) ephPub = .ok dh2 ∧
      ((m'.heap sid).validateTag P env.timeWindow tag).isSome =
        (inFirstWindow P (P.deriveSessionKeys dh1 psk ephPub).tagSecret env.timeWindow tag ||
          inFirstWindow P (P.deriveSessionKeys dh2
            (some (P.deriveSessionKeys dh1 psk ephPub).sessionKey) ephPub).tagSecret
            env.timeWindow tag) := by
  obtain ⟨hmax, hip, rfl, dh1, dh2, hdh1, hdh2, rfl⟩ := createSession_ok h
  refine ⟨⟨hmax, hip⟩, dh1, dh2, hdh1, hdh2, ?_⟩
  rw [show (m.register _ _ _).heap m.nextId = _ from Function.update_self _ _ _]
  refine Session.validateTag_isSome_of_fresh P
    (Creates.unreceived ⟨addr, dh1, dh2, _, hdh1, hdh2, rfl⟩) ?_ ?_ ?_ ?_ tag
  · simp [initialSession, Session.updateRatchetedTagWindow, Session.updateTagWindow, Session.new]
  · simp [initialSession, Session.updateRatchetedTagWindow, Session.updateTagWindow, Session.new]
  · simp [initialSession, Session.updateRatchetedTagWindow, Session.updateTagWindow, Session.new,
      Session.windowCounters]
  · simp [initialSession, Session.updateRatchetedTagWindow, Session.updateTagWindow, Session.new]

theorem createSession_ne_error {env : Env} {m m' : SessionManager} {addr : SocketAddr}
    {ephPub : Key} {psk : Option Key} {ip : Option Ipv4Addr} {e : Error} {dh1 dh2 : Key}
    (hroom : m.HasRoom addr) (hdh1 : P.computeShared m.serverKeys ephPub = .ok dh1)
    (hdh2 : P.computeShared (P.fromPrivateKey (rng.serverEph m.nextId)) ephPub = .ok dh2) :
    m.createSession P rng env addr ephPub psk ip ≠ (.error e, m') := by
  unfold createSession
  rw [if_neg (Nat.not_le.2 hroom.1), if_neg (Nat.not_le.2 hroom.2)]
  simp [hdh1, hdh2]

/-- The loop over the clients leaves the live sessions alone, up to the session it ends with, and
it ends with the first match when there is room. -/
theorem MapInv.tryClients {env : Env} {addr : SocketAddr} {ephPub : Key} {tag : Tag}
    {clients : List ClientConfig} {m m' : SessionManager}
    {found : Option (SessionId × ClientConfig)} (hm : m.MapInv)
    (h : tryClients P env rng addr ephPub tag clients m = (found, m')) :
    (found.map Prod.snd = if m.HasRoom addr then
      firstMatch P rng env.timeWindow m.serverKeys ephPub tag clients m.nextId else none) ∧
    ((found = none ∧ SameLive m m') ∨ ∃ sid client m₀, found = some (sid, client) ∧
      m₀.MapInv ∧ SameLive m m₀ ∧ m₀.createSession P rng env addr ephPub (some client.psk)
        (some client.vpnIp) = (.ok sid, m') ∧
      ((m'.heap sid).validateTag P env.timeWindow tag).isSome = true) := by
  induction clients generalizing m with
  | nil =>
      cases h
      exact ⟨by simp [firstMatch], Or.inl ⟨rfl, SameLive.refl _⟩⟩
  | cons client rest ih =>
      unfold SessionManager.tryClients at h
      unfold firstMatch
      -- the induction is on the clients; an attempt that fails draws an id, which the rest start
      -- from
      split_ifs at h with henabled
      · split at h
        · next sid m₁ hnew =>
            obtain ⟨hroom, dh1, dh2, hdh1, hdh2, hvalidates⟩ := createSession_validates hnew tag
            simp only [henabled, if_true, hdh1, hdh2, hroom, ← hvalidates]
            split_ifs at h with hvalid
            · cases h
              exact ⟨by simp [hvalid], Or.inr ⟨sid, client, m, rfl, hm, SameLive.refl m, hnew,
                hvalid⟩⟩
            · have hinv := hm.change (Change.attempt (e := (env, .cleanup)) hnew)
              have hlive := hm.attempt_sameLive hnew
              have hnext : (m₁.rollbackFailedSession sid).nextId = m.nextId + 1 := by
                rw [rollbackFailedSession_nextId, (createSession_sessions hnew).2.1]
              obtain ⟨hmatch, hrest⟩ := ih hinv h
              rw [if_pos ((hlive.hasRoom_iff addr).2 hroom), hlive.serverKeys, hnext] at hmatch
              refine ⟨by simpa [hvalid] using hmatch, ?_⟩
              rcases hrest with ⟨hnone, hm'⟩ | ⟨sid', client', m₀, hsome, hinv₀, hm₀, hnew'⟩
              · exact Or.inl ⟨hnone, hlive.trans hm'⟩
              · exact Or.inr ⟨sid', client', m₀, hsome, hinv₀, hlive.trans hm₀, hnew'⟩
        -- `create_session` fails for every client or for none, as the room and the keys do not
        -- change
        · next e m₁ hnew =>
            rw [createSession_error P rng hnew] at h
            obtain ⟨hmatch, hrest⟩ := ih hm h
            refine ⟨?_, hrest⟩
            rw [hmatch]
            split_ifs with hroom
            · split
              · next dh1 dh2 hdh1 hdh2 =>
                  exact absurd hnew (createSession_ne_error hroom hdh1 hdh2)
              · rfl
            · rfl
      · simpa [henabled] using ih hm h

/-- A session opened for a client replaces the live session with the client's VPN address and no
other. -/
theorem MapInv.establish_kept_iff {env : Env} {m m₁ : SessionManager} {addr : SocketAddr}
    {ephPub : Key} {psk : Option Key} {ip' ip : Ipv4Addr} {sid sid' : SessionId} (h : m.MapInv)
    (hnew : m.createSession P rng env addr ephPub psk (some ip') = (.ok sid', m₁))
    (hlive : sid ∈ m.sessions) (hip : (m.heap sid).vpnIp = some ip) :
    SessionKept m (m₁.establish sid' psk) sid ip ↔ ip' ≠ ip := by
  have hmap := establish_vpnIpMap hnew
  have hne : sid ≠ m.nextId := Nat.ne_of_lt (h.allocated sid hlive)
  obtain ⟨-, -, rfl, dh1, dh2, -, -, rfl⟩ := createSession_ok hnew
  have hassign : (m.assignVpnIp (some ip') (m.reusedVpnIp addr)).1 = some ip' := rfl
  revert hmap
  rw [hassign]
  generalize m.initialSession P env addr ephPub _ _ dh2 = s
  generalize (m.assignVpnIp (some ip') (m.reusedVpnIp addr)).2 = octet
  intro hmap
  have hnewip : ((m.register s (some ip') octet).heap m.nextId).vpnIp = some ip' := by
    simp [register]
  have hold : ((m.register s (some ip') octet).heap sid).vpnIp = some ip := by
    rw [← hip]
    simp [register, Function.update_of_ne hne]
  unfold SessionKept
  rw [hmap, mem_establish, hnewip, hold, register_sessions]
  by_cases heq : ip' = ip
  · subst heq
    simp [hne]
  · have hroute : (m.register s (some ip') octet).vpnIpMap ip = m.vpnIpMap ip := by
      simp [register, Function.update_of_ne (Ne.symm heq)]
    simp [hne, hlive, heq, Ne.symm heq, hroute]

end SessionManager

namespace Gateway

variable (P : Primitives) (rng : Randomness) (cfg : GatewayConfig) (env : Env)

/-- No live session knows the tag: neither the tag map nor a refresh of the tag windows nor counter
recovery finds one. -/
def TagUnknown (g : Gateway) (tag : Tag) (ip : IpAddr) : Prop :=
  g.sessionManager.getSessionByTag tag = none ∧
    (g.sessionManager.refreshAndFindByTag P env.timeWindow tag).1 = none ∧
    g.sessionManager.recoveryHit P env.timeWindow tag ip = none

/-- The gateway admits the datagram as a handshake for the VPN address `ip`: its tag is unknown,
its source IP is in no cooldown and has room for a session, and the first registered client that
matches has that VPN address. -/
structure Admits (g : Gateway) (packetData : Bytes) (addr : SocketAddr)
    (clients : List ClientConfig) (ip : Ipv4Addr) : Prop where
  unknown : TagUnknown P env g (readArray 8 0 packetData) addr.ip
  cooldown : cooldownActive env g addr.ip = false
  room : g.sessionManager.HasRoom addr
  client : ∃ client, firstMatch P rng env.timeWindow g.sessionManager.serverKeys
    (handshakeEphPub P g.sessionManager.serverKeys.publicKeyBytes packetData)
    (readArray 8 0 packetData) clients g.sessionManager.nextId = some client ∧ client.vpnIp = ip

/-- The lookup chain misses exactly the unknown tags. -/
theorem tagUnknown_iff (g : Gateway) (tag : Tag) (ip : IpAddr) :
    TagUnknown P env g tag ip ↔ (g.sessionManager.findSession P env tag ip).1 = .ok none := by
  unfold TagUnknown
  rcases g.sessionManager.findSession_cases P env tag ip with
    ⟨sid, hget, hfs | ⟨c, r, -, hfs⟩⟩ | ⟨hget, ⟨hit, href, hfs⟩ | ⟨href, hfs⟩⟩
  · simp [hget, hfs]
  · simp [hget, hfs]
  · simp [href, hfs]
  · rw [hfs, ← SessionManager.recoveryHit_refresh]
    generalize (g.sessionManager.refreshAndFindByTag P env.timeWindow tag).2 = m
    cases hhit : m.recoveryHit P env.timeWindow tag ip with
    | none => simp [hget, href, SessionManager.recoverSessionByTag, hhit]
    | some hit => simp [SessionManager.recoverSessionByTag, hhit]

/-- The client for which the handshake branch offers a session. -/
def offeredClient (g : Gateway) (ephPub : Key) (tag : Tag) (addr : SocketAddr)
    (clients : List ClientConfig) : Option ClientConfig :=
  if cooldownActive env g addr.ip = false ∧ g.sessionManager.HasRoom addr then
    firstMatch P rng env.timeWindow g.sessionManager.serverKeys ephPub tag clients
      g.sessionManager.nextId
  else none

/-- In the mode with a client database, the handshake branch leaves the live sessions alone up to
the session it offers. -/
theorem offerSession_live {packetData : Bytes} {tag : Tag} {addr : SocketAddr} {g g' : Gateway}
    {r : Outcome (SessionId × Option ClientConfig × Nat × Bool)} {clients : List ClientConfig}
    (hlen : tagSize + mdhLen + 32 ≤ packetData.length) (hg : g.sessionManager.MapInv)
    (hdb : g.clientDb = some clients) {offered : Option ClientConfig}
    (hoffered : offered = offeredClient P rng env g
      (handshakeEphPub P g.sessionManager.serverKeys.publicKeyBytes packetData) tag addr clients)
    (h : offerSession P rng env packetData tag addr g = (r, g')) :
    ((∃ e, r = .error e) ∧ offered = none ∧
      SessionManager.SameLive g.sessionManager g'.sessionManager) ∨
    ∃ sid client counter isRatcheted ephPub m₀, r = .ok (sid, some client, counter, isRatcheted) ∧
      offered = some client ∧ m₀.MapInv ∧ SessionManager.SameLive g.sessionManager m₀ ∧
      m₀.createSession P rng env addr ephPub (some client.psk) (some client.vpnIp) =
        (.ok sid, g'.sessionManager) := by
  subst hoffered
  unfold offeredClient
  unfold offerSession at h
  rw [bind_of_ok (gets_apply _ _)] at h
  simp only [id_eq] at h
  split_ifs at h with hcool hshort
  · cases h
    exact Or.inl ⟨⟨_, rfl⟩, by simp [hcool], SessionManager.SameLive.refl _⟩
  · exact absurd hshort (Nat.not_lt.2 hlen)
  -- no cooldown: the first client with a matching key is offered
  · have hcool' : cooldownActive env g addr.ip = false := by simpa using hcool
    simp only [hcool', true_and]
    generalize handshakeEphPub P g.sessionManager.serverKeys.publicKeyBytes packetData = ephPub at *
    rcases htry : SessionManager.tryClients P env rng addr ephPub tag clients g.sessionManager
      with ⟨found, m⟩
    obtain ⟨hmatch, hcases⟩ := hg.tryClients htry
    rw [← hmatch]
    rcases hcases with ⟨rfl, hlive⟩ | ⟨sid, client, m₀, rfl, hinv, hlive, hnew, hvalid⟩
    · rw [bind_of_error (openSession_of_none P rng env hdb htry)] at h
      cases h
      exact Or.inl ⟨⟨_, rfl⟩, rfl, hlive⟩
    · rw [bind_of_ok (openSession_of_found P rng env hdb htry)] at h
      simp only at h
      rw [bind_of_ok (gets_apply _ _)] at h
      obtain ⟨⟨counter, isRatcheted⟩, hv⟩ := Option.isSome_iff_exists.1 hvalid
      rw [show Session.validateTag P env.timeWindow (session { g with sessionManager := m } sid)
        tag = some (counter, isRatcheted) from hv] at h
      cases h
      exact Or.inr ⟨sid, client, counter, isRatcheted, ephPub, m₀, rfl, rfl, hinv, hlive, hnew⟩

/-- The identification of a datagram's session keeps a live session exactly when the datagram is
not admitted as a handshake for the session's VPN address. -/
theorem identify_kept_iff {packetData : Bytes} (hlen : tagSize + mdhLen + 32 ≤ packetData.length)
    {addr : SocketAddr} {g : Gateway} {clients : List ClientConfig} {sid : SessionId}
    {ip : Ipv4Addr} (hg : g.sessionManager.MapInv) (hdb : g.clientDb = some clients)
    (hlive : sid ∈ g.sessionManager.sessions) (hip : (g.session sid).vpnIp = some ip) :
    SessionKept g.sessionManager (identify P rng env packetData addr g).2.sessionManager sid ip ↔
      ¬ Admits P rng env g packetData addr clients ip := by
  obtain ⟨hs, hmap, hnext⟩ := g.sessionManager.findSession_map P env (readArray 8 0 packetData)
    addr.ip
  have hchanges := SessionManager.changes_findSession P rng (env, .cleanup) g.sessionManager
    (readArray 8 0 packetData) addr.ip
  have hvpn := (SessionManager.findSession_vpnIp P env g.sessionManager (readArray 8 0 packetData)
    addr.ip sid).trans hip
  have hroom := g.sessionManager.findSession_hasRoom P env (readArray 8 0 packetData) addr.ip addr
  have hunknown := tagUnknown_iff P env g (readArray 8 0 packetData) addr.ip
  unfold identify
  rcases hfs : g.sessionManager.findSession P env (readArray 8 0 packetData) addr.ip with ⟨r, m⟩
  rw [hfs] at hs hmap hnext hvpn hchanges hroom hunknown
  have hkept : SessionKept g.sessionManager m sid ip := ⟨hs ▸ hlive, congrFun hmap ip⟩
  rcases r with e | _ | hit
  · rw [bind_of_error (managerExcept_of_error hfs)]
    exact iff_of_true hkept fun hadmits => by simpa using hunknown.1 hadmits.unknown
  · rw [bind_of_ok (managerExcept_of_ok hfs)]
    simp only
    have hm : m.MapInv := hg.changes hchanges
    have hkeys : m.serverKeys = g.sessionManager.serverKeys := hchanges.serverKeys
    have hid : m.nextId = g.sessionManager.nextId := hnext
    -- the lookup chain leaves alone all that decides about the handshake
    have hadmits : Admits P rng env g packetData addr clients ip ↔
        ∃ client, offeredClient P rng env { g with sessionManager := m }
          (handshakeEphPub P m.serverKeys.publicKeyBytes packetData) (readArray 8 0 packetData) addr
          clients = some client ∧ client.vpnIp = ip := by
      unfold offeredClient
      simp only [hkeys, hid, hroom]
      constructor
      · rintro ⟨-, hcool, hroom', client, hmatch, hclient⟩
        exact ⟨client, by rw [if_pos ⟨hcool, hroom'⟩, hmatch], hclient⟩
      · rintro ⟨client, hmatch, hclient⟩
        split_ifs at hmatch with hcond
        exact ⟨hunknown.2 rfl, hcond.1, hcond.2, client, hmatch, hclient⟩
    rw [hadmits]
    rcases hoffer : offerSession P rng env packetData (readArray 8 0 packetData) addr
      { g with sessionManager := m } with ⟨r, g₁⟩
    unfold handshake
    rcases offerSession_live P rng env (g := { g with sessionManager := m }) hlen hm hdb rfl hoffer
      with ⟨⟨e, rfl⟩, hnone, hsame⟩ |
        ⟨sid', client, counter, isRatcheted, ephPub, m₀, rfl, hsome, hinv, hsame, hnew⟩
    · rw [bind_of_error hoffer, hnone]
      refine iff_of_true ⟨?_, ?_⟩ (by simp)
      · rw [hsame.sessions]
        exact hkept.1
      · rw [hsame.vpnIpMap]
        exact hkept.2
    · rw [bind_of_ok hoffer, hsome]
      have hrouting := routing_acceptHandshake P rng env sid' (some client) addr g₁
      have hfinal : routing ((acceptHandshake P rng env sid' (some client) addr >>= fun _ =>
          (pure ⟨sid', counter, isRatcheted, true⟩ : Action Gateway Error TagMatch)) g₁).2 =
          routing { g₁ with
            sessionManager := g₁.sessionManager.establish sid' (some client.psk) } := by
        refine Eq.trans ?_ hrouting
        rw [bind_apply]
        rcases acceptHandshake P rng env sid' (some client) addr g₁ with ⟨e | u, g₂⟩ <;> rfl
      have hiff := hinv.establish_kept_iff hnew (hsame.sessions ▸ hkept.1)
        ((congrArg Session.vpnIp (hsame.heap sid hkept.1)).trans hvpn)
      have hclient : (∃ client', some client = some client' ∧ client'.vpnIp = ip) ↔
          client.vpnIp = ip := by simp
      rw [hclient, ← ne_eq, ← hiff]
      unfold SessionKept
      have hsess := congrArg Prod.fst hfinal
      have hroute := congrArg (fun r => r.2.1 ip) hfinal
      simp only [routing] at hsess hroute
      simp only
      rw [hsess, hroute, hsame.vpnIpMap, ← hkept.2]
  · rw [bind_of_ok (managerExcept_of_ok hfs)]
    exact iff_of_true hkept fun hadmits => by simpa using hunknown.1 hadmits.unknown

theorem sessionKept_congr {m : SessionManager} {g₁ g₂ : Gateway} {sid : SessionId} {ip : Ipv4Addr}
    (h : routing g₁ = routing g₂) :
    SessionKept m g₁.sessionManager sid ip ↔ SessionKept m g₂.sessionManager sid ip := by
  have hsess : g₁.sessionManager.sessions = g₂.sessionManager.sessions := congrArg Prod.fst h
  have hmap : g₁.sessionManager.vpnIpMap = g₂.sessionManager.vpnIpMap :=
    congrArg (fun r => r.2.1) h
  unfold SessionKept
  rw [hsess, hmap]

/-- A ratcheted session decrypts no datagram whose bytes behind the header are no ciphertext under
its keys. -/
theorem decryptDatagram_ratcheted {s : Session} {t : TagMatch} {packetData padded : Bytes}
    (hratcheted : s.isRatcheted = true) (hnew : t.isNewSession = false)
    (htag : t.isRatchetedTag = false)
    (hauth : ∀ nonce, P.decrypt s.keys.sessionKey nonce (packetData.drop (tagSize + mdhLen)) =
      none) : decryptDatagram P s t packetData ≠ .ok padded := by
  have hoffset : payloadOffset s t packetData.length = tagSize + mdhLen := by
    simp [payloadOffset, hnew, hratcheted]
  unfold decryptDatagram
  rw [hoffset]
  simp only [htag, payloadKey, Bool.false_eq_true, if_false, Primitives.decryptPayload, hauth]
  split_ifs <;> simp

/-- For a datagram whose bytes behind the header are no ciphertext under the keys of a ratcheted
session: the session is kept exactly when the datagram is not admitted as a handshake for its VPN
address. -/
theorem handlePacket_kept_iff {packetData : Bytes} {addr : SocketAddr} {g : Gateway}
    {clients : List ClientConfig} {sid : SessionId} {ip : Ipv4Addr}
    (hlen : tagSize + mdhLen + 32 ≤ packetData.length)
    (hg : g.sessionManager.MapInv) (hdb : g.clientDb = some clients)
    (hlive : sid ∈ g.sessionManager.sessions) (hip : (g.session sid).vpnIp = some ip)
    (hratcheted : (g.session sid).isRatcheted = true)
    (hauth : ∀ nonce, P.decrypt (g.session sid).keys.sessionKey nonce
      (packetData.drop (tagSize + mdhLen)) = none) :
    SessionKept g.sessionManager
      (handlePacket P rng cfg env packetData addr g).2.sessionManager sid ip ↔
      ¬ Admits P rng env g packetData addr clients ip := by
  have hlen' : ¬ packetData.length < tagSize + 2 := by
    simp only [tagSize, mdhLen] at hlen ⊢
    omega
  rw [← identify_kept_iff P rng env hlen hg hdb hlive hip]
  rcases hrecv : receivePacket P rng env packetData addr g with ⟨r, g'⟩
  obtain ⟨hrouting, hok⟩ := receivePacket_cases P rng env hlen' hrecv
  rcases hid : identify P rng env packetData addr g with ⟨ri, g₁⟩
  rw [hid] at hrouting hok
  rw [← sessionKept_congr hrouting]
  unfold handlePacket
  rcases r with e | ⟨t, plaintext⟩
  · rw [bind_of_error hrecv]
  · rw [bind_of_ok hrecv]
    simp only
    split_ifs with hnew
    · exact Iff.rfl
    · rcases routing_processInnerPayload P rng env cfg plaintext t.sessionId addr g' with
        hsame | hremove
      · exact sessionKept_congr hsame
      · -- a Shutdown removes the session of the datagram, and that is another one
        obtain ⟨rfl, padded, hdec⟩ := hok t plaintext rfl
        have hnew' : t.isNewSession = false := by simpa using hnew
        obtain ⟨m, hfs, rfl⟩ := identify_found P rng env hid hnew'
        have hkey := g.sessionManager.findSession_keyState P env (readArray 8 0 packetData) addr.ip
          sid
        rw [hfs] at hkey
        have hne : sid ≠ t.sessionId := by
          rintro rfl
          refine decryptDatagram_ratcheted P ?_ hnew'
            (SessionManager.findSession_of_isRatcheted hfs hratcheted) ?_ hdec
          · exact (congrArg KeyState.isRatcheted hkey).trans hratcheted
          · intro nonce
            have hk : (m.heap t.sessionId).keys = (g.session t.sessionId).keys :=
              congrArg KeyState.keys hkey
            show P.decrypt (m.heap t.sessionId).keys.sessionKey nonce _ = none
            rw [hk]
            exact hauth nonce
        obtain ⟨hs, hmap, -⟩ := g.sessionManager.findSession_map P env (readArray 8 0 packetData)
          addr.ip
        rw [hfs] at hs hmap
        have hkept : SessionKept g.sessionManager g'.sessionManager sid ip := by
          rw [sessionKept_congr hrouting]
          exact ⟨hs ▸ hlive, congrFun hmap ip⟩
        rw [sessionKept_congr hremove]
        refine iff_of_true ⟨SessionManager.mem_removeSession.2 ⟨hkept.1, hne⟩, ?_⟩ hkept
        have hroute := (hg.routed ip sid).2 ⟨hlive, hip⟩
        rw [SessionManager.removeSession_vpnIpMap, if_neg, hkept.2]
        rintro ⟨-, -, hother⟩
        rw [hkept.2, hroute] at hother
        exact hne (Option.some.inj hother)

end Gateway

/-- In every run with a client database, a ratcheted live session survives a copy of an init
datagram, and keeps its VPN address, exactly when the gateway does not admit the copy as a
handshake for that address. The ciphertext of the init datagram is assumed not to decrypt under the
ratcheted keys. -/
theorem survives_lateInit_iff (P : Primitives) (rng : Randomness) (cfg : GatewayConfig)
    (serverKeys : KeyPair) (signingKey : Key) (clientDb : Option (List ClientConfig))
    (es : List (Env × Gateway.Event)) {g : Gateway} {clients : List ClientConfig}
    (hg : g = runFrom (Gateway.step P rng cfg) (Gateway.new serverKeys signingKey clientDb) es)
    (hdb : g.clientDb = some clients) {sid : SessionId} {ip : Ipv4Addr}
    (hlive : sid ∈ g.sessionManager.sessions) (hip : (g.session sid).vpnIp = some ip)
    (hratcheted : (g.session sid).isRatcheted = true) (i : InitDatagram)
    (hauth : ∀ nonce, P.decrypt (g.session sid).keys.sessionKey nonce (i.body P serverKeys) = none)
    (env : Env) (addr : SocketAddr) :
    SessionKept g.sessionManager (Gateway.handlePacket P rng cfg env (i.bytes P serverKeys) addr
      g).2.sessionManager sid ip ↔
      ¬ Gateway.Admits P rng env g (i.bytes P serverKeys) addr clients ip := by
  have hinv : g.sessionManager.MapInv := by
    rw [hg]
    exact mapInv_of_run P rng cfg serverKeys signingKey clientDb es
  refine Gateway.handlePacket_kept_iff P rng cfg env ?_ hinv hdb hlive hip hratcheted ?_
  · exact i.length_bytes P serverKeys
  · rw [InitDatagram.drop_bytes]
    exact hauth

/-! ## A late copy that removes a session -/

/-- A registered client. -/
def sampleClient : ClientConfig := ⟨"client-1", ByteArr.replicate 32 9, ⟨10, 0, 0, 2⟩, true⟩

/-- The init datagram of the sample client. -/
def sampleClientInit : InitDatagram where
  ephPub := sampleClientKeys.publicKeyBytes
  psk := sampleClient.psk
  counter := 0
  timeWindow := 100
  header := ByteArr.replicate 4 0
  padded := zeroMdhPlaintext sampleDraw (buildInnerPacket .control 0 ControlPayload.keepalive.encode)

/-- The keys of the sample client once it has the ServerHello of session `sid`. -/
def sampleRatchetedKeys (psk : Option Key) (sid : SessionId) : SessionKeys :=
  samplePrimitives.deriveSessionKeys
    (samplePrimitives.x25519 sampleClientKeys.privateKeyBytes
      (samplePrimitives.fromPrivateKey (sampleRandomness.serverEph sid)).publicKeyBytes)
    (some (sampleInitialKeys psk).sessionKey) sampleClientKeys.publicKeyBytes

/-- The first keepalive of the sample client under its ratcheted keys. -/
def sampleKeepalive (psk : Option Key) : Bytes :=
  (buildZeroMdhPacket samplePrimitives 100 sampleDraw (sampleRatchetedKeys psk 0) 0
    (buildInnerPacket .control 0 ControlPayload.keepalive.encode) none).1

/-- The sample client connects and ratchets. -/
def sampleConnect : List (Env × Gateway.Event) :=
  [(sampleEnv 100, .packet (sampleClientInit.bytes samplePrimitives sampleServerKeys) sampleAddr),
    (sampleEnv 100, .packet (sampleKeepalive (some sampleClient.psk)) sampleAddr)]

/-- The gateway after that. -/
def sampleRatcheted : Gateway :=
  runFrom (Gateway.step samplePrimitives sampleRandomness sampleConfig)
    (Gateway.new sampleServerKeys default (some [sampleClient])) sampleConnect

/-- Another address. -/
def sampleOtherAddr : SocketAddr := ⟨.v4 ⟨192, 0, 2, 2⟩, 4000⟩

/-- A copy of the init datagram, sent again from another address, removes the ratcheted session. -/
theorem lateInit_removes_session :
    0 ∈ sampleRatcheted.sessionManager.sessions ∧
    (sampleRatcheted.session 0).isRatcheted = true ∧
    (sampleRatcheted.session 0).vpnIp = some sampleClient.vpnIp ∧
    (sampleRatcheted.session 0).ephPub = sampleClientInit.ephPub ∧
    ¬ SessionKept sampleRatcheted.sessionManager (Gateway.handlePacket samplePrimitives
      sampleRandomness sampleConfig (sampleEnv 100)
      (sampleClientInit.bytes samplePrimitives sampleServerKeys) sampleOtherAddr
      sampleRatcheted).2.sessionManager 0 sampleClient.vpnIp := by
  have hfacts : (0 ∈ sampleRatcheted.sessionManager.sessions ∧
        (sampleRatcheted.session 0).isRatcheted = true ∧
        (sampleRatcheted.session 0).vpnIp = some sampleClient.vpnIp ∧
        (sampleRatcheted.session 0).ephPub = sampleClientInit.ephPub) ∧
      0 ∉ (Gateway.handlePacket samplePrimitives sampleRandomness sampleConfig (sampleEnv 100)
        (sampleClientInit.bytes samplePrimitives sampleServerKeys) sampleOtherAddr
        sampleRatcheted).2.sessionManager.sessions := by
    -- the run is evaluated once for all of its facts
    decide +kernel
  obtain ⟨⟨hlive, hratcheted, hip, heph⟩, hremoved⟩ := hfacts
  exact ⟨hlive, hratcheted, hip, heph, fun hkept => hremoved hkept.1⟩

/-- Once the client is disabled, the session survives the copy. -/
theorem lateInit_of_disabled_client :
    let es := sampleConnect ++ [(sampleEnv 100, .reload [{ sampleClient with enabled := false }])]
    let g := runFrom (Gateway.step samplePrimitives sampleRandomness sampleConfig)
      (Gateway.new sampleServerKeys default (some [sampleClient])) es
    SessionKept g.sessionManager (Gateway.handlePacket samplePrimitives sampleRandomness
      sampleConfig (sampleEnv 100) (sampleClientInit.bytes samplePrimitives sampleServerKeys)
      sampleOtherAddr g).2.sessionManager 0 sampleClient.vpnIp := by
  intro es g
  have hfacts : g.clientDb = some [{ sampleClient with enabled := false }] ∧
      0 ∈ g.sessionManager.sessions ∧ (g.session 0).vpnIp = some sampleClient.vpnIp ∧
      (g.session 0).isRatcheted = true := by
    decide +kernel
  obtain ⟨hdb, hlive, hip, hratcheted⟩ := hfacts
  refine (@survives_lateInit_iff samplePrimitives sampleRandomness sampleConfig sampleServerKeys
    default (some [sampleClient]) es g _ rfl hdb 0 _ hlive hip hratcheted sampleClientInit ?_
    (sampleEnv 100) sampleOtherAddr).2 ?_
  · exact samplePrimitives_decrypt_eq_none (by decide +kernel)
  · rintro ⟨-, -, -, client, hmatch, -⟩
    exact absurd hmatch (by simp [firstMatch])

end Aivpn
