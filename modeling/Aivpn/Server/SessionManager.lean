import Aivpn.Server.Session
import Mathlib.Logic.Function.Basic

/-!
# The session manager

`SessionManager` of `session.rs`. The source shares each session through a counted pointer; here
`heap` holds the contents of every session ever created, by session id, and `sessions` the ids
that are in the session map, in the order in which the map iterates. Removing a session takes it
out of the map and leaves its contents where a holder of the pointer still reads them. Cells of
`heap` from `nextId` on have not been allocated.

Random draws are the fields of `Randomness`, indexed by the session created or by the number of
paddings drawn so far. The last three fields are history variables: `draws`, `encryptCalls`, the
calls of `encrypt_payload` the server has made, and `established`, the sessions whose handshake
was accepted, both newest first.
-/

set_option autoImplicit false

namespace Aivpn

open Aivpn.Lib

/-- The random bytes the server draws. -/
structure Randomness where
  /-- Private key bytes drawn for the server's ephemeral key pair of a session. -/
  serverEph : SessionId → Key
  /-- The sixteen padding bytes of a packet. -/
  padding : Nat → ByteArr 16

/-- A call of `encrypt_payload` for a session. -/
structure EncryptCall where
  sessionId : SessionId
  key : Key
  nonce : Nonce
  plaintext : Bytes
deriving DecidableEq, Repr

/-- A session whose handshake was accepted, with the client key and the PSK it was made from. -/
structure Established where
  sessionId : SessionId
  ephPub : Key
  presharedKey : Option Key
deriving DecidableEq, Repr

/-- `SessionManager`. -/
structure SessionManager where
  heap : SessionId → Session
  nextId : SessionId
  sessions : List SessionId
  tagMap : Tag → Option SessionId
  vpnIpMap : Ipv4Addr → Option SessionId
  nextIpOctet : Nat
  serverKeys : KeyPair
  signingKey : Key
  draws : Nat
  encryptCalls : List EncryptCall
  established : List Established

/-! ## Tag map operations -/

/-- The map after `remove` of every tag in `tags`. -/
def removeTags (tags : List Tag) (m : Tag → Option SessionId) : Tag → Option SessionId :=
  fun t => if t ∈ tags then none else m t

/-- The map after `insert` of every tag in `tags` with the same session id. -/
def insertTags (tags : List Tag) (sid : SessionId) (m : Tag → Option SessionId) :
    Tag → Option SessionId :=
  fun t => if t ∈ tags then some sid else m t

/-- `tag_map.retain(|_, id| id != session_id)`. -/
def retainOthers (sid : SessionId) (m : Tag → Option SessionId) : Tag → Option SessionId :=
  fun t => if m t = some sid then none else m t

/-- The cached tags of the current keys. -/
def Session.currentTags (s : Session) : List Tag := s.expectedTags.map Prod.snd

/-- The cached tags of the pending ratcheted keys. -/
def Session.pendingTags (s : Session) : List Tag := s.ratchetedExpectedTags.map Prod.snd

namespace SessionManager

/-- `SessionManager::new`. -/
def new (serverKeys : KeyPair) (signingKey : Key) : SessionManager where
  heap := fun _ => default
  nextId := 0
  sessions := []
  tagMap := fun _ => none
  vpnIpMap := fun _ => none
  nextIpOctet := 2
  serverKeys := serverKeys
  signingKey := signingKey
  draws := 0
  encryptCalls := []
  established := []

/-- The contents of a session replaced. -/
def setSession (m : SessionManager) (sid : SessionId) (s : Session) : SessionManager :=
  { m with heap := Function.update m.heap sid s }

/-- `SessionManager::get_session_by_tag`. -/
def getSessionByTag (m : SessionManager) (tag : Tag) : Option SessionId :=
  match m.tagMap tag with
  | some sid => if sid ∈ m.sessions then some sid else none
  | none => none

/-- `SessionManager::get_session_by_vpn_ip`. -/
def getSessionByVpnIp (m : SessionManager) (vpnIp : Ipv4Addr) : Option SessionId :=
  match m.vpnIpMap vpnIp with
  | some sid => if sid ∈ m.sessions then some sid else none
  | none => none

/-! ## Creation and removal -/

/-- The VPN address assigned at creation: the static one, else the reused one, else the next
octet of the pool while it lasts. -/
def assignVpnIp (m : SessionManager) (staticVpnIp reusedVpnIp : Option Ipv4Addr) :
    Option Ipv4Addr × Nat :=
  match staticVpnIp.or reusedVpnIp with
  | some ip => (some ip, m.nextIpOctet)
  | none =>
      let octet := m.nextIpOctet
      (if octet ≤ 254 then some ⟨10, 0, 0, UInt8.ofNat octet⟩ else none, (octet + 1) % 2 ^ 32)

/-- The VPN address of the first session found for the same client IP. -/
def reusedVpnIp (m : SessionManager) (clientAddr : SocketAddr) : Option Ipv4Addr :=
  m.sessions.findSome? fun sid =>
    if (m.heap sid).clientAddr.ip = clientAddr.ip then (m.heap sid).vpnIp else none

/-- The number of live sessions whose client has the IP of `clientAddr`. -/
def ipCount (m : SessionManager) (clientAddr : SocketAddr) : Nat :=
  m.sessions.countP fun sid => (m.heap sid).clientAddr.ip = clientAddr.ip

/-- The session `create_session` builds before it is assigned a VPN address: initial keys from
DH1, ratcheted keys from DH2 under the initial session key, both tag windows precomputed. -/
def initialSession (P : Primitives) (env : Env) (m : SessionManager) (clientAddr : SocketAddr)
    (ephPub : Key) (initialKeys : SessionKeys) (serverEphKp : KeyPair) (dh2 : Key) : Session :=
  let s := Session.new env.instant m.nextId clientAddr initialKeys ephPub
  let s := { s with
    serverEphPub := some serverEphKp.publicKeyBytes
    serverHelloSignature := some (P.sign m.signingKey
      (serverEphKp.publicKeyBytes.toList ++ ephPub.toList))
    ratchetedKeys := some (P.deriveSessionKeys dh2 (some initialKeys.sessionKey) ephPub) }
  (s.updateTagWindow P env.timeWindow).updateRatchetedTagWindow P env.timeWindow

/-- The registration of a new session: its tags, its place in the session map, and its VPN
address. -/
def register (m : SessionManager) (s : Session) (vpnIp : Option Ipv4Addr) (nextIpOctet : Nat) :
    SessionManager :=
  let sid := m.nextId
  { m with
    heap := Function.update m.heap sid { s with vpnIp := vpnIp }
    nextId := sid + 1
    sessions := m.sessions ++ [sid]
    tagMap := insertTags s.pendingTags sid (insertTags s.currentTags sid m.tagMap)
    vpnIpMap := match vpnIp with
      | some ip => Function.update m.vpnIpMap ip (some sid)
      | none => m.vpnIpMap
    nextIpOctet := nextIpOctet }

/-- `SessionManager::create_session`. -/
def createSession (P : Primitives) (rng : Randomness) (env : Env) (m : SessionManager)
    (clientAddr : SocketAddr) (ephPub : Key) (presharedKey : Option Key)
    (staticVpnIp : Option Ipv4Addr) : Except Error SessionId × SessionManager :=
  if maxSessions ≤ m.sessions.length then (.error (.session "Max sessions reached"), m)
  else if 5 ≤ m.ipCount clientAddr then (.error (.session "Per-IP session limit reached"), m)
  else match P.computeShared m.serverKeys ephPub with
    | .error e => (.error e, m)
    | .ok dh1 =>
        let initialKeys := P.deriveSessionKeys dh1 presharedKey ephPub
        let serverEphKp := P.fromPrivateKey (rng.serverEph m.nextId)
        match P.computeShared serverEphKp ephPub with
        | .error e => (.error e, m)
        | .ok dh2 =>
            let s := m.initialSession P env clientAddr ephPub initialKeys serverEphKp dh2
            let (vpnIp, nextIpOctet) := m.assignVpnIp staticVpnIp (m.reusedVpnIp clientAddr)
            (.ok m.nextId, m.register s vpnIp nextIpOctet)

/-- `SessionManager::remove_session`. -/
def removeSession (m : SessionManager) (sid : SessionId) : SessionManager :=
  if sid ∈ m.sessions then
    let s := m.heap sid
    { m with
      sessions := m.sessions.filter (· ≠ sid)
      tagMap := removeTags s.pendingTags (removeTags s.currentTags m.tagMap)
      vpnIpMap := match s.vpnIp with
        | some ip => if m.vpnIpMap ip = some sid then Function.update m.vpnIpMap ip none
            else m.vpnIpMap
        | none => m.vpnIpMap }
  else m

/-- Removal of several sessions, one after the other. -/
def removeSessions (m : SessionManager) (sids : List SessionId) : SessionManager :=
  sids.foldl removeSession m

/-- `SessionManager::cleanup_old_sessions_for_vpn_ip`. -/
def cleanupOldSessionsForVpnIp (m : SessionManager) (vpnIp : Ipv4Addr) (keep : SessionId) :
    SessionManager :=
  m.removeSessions (m.sessions.filter fun sid => (m.heap sid).vpnIp = some vpnIp ∧ sid ≠ keep)

/-- What `handle_packet` does once the tag of a new session is valid: the older sessions of the
same VPN address go. -/
def establish (m : SessionManager) (sid : SessionId) (presharedKey : Option Key) :
    SessionManager :=
  let s := m.heap sid
  let m := match s.vpnIp with
    | some ip => m.cleanupOldSessionsForVpnIp ip sid
    | none => m
  { m with established := ⟨sid, s.ephPub, presharedKey⟩ :: m.established }

/-- `SessionManager::rollback_failed_session`. -/
def rollbackFailedSession (m : SessionManager) (sid : SessionId) : SessionManager :=
  let vpnIp := if sid ∈ m.sessions then (m.heap sid).vpnIp else none
  let m := m.removeSession sid
  match vpnIp with
  | none => m
  | some ip => match m.sessions.find? fun other => (m.heap other).vpnIp = some ip with
    | some other => { m with vpnIpMap := Function.update m.vpnIpMap ip (some other) }
    | none => m

/-- `SessionManager::cleanup_expired`. -/
def cleanupExpired (m : SessionManager) (now : Nat) : SessionManager :=
  m.removeSessions (m.sessions.filter fun sid =>
    (m.heap sid).isExpired now || (m.heap sid).isIdle now)

/-! ## Tag windows -/

section

variable (P : Primitives)

/-- The refresh of one session in the loop of `refresh_and_find_by_tag`. -/
def refreshSession (tw : Nat) (m : SessionManager) (sid : SessionId) : SessionManager :=
  let s := m.heap sid
  let s' := s.updateTagWindow P tw
  let tagMap := insertTags s'.currentTags sid (removeTags s.currentTags m.tagMap)
  let s'' := s'.updateRatchetedTagWindow P tw
  { m.setSession sid s'' with
    tagMap := insertTags s''.pendingTags sid (removeTags s'.pendingTags tagMap) }

/-- The loop of `refresh_and_find_by_tag`: sessions are refreshed until one validates the tag. -/
def refreshLoop (tw : Nat) (tag : Tag) :
    List SessionId → SessionManager → Option (SessionId × Nat × Bool) × SessionManager
  | [], m => (none, m)
  | sid :: rest, m =>
      let m := m.refreshSession P tw sid
      match (m.heap sid).validateTag P tw tag with
      | some (counter, isRatcheted) => (some (sid, counter, isRatcheted), m)
      | none => refreshLoop tw tag rest m

/-- `SessionManager::refresh_and_find_by_tag`. -/
def refreshAndFindByTag (tw : Nat) (m : SessionManager) (tag : Tag) :
    Option (SessionId × Nat × Bool) × SessionManager :=
  refreshLoop P tw tag m.sessions m

/-- The first session of the given client IP in which the recovery search finds the tag. -/
def recoveryHit (tw : Nat) (m : SessionManager) (tag : Tag) (clientIp : IpAddr) :
    Option (SessionId × Nat) :=
  m.sessions.findSome? fun sid =>
    if (m.heap sid).clientAddr.ip ≠ clientIp then none
    else ((m.heap sid).recoverySearch P tw tag).map fun c => (sid, c)

/-- `SessionManager::recover_session_by_tag`. Of the two tag windows of the session only the one
of the current keys is registered again. -/
def recoverSessionByTag (tw : Nat) (m : SessionManager) (tag : Tag) (clientIp : IpAddr) :
    Option (SessionId × Nat × Bool) × SessionManager :=
  match m.recoveryHit P tw tag clientIp with
  | none => (none, m)
  | some (sid, c) =>
      let s := (m.heap sid).recoverAt P tw c
      (some (sid, c, false),
        { m.setSession sid s with
          tagMap := insertTags s.currentTags sid (retainOthers sid m.tagMap) })

end

/-- `SessionManager::refresh_session_tags`. -/
def refreshSessionTags (m : SessionManager) (sid : SessionId) : SessionManager :=
  if sid ∈ m.sessions then
    let s := m.heap sid
    { m with
      tagMap := insertTags s.pendingTags sid
        (insertTags s.currentTags sid (retainOthers sid m.tagMap)) }
  else m

/-- `SessionManager::complete_session_ratchet`. -/
def completeSessionRatchet (m : SessionManager) (sid : SessionId) : SessionManager :=
  if sid ∈ m.sessions then
    let s := m.heap sid
    let s' := s.completeRatchet
    { m.setSession sid s' with
      tagMap := insertTags s'.currentTags sid (removeTags s.currentTags m.tagMap) }
  else m

/-! ## Packets to the client -/

/-- `TAG | MDH | ciphertext` for the next packet of a session, with the session's send counter
advanced and the call of `encrypt_payload` recorded. -/
def sealPacket (P : Primitives) (env : Env) (m : SessionManager) (sid : SessionId) (mdh : Bytes)
    (padded : Bytes) : Bytes × SessionManager :=
  let s := m.heap sid
  let (nonce, counter, s') := s.nextSendNonce
  let ciphertext := P.encryptPayload s.keys.sessionKey nonce padded
  let tag := P.generateResonanceTag s.keys.tagSecret counter env.timeWindow
  (tag.toList ++ mdh ++ ciphertext,
    { m.setSession sid s' with
      encryptCalls := ⟨sid, s.keys.sessionKey, nonce, padded⟩ :: m.encryptCalls })

/-- The MDH of control packets. -/
def zeroMdh : Bytes := [0, 0, 0, 0]

/-- `Gateway::build_packet`: sixteen random padding bytes, a zero MDH. -/
def buildPacket (P : Primitives) (rng : Randomness) (env : Env) (m : SessionManager)
    (sid : SessionId) (plaintext : Bytes) : Bytes × SessionManager :=
  let padded := padPlaintext plaintext (rng.padding m.draws).toList
  { m with draws := m.draws + 1 }.sealPacket P env sid zeroMdh padded

/-- The next sequence number of a session, cast to `u16`. -/
def takeSeq (m : SessionManager) (sid : SessionId) : UInt16 × SessionManager :=
  let (seq, s) := (m.heap sid).nextSeq
  (UInt16.ofNat seq, m.setSession sid s)

/-- `SessionManager::build_mask_update_packet` for the serialized mask `maskData`. -/
def buildMaskUpdatePacket (P : Primitives) (rng : Randomness) (env : Env) (m : SessionManager)
    (sid : SessionId) (maskData : Bytes) : Bytes × SessionManager :=
  let signature := P.sign m.signingKey maskData
  let encoded := (ControlPayload.maskUpdate maskData signature).encode
  let (seqNum, m) := m.takeSeq sid
  m.buildPacket P rng env sid ((InnerHeader.mk .control seqNum).encode ++ encoded)

end SessionManager

end Aivpn
