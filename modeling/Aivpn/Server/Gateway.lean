import Aivpn.Server.SessionManager
import Aivpn.Lib.Action

/-!
# The gateway

`Gateway` of `gateway.rs`: `handle_packet` with its lookup chain, handshake and decryption,
`process_inner_payload` and the control messages, the TUN read loop, and the background tasks
that touch sessions. One call of `handle_packet` is one step; the clock it reads does not move
while it runs.

Each function is an `Action` on the gateway's state. `effects` lists what leaves the gateway,
newest first: datagrams, packets written to the TUN device, and records in the client database.
The per-IP packet rate limit, which drops datagrams before `handle_packet` sees them, and the
neural module, which only reads, are left out.
-/

set_option autoImplicit false

namespace Aivpn

open Aivpn.Lib

/-- `ClientConfig`, without the fields that handshakes do not read. -/
structure ClientConfig where
  id : String
  psk : Key
  vpnIp : Ipv4Addr
  enabled : Bool
deriving DecidableEq, Repr

/-- The fields of `GatewayConfig` that packet handling reads: whether the TUN write channel is
there, the server's address on the TUN device, and the header template of TUN packets. -/
structure GatewayConfig where
  enableNat : Bool
  tunAddr : Ipv4Addr
  headerTemplate : Bytes

/-- What leaves the gateway. -/
inductive Effect where
  | send (sid : SessionId) (packet : Bytes) (addr : SocketAddr)
  | tunWrite (packet : Bytes)
  | recordHandshake (clientId : String)
  | recordTraffic (clientId : String) (bytesIn bytesOut : Nat)
deriving DecidableEq, Repr

/-- `Gateway`. `clientDb` is the list `list_clients` returns, when a database is configured;
`handshakeCooldowns` has the number of failures and the time of the last one. -/
structure Gateway where
  sessionManager : SessionManager
  clientDb : Option (List ClientConfig)
  handshakeCooldowns : IpAddr → Option (Nat × Nat)
  effects : List Effect

/-- The length of the mask-dependent header that `handle_packet` assumes. -/
def mdhLen : Nat := 4

/-- A datagram's session: its id, the counter of the datagram, whether the tag belongs to the
pending ratcheted keys, and whether the datagram created the session. -/
structure TagMatch where
  sessionId : SessionId
  counter : Nat
  isRatchetedTag : Bool
  isNewSession : Bool
deriving DecidableEq, Repr

namespace SessionManager

variable (P : Primitives) (env : Env)

/-- The lookup chain of `handle_packet`: the tag map, then a refresh of all tag windows, then
counter recovery. -/
def findSession (m : SessionManager) (tag : Tag) (clientIp : IpAddr) :
    Except Error (Option (SessionId × Nat × Bool)) × SessionManager :=
  match m.getSessionByTag tag with
  | some sid => match (m.heap sid).validateTag P env.timeWindow tag with
    | some (counter, isRatcheted) => (.ok (some (sid, counter, isRatcheted)), m)
    | none => (.error (.invalidPacket "Invalid tag"), m)
  | none => match m.refreshAndFindByTag P env.timeWindow tag with
    | (some hit, m') => (.ok (some hit), m')
    | (none, m') =>
        let r := m'.recoverSessionByTag P env.timeWindow tag clientIp
        (.ok r.1, r.2)

/-- The loop over the registered clients: the first enabled one whose session validates the tag.
The sessions of the others are rolled back. -/
def tryClients (rng : Randomness) (clientAddr : SocketAddr) (ephPub : Key) (tag : Tag) :
    List ClientConfig → SessionManager → Option (SessionId × ClientConfig) × SessionManager
  | [], m => (none, m)
  | client :: rest, m =>
      if client.enabled then
        match m.createSession P rng env clientAddr ephPub (some client.psk) (some client.vpnIp) with
        | (.ok sid, m') =>
            if ((m'.heap sid).validateTag P env.timeWindow tag).isSome then
              (some (sid, client), m')
            else tryClients rng clientAddr ephPub tag rest (m'.rollbackFailedSession sid)
        | (.error _, m') => tryClients rng clientAddr ephPub tag rest m'
      else tryClients rng clientAddr ephPub tag rest m

end SessionManager

/-- The update of a session by an accepted datagram of the given length, with the bytes to be
recorded for its client. -/
def Session.receive (P : Primitives) (env : Env) (s : Session) (counter : Nat)
    (isNewSession : Bool) (clientAddr : SocketAddr) (len : Nat) :
    Session × Option (String × Nat) :=
  let s := s.markTagReceived counter
  let s := { s with lastSeen := env.instant }
  let s := if !isNewSession && s.clientAddr ≠ clientAddr then { s with clientAddr := clientAddr }
    else s
  let s := if s.needsRefresh counter then s.updateTagWindow P env.timeWindow else s
  let pending := saturatingAdd s.pendingBytesIn len
  if 16 * 1024 ≤ pending then
    ({ s with pendingBytesIn := 0 }, s.clientId.map fun clientId => (clientId, pending))
  else ({ s with pendingBytesIn := pending }, none)

/-- The same in the session manager: the tag map follows when the tag window was rebuilt. -/
def SessionManager.receive (P : Primitives) (env : Env) (m : SessionManager) (t : TagMatch)
    (clientAddr : SocketAddr) (len : Nat) : Option (String × Nat) × SessionManager :=
  let s := m.heap t.sessionId
  let r := s.receive P env t.counter t.isNewSession clientAddr len
  let m' := m.setSession t.sessionId r.1
  (r.2, if s.needsRefresh t.counter then m'.refreshSessionTags t.sessionId else m')

/-! ## Decryption -/

/-- Where `handle_packet` expects the ciphertext: behind an embedded `eph_pub` in the datagram
that creates a session and, before the ratchet, in every datagram long enough to hold one. -/
def payloadOffset (s : Session) (t : TagMatch) (len : Nat) : Nat :=
  let isPreRatchetRetry := !t.isNewSession && !t.isRatchetedTag &&
    (!s.isRatcheted && decide (tagSize + mdhLen + 32 + 16 ≤ len))
  if t.isNewSession || isPreRatchetRetry then tagSize + mdhLen + 32 else tagSize + mdhLen

/-- The key `handle_packet` decrypts with. -/
def payloadKey (s : Session) (isRatchetedTag : Bool) : Except Error Key :=
  if isRatchetedTag then match s.ratchetedKeys with
    | some ratchetedKeys => .ok ratchetedKeys.sessionKey
    | none => .error (.invalidPacket "Ratcheted keys missing")
  else .ok s.keys.sessionKey

/-- The decryption of a datagram in `handle_packet`. -/
def decryptDatagram (P : Primitives) (s : Session) (t : TagMatch) (packetData : Bytes) :
    Except Error Bytes :=
  let offset := payloadOffset s t packetData.length
  if packetData.length ≤ offset then .error (.invalidPacket "Invalid length")
  else match payloadKey s t.isRatchetedTag with
    | .error e => .error e
    | .ok key => P.decryptPayload key (counterToNonce t.counter) (packetData.drop offset)

/-- The inner packet without `pad_len` and padding. -/
def stripPadding (padded : Bytes) : Except Error Bytes :=
  if padded.length < 2 then .error (.invalidPacket "Decrypted payload too short")
  else
    let padLen := leNat (padded.take 2)
    if 2 + padLen > padded.length then .error (.invalidPacket "Invalid padding length")
    else .ok ((padded.take (padded.length - padLen)).drop 2)

namespace Gateway

open Action

/-- `Gateway::new`, with the key pair and the signing key it was given or has drawn. -/
def new (serverKeys : KeyPair) (signingKey : Key) (clientDb : Option (List ClientConfig)) :
    Gateway where
  sessionManager := SessionManager.new serverKeys signingKey
  clientDb := clientDb
  handshakeCooldowns := fun _ => none
  effects := []

/-- The session with the given id. -/
def session (g : Gateway) (sid : SessionId) : Session := g.sessionManager.heap sid

/-- A command of the session manager. -/
def manager {α : Type} (f : SessionManager → α × SessionManager) : Action Gateway Error α :=
  update fun g => ((f g.sessionManager).1, { g with sessionManager := (f g.sessionManager).2 })

/-- A command of the session manager that may fail. -/
def managerExcept {α : Type} (f : SessionManager → Except Error α × SessionManager) :
    Action Gateway Error α :=
  manager f >>= ofExcept

theorem manager_of_eq {α : Type} {f : SessionManager → α × SessionManager} {g : Gateway} {a : α}
    {m : SessionManager} (h : f g.sessionManager = (a, m)) :
    manager f g = (.ok a, { g with sessionManager := m }) := by
  simp [manager, h]

theorem managerExcept_of_ok {α : Type} {f : SessionManager → Except Error α × SessionManager}
    {g : Gateway} {a : α} {m : SessionManager} (h : f g.sessionManager = (.ok a, m)) :
    managerExcept f g = (.ok a, { g with sessionManager := m }) :=
  bind_of_ok (manager_of_eq h) _

theorem managerExcept_of_error {α : Type} {f : SessionManager → Except Error α × SessionManager}
    {g : Gateway} {e : Error} {m : SessionManager} (h : f g.sessionManager = (.error e, m)) :
    managerExcept f g = (.error (.error e), { g with sessionManager := m }) :=
  bind_of_ok (manager_of_eq h) _

/-- A change of the session manager. -/
def modifyManager (f : SessionManager → SessionManager) : Action Gateway Error Unit :=
  modify fun g => { g with sessionManager := f g.sessionManager }

/-- An effect. -/
def emit (e : Effect) : Action Gateway Error Unit :=
  modify fun g => { g with effects := e :: g.effects }

variable (P : Primitives) (rng : Randomness) (cfg : GatewayConfig) (env : Env)

/-! ## Sending -/

/-- `socket.send_to`, which fails when the datagram does not leave the socket. -/
def sendTo (sid : SessionId) (packet : Bytes) (addr : SocketAddr) : Action Gateway Error Unit :=
  if env.sendOk then emit (.send sid packet addr) else throw .io

/-- `Gateway::send_server_hello`. -/
def sendServerHello (sid : SessionId) (clientAddr : SocketAddr) : Action Gateway Error Unit := do
  let s ← gets fun g => g.session sid
  match s.serverEphPub, s.serverHelloSignature with
  | some serverEphPub, some signature => do
      let inner := (InnerHeader.mk .control 0).encode ++
        (ControlPayload.serverHello serverEphPub signature).encode
      let packet ← manager fun m => m.buildPacket P rng env sid inner
      sendTo env sid packet clientAddr
  | _, _ => throw (.session "Missing ratchet data")

/-- `Gateway::send_control_message`. -/
def sendControlMessage (payload : ControlPayload) (sid : SessionId) :
    Action Gateway Error Unit := do
  let seqNum ← manager fun m => m.takeSeq sid
  let inner := (InnerHeader.mk .control seqNum).encode ++ payload.encode
  let packet ← manager fun m => m.buildPacket P rng env sid inner
  let s ← gets fun g => g.session sid
  sendTo env sid packet s.clientAddr

/-! ## Handshake -/

/-- The cooldown test on the source IP of a handshake. -/
def cooldownActive (g : Gateway) (ip : IpAddr) : Bool :=
  match g.handshakeCooldowns ip with
  | some (failCount, lastFail) => decide (env.instant - lastFail < 250 * 2 ^ min failCount 4)
  | none => false

/-- The cooldown entry after one more failure. -/
def failedHandshake (g : Gateway) (ip : IpAddr) : Gateway :=
  let failCount := ((g.handshakeCooldowns ip).map Prod.fst).getD 0
  { g with handshakeCooldowns :=
      Function.update g.handshakeCooldowns ip (some (failCount + 1, env.instant)) }

/-- The session for a handshake, with the matched client: one attempt for each registered client,
or a session without PSK when there is no database. -/
def openSession (clientAddr : SocketAddr) (ephPub : Key) (tag : Tag) :
    Action Gateway Error (SessionId × Option ClientConfig) := do
  let clientDb ← gets Gateway.clientDb
  match clientDb with
  | some clients => do
      let found ← manager (SessionManager.tryClients P env rng clientAddr ephPub tag clients)
      match found with
      | some (sid, client) => pure (sid, some client)
      | none => do
          modify fun g => failedHandshake env g clientAddr.ip
          throw (.invalidPacket "No registered client matches this handshake")
  | none => do
      let sid ← managerExcept fun m => m.createSession P rng env clientAddr ephPub none none
      pure (sid, none)

/-- The record of a handshake for a matched client. -/
def recordClient (sid : SessionId) : Option ClientConfig → Action Gateway Error Unit
  | some client => do
      emit (.recordHandshake client.id)
      modifyManager fun m => m.setSession sid { m.heap sid with clientId := some client.id }
  | none => pure ()

/-- The client's ephemeral key in a handshake datagram. -/
def handshakeEphPub (serverPublicKey : Key) (packetData : Bytes) : Key :=
  P.obfuscateEphPub (readArray 32 (tagSize + mdhLen) packetData) serverPublicKey

/-- The handshake branch of `handle_packet` up to the validation of the tag: the session the
handshake is for, the matched client, and the counter of the datagram. -/
def offerSession (packetData : Bytes) (tag : Tag) (clientAddr : SocketAddr) :
    Action Gateway Error (SessionId × Option ClientConfig × Nat × Bool) := do
  let g ← gets id
  if cooldownActive env g clientAddr.ip then throw (.invalidPacket "Handshake cooldown active")
  else if packetData.length < tagSize + mdhLen + 32 then
    throw (.invalidPacket "Too short for session init")
  else do
    let ephPub := handshakeEphPub P g.sessionManager.serverKeys.publicKeyBytes packetData
    let (sid, client) ← openSession P rng env clientAddr ephPub tag
    let s ← gets fun g => g.session sid
    match s.validateTag P env.timeWindow tag with
    | none => do
        modifyManager fun m => m.rollbackFailedSession sid
        throw (.invalidPacket "Tag mismatch on new session")
    | some (counter, isRatcheted) => pure (sid, client, counter, isRatcheted)

/-- The handshake branch once the tag is valid: older sessions of the client go, the cooldown is
cleared, and the ServerHello is sent. -/
def acceptHandshake (sid : SessionId) (client : Option ClientConfig) (clientAddr : SocketAddr) :
    Action Gateway Error Unit := do
  modifyManager fun m => m.establish sid (client.map ClientConfig.psk)
  modify fun g => { g with
    handshakeCooldowns := Function.update g.handshakeCooldowns clientAddr.ip none }
  recordClient sid client
  sendServerHello P rng env sid clientAddr

/-- The handshake branch of `handle_packet`. -/
def handshake (packetData : Bytes) (tag : Tag) (clientAddr : SocketAddr) :
    Action Gateway Error TagMatch := do
  let (sid, client, counter, isRatcheted) ← offerSession P rng env packetData tag clientAddr
  acceptHandshake P rng env sid client clientAddr
  pure ⟨sid, counter, isRatcheted, true⟩

/-! ## Inner packets -/

/-- `Gateway::handle_control_message`. -/
def handleControlMessage (payload : Bytes) (sid : SessionId) (clientAddr : SocketAddr) :
    Action Gateway Error Unit := do
  let control ← ofExec (ControlPayload.decode payload)
  match control with
  | .keepalive => do
      let s ← gets fun g => g.session sid
      if s.isRatcheted then
        sendControlMessage P rng env (.controlAck 0 ControlSubtype.keepalive.toU8) sid
      else sendServerHello P rng env sid clientAddr
  | .telemetryRequest _ => sendControlMessage P rng env (.telemetryResponse 0 10 2 25) sid
  | .shutdown _ => modifyManager fun m => m.removeSession sid
  | .keyRotate _ => pure ()
  | .maskUpdate _ _ => pure ()
  | .telemetryResponse _ _ _ _ => pure ()
  | .timeSync _ => pure ()
  | .controlAck _ _ => pure ()
  | .serverHello _ _ => pure ()

/-- `Gateway::process_inner_payload`. -/
def processInnerPayload (plaintext : Bytes) (sid : SessionId) (clientAddr : SocketAddr) :
    Action Gateway Error Unit :=
  if plaintext.length < 4 then throw (.invalidPacket "Inner payload too short")
  else do
    let innerHeader ← ofExec (InnerHeader.decode plaintext)
    let payload := plaintext.drop 4
    match innerHeader.innerType with
    | .data => if cfg.enableNat then emit (.tunWrite payload) else pure ()
    | .control => handleControlMessage P rng env payload sid clientAddr
    | .fragment => pure ()
    | .ack => pure ()

/-! ## Packets from clients -/

/-- The session of a datagram: the lookup chain, then the handshake. -/
def identify (packetData : Bytes) (clientAddr : SocketAddr) : Action Gateway Error TagMatch := do
  let tag : Tag := readArray 8 0 packetData
  let hit ← managerExcept fun m => m.findSession P env tag clientAddr.ip
  match hit with
  | some (sid, counter, isRatcheted) => pure ⟨sid, counter, isRatcheted, false⟩
  | none => handshake P rng env packetData tag clientAddr

/-- The client key and PSK for which a datagram's handshake is accepted, when the lookup chain
does not know the tag and the handshake branch gets past the validation. -/
def acceptedHandshake (g : Gateway) (packetData : Bytes) (clientAddr : SocketAddr) :
    Option (Key × Option Key) :=
  if packetData.length < tagSize + 2 then none
  else
    let tag : Tag := readArray 8 0 packetData
    match g.sessionManager.findSession P env tag clientAddr.ip with
    | (.ok none, m) =>
        match offerSession P rng env packetData tag clientAddr { g with sessionManager := m } with
        | (.ok (_, client, _, _), _) =>
            some (handshakeEphPub P m.serverKeys.publicKeyBytes packetData,
              client.map ClientConfig.psk)
        | _ => none
    | _ => none

/-- The ratchet of `handle_packet`, once the client has used its ratcheted keys. -/
def ratchet (t : TagMatch) : Action Gateway Error Unit :=
  if t.isRatchetedTag then
    modifyManager fun m => (m.completeSessionRatchet t.sessionId).refreshSessionTags t.sessionId
  else pure ()

/-- The record of the bytes that a datagram brought above the flush threshold. -/
def recordTraffic : Option (String × Nat) → Action Gateway Error Unit
  | some (clientId, bytesIn) => do
      let clientDb ← gets Gateway.clientDb
      if clientDb.isSome then emit (.recordTraffic clientId bytesIn 0) else pure ()
  | none => pure ()

/-- `handle_packet` up to `process_inner_payload`: the session of the datagram and its inner
packet. -/
def receivePacket (packetData : Bytes) (clientAddr : SocketAddr) :
    Action Gateway Error (TagMatch × Bytes) :=
  if packetData.length < tagSize + 2 then throw (.invalidPacket "Too short")
  else do
    let t ← identify P rng env packetData clientAddr
    let s ← gets fun g => g.session t.sessionId
    let padded ← ofExcept (decryptDatagram P s t packetData)
    ratchet t
    let plaintext ← ofExcept (stripPadding padded)
    let flush ← manager fun m => m.receive P env t clientAddr packetData.length
    recordTraffic flush
    pure (t, plaintext)

/-- `Gateway::handle_packet`. -/
def handlePacket (packetData : Bytes) (clientAddr : SocketAddr) : Action Gateway Error Unit := do
  let (t, plaintext) ← receivePacket P rng env packetData clientAddr
  if t.isNewSession then pure ()
  else processInnerPayload P rng cfg env plaintext t.sessionId clientAddr

/-! ## Packets to clients -/

/-- `Gateway::compute_checksum`: the sum of the big-endian 16-bit words. -/
def checksumWords : Bytes → Nat
  | b0 :: b1 :: rest => b0.toNat * 256 + b1.toNat + checksumWords rest
  | [b0] => b0.toNat * 256
  | [] => 0

/-- The fold of a 32-bit sum to 16 bits; two rounds suffice for a sum below `2 ^ 32`. -/
def checksumFold (sum : Nat) : Nat :=
  let sum := sum % 65536 + sum / 65536
  sum % 65536 + sum / 65536

/-- `Gateway::compute_checksum`. -/
def computeChecksum (data : Bytes) : Nat := 65535 - checksumFold (checksumWords data)

/-- The four bytes of an address. -/
def octets (ip : Ipv4Addr) : Bytes := [ip.a, ip.b, ip.c, ip.d]

/-- `Gateway::build_icmp_echo_reply`. -/
def buildIcmpEchoReply (request : Bytes) (serverIp : Ipv4Addr) : Option Bytes :=
  if request.length < 28 then none
  else if request.getD 20 0 ≠ 8 then none
  else
    let len := request.length % 65536
    let ipHeader : Bytes := [0x45, 0x00, UInt8.ofNat (len / 256), UInt8.ofNat (len % 256)]
      ++ (request.take 8).drop 4 ++ [64, 1, 0, 0] ++ octets serverIp ++ (request.take 16).drop 12
    let rest := request.drop 24
    let checksum := computeChecksum ([0, request.getD 21 0, 0, 0] ++ rest)
    some (ipHeader ++ [0, request.getD 21 0, UInt8.ofNat (checksum / 256),
      UInt8.ofNat (checksum % 256)] ++ rest)

/-- The destination of an IPv4 packet. -/
def dstIp (packet : Bytes) : Ipv4Addr :=
  ⟨packet.getD 16 0, packet.getD 17 0, packet.getD 18 0, packet.getD 19 0⟩

/-- One packet of `Gateway::tun_read_loop`. -/
def tunRead (packet : Bytes) : Action Gateway Error Unit :=
  if packet.length < 20 ∨ packet.getD 0 0 >>> 4 ≠ 4 then pure ()
  else if dstIp packet = cfg.tunAddr ∧ 28 ≤ packet.length ∧ packet.getD 9 0 = 1 then
    match buildIcmpEchoReply packet cfg.tunAddr with
    | some reply => emit (.tunWrite reply)
    | none => pure ()
  else do
    let session ← gets fun g => g.sessionManager.getSessionByVpnIp (dstIp packet)
    match session with
    | none => pure ()
    | some sid => do
        let s ← gets fun g => g.session sid
        let seqNum ← manager fun m => m.takeSeq sid
        let inner := (InnerHeader.mk .data seqNum).encode ++ packet
        let aivpnPacket ← manager fun m =>
          m.sealPacket P env sid cfg.headerTemplate (padPlaintext inner [])
        if env.sendOk then emit (.send sid aivpnPacket s.clientAddr) else pure ()

/-- The rotation of one session's mask in `Gateway::resonance_check_loop`. -/
def rotateMask (sid : SessionId) (maskData : Bytes) : Action Gateway Error Unit := do
  let g ← gets id
  if sid ∈ g.sessionManager.sessions then do
    let packet ← manager fun m => m.buildMaskUpdatePacket P rng env sid maskData
    if env.sendOk then emit (.send sid packet (g.session sid).clientAddr) else pure ()
  else pure ()

/-! ## Runs -/

/-- What can happen to the gateway: a datagram arrives, the TUN device has a packet, a mask is
rotated, the cleanup task runs, the client database is reloaded, or the session map changes the
order in which it iterates. -/
inductive Event where
  | packet (packetData : Bytes) (clientAddr : SocketAddr)
  | tun (packet : Bytes)
  | rotateMask (sid : SessionId) (maskData : Bytes)
  | cleanup
  | reload (clients : List ClientConfig)
  | rehash (sessions : List SessionId)

/-- The command of an event. -/
def perform : Event → Action Gateway Error Unit
  | .packet packetData clientAddr => handlePacket P rng cfg env packetData clientAddr
  | .tun packet => tunRead P cfg env packet
  | .rotateMask sid maskData => rotateMask P rng env sid maskData
  | .cleanup => modifyManager fun m => m.cleanupExpired env.instant
  | .reload clients => modify fun g => { g with clientDb := g.clientDb.map fun _ => clients }
  | .rehash sessions => modifyManager fun m =>
      if sessions.Perm m.sessions then { m with sessions := sessions } else m

/-- One step of the gateway, at the time of `e.1`. Errors are logged and dropped. -/
def step (g : Gateway) (e : Env × Event) : Gateway := (perform P rng cfg e.1 e.2 g).2

end Gateway

end Aivpn
