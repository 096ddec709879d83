import Aivpn.Client.Mimicry
import Aivpn.Lib.Action
import Aivpn.Lib.Runs

/-!
# The command line client

`AivpnClient` of `client.rs`. `run` connects, sends the init datagram and hands its keys and its
counter to the upload task; from then on the upload task encrypts and the main loop receives, and a
ServerHello switches both to the next keys. The `stage` is the place `run` has reached.

The upload task shares its state with the client through a lock. The state is in `upload`, and
`uploadState` says whether the client still has its reference. The task lives on for a while when
the client has disconnected, so it may still encrypt then. Sockets and the TUN device succeed or
fail as the environment says.

The last fields are history variables: the ServerHellos processed, what the keys were derived from,
the encryptions made, and the datagrams decoded, newest first.
-/

set_option autoImplicit false

namespace Aivpn

open Aivpn.Lib

/-- A call of `encrypt_payload` by a client. -/
structure ClientCall where
  key : Key
  nonce : Nonce
  plaintext : Bytes
deriving DecidableEq, Repr

/-- What a client has encrypted: the inputs of its keys and its calls of `encrypt_payload`, newest
first. -/
structure SendLog where
  kdfInputs : List KdfInput
  calls : List ClientCall
deriving DecidableEq, Repr

namespace SendLog

/-- The log of a client without keys. -/
def empty : SendLog := ⟨[], []⟩

/-- The log with new keys. -/
def rekey (log : SendLog) (input : KdfInput) : SendLog :=
  { log with kdfInputs := input :: log.kdfInputs }

/-- The log with one more encryption. -/
def record (log : SendLog) (key : Key) (counter : Nat) (plaintext : Bytes) : SendLog :=
  { log with calls := ⟨key, counterToNonce counter, plaintext⟩ :: log.calls }

/-- The session keys, newest first. -/
def keyHistory (P : Primitives) (log : SendLog) : List Key :=
  log.kdfInputs.map (KdfInput.sessionKey P)

/-- The pairs of key and nonce of the encryptions, newest first. -/
def usedPairs (log : SendLog) : List (Key × Nonce) :=
  log.calls.map fun call => (call.key, call.nonce)

end SendLog

/-- The environment of one call: its clocks, whether its I/O succeeds, its random choices, and what
`rmp_serde::from_slice` makes of the bytes of a mask. -/
structure ClientEnv extends Env where
  draw : PacketRandomness
  fromSlice : Bytes → Option Mask.MaskProfile

namespace AivpnClient

/-- The fields of `ClientConfig` that the protocol reads. -/
structure Config where
  serverPublicKey : Key
  presharedKey : Option Key
  initialMask : MaskProfile
  serverSigningPub : Option Key
deriving DecidableEq, Repr

/-- The values of `ClientState` that the client takes. -/
inductive State where
  | provisioned
  | connecting
  | connected
  | disconnected
deriving DecidableEq, Repr

/-- The place `run` has reached. -/
inductive Stage where
  | start
  | connected
  | initSent
  | running
  | finished
deriving DecidableEq, Repr

/-- `UploadCryptoState`. -/
structure UploadCryptoState where
  keys : SessionKeys
  counter : Nat
  seq : UInt16
deriving DecidableEq, Repr

/-- The upload task: its engine and the state it shares with the client. -/
structure UploadTask where
  engine : MimicryEngine
  state : UploadCryptoState
deriving DecidableEq, Repr

end AivpnClient

open AivpnClient in
/-- `AivpnClient`. `mdhLen` is the header length `run` stores for the receive path. -/
structure AivpnClient where
  config : Config
  keypair : KeyPair
  state : State
  stage : Stage
  mimicryEngine : Option MimicryEngine
  sessionKeys : Option SessionKeys
  upload : Option UploadTask
  uploadState : Bool
  transitionRecvKeys : Option SessionKeys
  transitionRecvDeadline : Option Nat
  counter : Nat
  sendSeq : Nat
  recvWindow : RecvWindow
  transitionRecvWindow : RecvWindow
  mdhLen : Nat
  sent : List Bytes
  hellos : Nat
  log : SendLog
  decoded : List Bytes

namespace AivpnClient

open Action

/-- `AivpnClient::new` with the key pair it has generated. -/
def new (config : Config) (keypair : KeyPair) : AivpnClient where
  config := config
  keypair := keypair
  state := .provisioned
  stage := .start
  mimicryEngine := none
  sessionKeys := none
  upload := none
  uploadState := false
  transitionRecvKeys := none
  transitionRecvDeadline := none
  counter := 0
  sendSeq := 0
  recvWindow := RecvWindow.new
  transitionRecvWindow := RecvWindow.new
  mdhLen := 0
  sent := []
  hellos := 0
  log := SendLog.empty
  decoded := []

variable (P : Primitives) (env : ClientEnv)

/-! ## Sending -/

/-- What the keys of `connect` are derived from. -/
def initialInput (c : AivpnClient) : KdfInput :=
  ⟨P.x25519 c.keypair.privateKeyBytes c.config.serverPublicKey, c.config.presharedKey,
    c.keypair.publicKeyBytes⟩

/-- `AivpnClient::connect`. -/
def connect : Action AivpnClient Error Unit := do
  modify fun c => { c with state := .connecting }
  if env.sendOk then do
    modify fun c => { c with mimicryEngine := some ⟨c.config.initialMask, none⟩ }
    let c ← gets id
    let dhResult ← ofExcept (P.computeShared c.keypair c.config.serverPublicKey)
    let input : KdfInput := ⟨dhResult, c.config.presharedKey, c.keypair.publicKeyBytes⟩
    modify fun c => { c with
      sessionKeys := some (input.keys P)
      state := .connected
      log := c.log.rekey input }
  else throw .io

/-- `AivpnClient::send_packet`. -/
def sendPacket (packet : Bytes) : Action AivpnClient Error Unit :=
  if env.sendOk then modify fun c => { c with sent := packet :: c.sent } else throw .io

/-- `MimicryEngine::build_packet` with the given keys and counter: the packet and the advanced
counter. -/
def buildPacket (engine : MimicryEngine) (inner : Bytes) (keys : SessionKeys) (counter : Nat)
    (ephPub : Option Key) : Action AivpnClient Error (Bytes × Nat) := do
  let (_, padded) ← ofExec (engine.preparePacket env.draw inner ephPub)
  modify fun c => { c with log := c.log.record keys.sessionKey counter padded }
  ofExec (engine.buildPacket P env.timeWindow env.draw inner keys counter ephPub)

/-- A control message with the client's own keys, counter and sequence number. -/
def sendOwn (engine : MimicryEngine) (payload : ControlPayload) (keys : SessionKeys)
    (ephPub : Option Key) : Action AivpnClient Error Unit := do
  let c ← gets id
  modify fun c => { c with sendSeq := (c.sendSeq + 1) % 2 ^ 32 }
  let inner := buildInnerPacket .control (UInt16.ofNat c.sendSeq) payload.encode
  let (packet, counter) ← buildPacket P env engine inner keys c.counter ephPub
  modify fun c => { c with counter := counter }
  sendPacket env packet

/-- `AivpnClient::send_init`. -/
def sendInit : Action AivpnClient Error Unit := do
  let c ← gets id
  match c.sessionKeys with
  | none => throw (.session "No session keys")
  | some keys => match c.mimicryEngine with
    | none => throw (.session "No mimicry engine")
    | some engine => do
        let obf := obfuscateClientEphPub P c.keypair c.config.serverPublicKey
        sendOwn P env engine .keepalive keys (some obf)

/-- The part of `run` that starts the upload task. -/
def startUpload : Action AivpnClient Error Unit := do
  let c ← gets id
  match c.sessionKeys with
  | none => throw (.session "No session keys")
  | some keys => match c.mimicryEngine with
    | none => throw (.session "No mimicry engine")
    | some engine => modify fun c => { c with
        mimicryEngine := none
        upload := some ⟨engine, ⟨keys, c.counter, UInt16.ofNat c.sendSeq⟩⟩
        uploadState := true
        mdhLen := engine.mask.headerTemplate.length }

/-- The upload state with the next sequence number and the given counter. -/
def UploadTask.sentOne (task : UploadTask) (counter : Nat) : UploadTask :=
  { task with state := { task.state with seq := task.state.seq + 1, counter := counter } }

/-- `encrypt_data` and `encrypt_keepalive` of the upload task, and the transmission of the datagram.
A datagram that does not leave the socket is dropped. -/
def encryptUpload (innerType : InnerType) (payload : Bytes) : Action AivpnClient Error Unit := do
  let c ← gets id
  match c.upload with
  | none => pure ()
  | some task => do
      let inner := buildInnerPacket innerType task.state.seq payload
      let (packet, counter) ←
        buildPacket P env task.engine inner task.state.keys task.state.counter none
      modify fun c => { c with upload := some (task.sentOne counter) }
      if env.sendOk then modify fun c => { c with sent := packet :: c.sent } else pure ()

/-- `encrypt_data`. -/
def encryptData (payload : Bytes) : Action AivpnClient Error Unit :=
  encryptUpload P env .data payload

/-- `encrypt_keepalive`. -/
def encryptKeepalive : Action AivpnClient Error Unit :=
  encryptUpload P env .control ControlPayload.keepalive.encode

/-- The upload state, as far as the client has its reference. -/
def sharedUpload (c : AivpnClient) : Option UploadTask := if c.uploadState then c.upload else none

/-- A control message with the keys, the counter and the sequence number of the upload state. -/
def sendShared (engine : MimicryEngine) (payload : ControlPayload) (task : UploadTask) :
    Action AivpnClient Error Unit := do
  let inner := buildInnerPacket .control task.state.seq payload.encode
  let (packet, counter) ← buildPacket P env engine inner task.state.keys task.state.counter none
  modify fun c => { c with
    upload := some (task.sentOne counter)
    sendSeq := (task.state.seq + 1).toNat
    counter := counter }
  sendPacket env packet

/-- `AivpnClient::send_control`: through the upload state once there is one. -/
def sendControl (payload : ControlPayload) : Action AivpnClient Error Unit := do
  let c ← gets id
  match c.mimicryEngine with
  | none => throw (.session "No mimicry engine")
  | some engine => match c.sharedUpload with
    | some task => sendShared P env engine payload task
    | none => match c.sessionKeys with
      | none => throw (.session "No session keys")
      | some keys => sendOwn P env engine payload keys none

/-! ## Receiving -/

/-- The end of `AivpnClient::disconnect`. -/
def clearKeys (c : AivpnClient) : AivpnClient :=
  { c with
    state := .disconnected
    sessionKeys := none
    uploadState := false
    transitionRecvKeys := none
    transitionRecvDeadline := none }

/-- `AivpnClient::disconnect`; an error of `send_control` is ignored. -/
def disconnect (c : AivpnClient) : AivpnClient :=
  if c.state = .connected ∧ c.sessionKeys.isSome then
    clearKeys (sendControl P env (.shutdown 0) c).2
  else clearKeys c

/-- The signature check of a ServerHello. -/
def verifyHello (c : AivpnClient) (serverEphPub : Key) (signature : ByteArr 64) :
    Except Error Unit :=
  match c.config.serverSigningPub with
  | none => .ok ()
  | some signingPub =>
      match P.verify signingPub (serverEphPub.toList ++ c.keypair.publicKeyBytes.toList)
          signature with
      | none => .error (.crypto "Invalid server signing key")
      | some false => .error (.crypto "ServerHello signature verification failed")
      | some true => .ok ()

/-- The client behind a ServerHello: new keys derived from `input`, the old ones in transition. -/
def ratchet (input : KdfInput) (c : AivpnClient) : AivpnClient :=
  { c with
    transitionRecvKeys := c.sessionKeys
    transitionRecvDeadline := some (env.instant + 2000)
    transitionRecvWindow := c.recvWindow
    sessionKeys := some (input.keys P)
    counter := 0
    recvWindow := RecvWindow.new
    upload := if c.uploadState then
        c.upload.map fun task =>
          { task with state := { task.state with keys := input.keys P, counter := 0 } }
      else c.upload
    hellos := c.hellos + 1
    log := c.log.rekey input }

/-- The ServerHello arm of `AivpnClient::handle_server_control`. -/
def handleServerHello (serverEphPub : Key) (signature : ByteArr 64) :
    Action AivpnClient Error Unit := do
  let c ← gets id
  ofExcept (verifyHello P c serverEphPub signature)
  let dh2 ← ofExcept (P.computeShared c.keypair serverEphPub)
  match c.sessionKeys with
  | none => throw (.session "No session keys for ratchet")
  | some current =>
      modify (ratchet P env ⟨dh2, some current.sessionKey, c.keypair.publicKeyBytes⟩)

/-- `AivpnClient::update_mask`: the mask of the client's own engine, as far as it has one. -/
def updateMask (newMask : MaskProfile) (c : AivpnClient) : AivpnClient :=
  { c with mimicryEngine := c.mimicryEngine.map (MimicryEngine.updateMask newMask) }

/-- The MaskUpdate arm of `AivpnClient::handle_server_control`. -/
def handleMaskUpdate (maskData : Bytes) : Action AivpnClient Error Unit :=
  match env.fromSlice maskData with
  | some newMask => modify (updateMask newMask.toMaskProfile)
  | none => pure ()

/-- `AivpnClient::handle_server_control`. -/
def handleServerControl : ControlPayload → Action AivpnClient Error Unit
  | .serverHello serverEphPub signature => handleServerHello P env serverEphPub signature
  | .shutdown _ => modify (disconnect P env)
  | .maskUpdate maskData _ => handleMaskUpdate env maskData
  | .keyRotate _ => pure ()
  | .keepalive => pure ()
  | .timeSync _ => pure ()
  | .telemetryRequest _ => pure ()
  | .telemetryResponse _ _ _ _ => pure ()
  | .controlAck _ _ => pure ()

/-- The transition keys go when their deadline has passed. -/
def expireTransition (c : AivpnClient) : AivpnClient :=
  match c.transitionRecvDeadline with
  | none => c
  | some deadline =>
      if deadline ≤ env.instant then { c with
        transitionRecvKeys := none
        transitionRecvDeadline := none
        transitionRecvWindow := RecvWindow.new }
      else c

/-- The decoder under the session keys. -/
def decodePrimary (keys : SessionKeys) (packet : Bytes) (c : AivpnClient) :
    Outcome DecodedPacket × AivpnClient :=
  let (r, w) := decodePacketWithMdhLen P env.timeWindow packet keys c.recvWindow c.mdhLen
  (r, { c with
    recvWindow := w
    decoded := if r.isOk then packet :: c.decoded else c.decoded })

/-- The decoder under the transition keys. -/
def decodeFallback (keys : SessionKeys) (packet : Bytes) (c : AivpnClient) :
    Outcome DecodedPacket × AivpnClient :=
  let (r, w) := decodePacketWithMdhLen P env.timeWindow packet keys c.transitionRecvWindow c.mdhLen
  (r, { c with
    transitionRecvWindow := w
    decoded := if r.isOk then packet :: c.decoded else c.decoded })

/-- The packet under the session keys, or else under the transition keys. -/
def decodePacket (packet : Bytes) : Action AivpnClient Error DecodedPacket := do
  let c ← gets id
  match c.sessionKeys with
  | none => throw (.session "No session keys")
  | some keys => do
      let primary ← update (decodePrimary P env keys packet)
      match primary with
      | .ok decoded => pure decoded
      | .error .panic => ofExec (.error .panic)
      | .error (.error e) => match c.transitionRecvKeys with
        | none => throw e
        | some fallbackKeys => do
            let fallback ← update (decodeFallback P env fallbackKeys packet)
            match fallback with
            | .ok decoded => pure decoded
            | .error .panic => ofExec (.error .panic)
            | .error (.error _) => throw e

/-- `AivpnClient::receive_and_write_packet_with_mdh`. -/
def receiveAndWritePacketWithMdh (packet : Bytes) : Action AivpnClient Error Unit := do
  modify (expireTransition env)
  let decoded ← decodePacket P env packet
  match decoded.header.innerType with
  | .data =>
      if decoded.payload.isEmpty ∨
          (decoded.payload.getD 0 0 >>> 4 ≠ 4 ∧ decoded.payload.getD 0 0 >>> 4 ≠ 6) then
        throw (.invalidPacket "Invalid IP version in payload")
      else if env.sendOk then pure ()
      else throw .io
  | .control => do
      let control ← ofExec (ControlPayload.decode decoded.payload)
      handleServerControl P env control
  | .fragment => pure ()
  | .ack => pure ()

/-! ## Runs -/

/-- What can happen to the client: the stages of `run`, a packet or a keepalive of the upload task,
a change of the padding strategy by the mask's state machine, a datagram from the server, and the
end of the main loop. -/
inductive Event where
  | connect
  | sendInit
  | startUpload
  | data (payload : Bytes)
  | keepalive
  | updateFsm (padding : Option PaddingStrategy)
  | receive (packet : Bytes)
  | shutdown

/-- The next stage of `run`, or its end. -/
def advance (next : Stage) (x : Outcome Unit × AivpnClient) : AivpnClient :=
  match x with
  | (.ok _, c) => { c with stage := next }
  | (.error _, c) => { c with stage := .finished }

/-- The end of the main loop. -/
def finish (c : AivpnClient) : AivpnClient := { disconnect P env c with stage := .finished }

/-- The main loop goes on after an invalid packet and ends after any other error. -/
def afterReceive (x : Outcome Unit × AivpnClient) : AivpnClient :=
  match x with
  | (.ok _, c) => c
  | (.error (.error (.invalidPacket _)), c) => c
  | (.error (.error _), c) => finish P env c
  | (.error .panic, c) => { c with stage := .finished }

/-- A panic of the upload task ends the run. -/
def afterUpload (x : Outcome Unit × AivpnClient) : AivpnClient :=
  match x with
  | (.ok _, c) => c
  | (.error _, c) => { finish P env c with upload := none }

/-- One step of the client. Events that are not due are ignored. -/
def step (c : AivpnClient) (e : ClientEnv × Event) : AivpnClient :=
  match e.2 with
  | .connect => if c.stage = .start then advance .connected (connect P e.1 c) else c
  | .sendInit => if c.stage = .connected then advance .initSent (sendInit P e.1 c) else c
  | .startUpload => if c.stage = .initSent then advance .running (startUpload c) else c
  | .data payload => afterUpload P e.1 (encryptData P e.1 payload c)
  | .keepalive => afterUpload P e.1 (encryptKeepalive P e.1 c)
  | .updateFsm padding => { c with upload := c.upload.map fun task =>
      { task with engine := { task.engine with paddingOverride := padding } } }
  | .receive packet =>
      if c.stage = .running then afterReceive P e.1 (receiveAndWritePacketWithMdh P e.1 packet c)
      else c
  | .shutdown => if c.stage = .running then finish P e.1 c else c

end AivpnClient

end Aivpn
