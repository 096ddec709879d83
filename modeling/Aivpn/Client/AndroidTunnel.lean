import Aivpn.Client.AivpnClient

/-!
# The Android tunnel

`run_tunnel_android` of `android_tunnel.rs`. The handshake is sent until the first datagram
arrives; that one must be the ServerHello, and it switches the keys. Then `ZeroMdhEncryptor` of the
upload pipeline encrypts, and the receive loop writes data packets to the TUN device and takes no
notice of anything else. The TLS variant of the tunnel makes the same calls in the same order.
-/

set_option autoImplicit false

namespace Aivpn

open Aivpn.Lib

namespace AndroidTunnel

/-- The place the tunnel has reached. -/
inductive Stage where
  | start
  | handshake
  | forwarding
  | finished
deriving DecidableEq, Repr

/-- `ZeroMdhEncryptor`. -/
structure ZeroMdhEncryptor where
  keys : SessionKeys
  counter : Nat
  seq : UInt16
deriving DecidableEq, Repr

end AndroidTunnel

open AndroidTunnel in
/-- The local variables of `run_tunnel_android`; `log` is a history variable. -/
structure AndroidTunnel where
  serverKey : Key
  psk : Option Key
  keypair : KeyPair
  stage : Stage
  keys : SessionKeys
  sendCounter : Nat
  sendSeq : UInt16
  encryptor : Option ZeroMdhEncryptor
  recvWin : RecvWindow
  transitionRecvKeys : Option SessionKeys
  transitionRecvDeadline : Option Nat
  transitionRecvWin : RecvWindow
  sent : List Bytes
  log : SendLog

namespace AndroidTunnel

/-- The tunnel with the key pair it has generated. -/
def new (serverKey : Key) (psk : Option Key) (keypair : KeyPair) : AndroidTunnel where
  serverKey := serverKey
  psk := psk
  keypair := keypair
  stage := .start
  keys := default
  sendCounter := 0
  sendSeq := 0
  encryptor := none
  recvWin := RecvWindow.new
  transitionRecvKeys := none
  transitionRecvDeadline := none
  transitionRecvWin := RecvWindow.new
  sent := []
  log := SendLog.empty

variable (P : Primitives) (env : ClientEnv)

/-- A datagram on its way, when the socket takes it. -/
def transmit (packet : Bytes) (c : AndroidTunnel) : AndroidTunnel :=
  if env.sendOk then { c with sent := packet :: c.sent } else c

/-- `send_handshake`, and the transmission of the datagram. A socket error ends the tunnel. -/
def sendHandshake (c : AndroidTunnel) : AndroidTunnel :=
  let inner := buildInnerPacket .control c.sendSeq ControlPayload.keepalive.encode
  let obf := obfuscateClientEphPub P c.keypair c.serverKey
  let (packet, counter) :=
    buildZeroMdhPacket P env.timeWindow env.draw c.keys c.sendCounter inner (some obf)
  transmit env packet { c with
    sendCounter := counter
    sendSeq := c.sendSeq + 1
    stage := if env.sendOk then .handshake else .finished
    log := c.log.record c.keys.sessionKey c.sendCounter (zeroMdhPlaintext env.draw inner) }

/-- The keys from DH1 and the first handshake datagram. -/
def begin (c : AndroidTunnel) : AndroidTunnel :=
  match P.computeShared c.keypair c.serverKey with
  | .error _ => { c with stage := .finished }
  | .ok dh =>
      let input : KdfInput := ⟨dh, c.psk, c.keypair.publicKeyBytes⟩
      sendHandshake P env { c with keys := input.keys P, log := c.log.rekey input }

/-- What the keys behind the ServerHello in a datagram are derived from, when
`process_server_hello_with_mdh_len` takes it. -/
def helloInput (c : AndroidTunnel) (packet : Bytes) : Option KdfInput :=
  match (decodePacketWithMdhLen P env.timeWindow packet c.keys RecvWindow.new
      defaultZeroMdh.length).1 with
  | .ok decoded => match ControlPayload.decode decoded.payload with
    | .ok (.serverHello serverEphPub _) =>
        some ⟨P.x25519 c.keypair.privateKeyBytes serverEphPub, some c.keys.sessionKey,
          c.keypair.publicKeyBytes⟩
    | _ => none
  | .error _ => none

/-- The first datagram: the ServerHello, or the end of the tunnel. Behind it the upload task takes
the keys and the counter. -/
def receiveHello (packet : Bytes) (c : AndroidTunnel) : AndroidTunnel :=
  match processServerHelloWithMdhLen P env.timeWindow packet c.keys c.keypair RecvWindow.new
      c.sendCounter defaultZeroMdh.length with
  | (.error _, keys, w, counter) =>
      { c with keys := keys, recvWin := w, sendCounter := counter, stage := .finished }
  | (.ok _, keys, w, counter) =>
      { c with
        keys := keys
        sendCounter := counter
        encryptor := some ⟨keys, counter, c.sendSeq⟩
        transitionRecvKeys := some c.keys
        transitionRecvDeadline := some (env.instant + 2000)
        transitionRecvWin := w
        recvWin := RecvWindow.new
        stage := .forwarding
        log := match helloInput P env c packet with
          | some input => c.log.rekey input
          | none => c.log }

/-- `ZeroMdhEncryptor::encrypt_data` and `encrypt_keepalive`, and the transmission of the
datagram. -/
def encryptUpload (innerType : InnerType) (payload : Bytes) (c : AndroidTunnel) : AndroidTunnel :=
  match c.encryptor with
  | none => c
  | some enc =>
      let inner := buildInnerPacket innerType enc.seq payload
      let (packet, counter) :=
        buildZeroMdhPacket P env.timeWindow env.draw enc.keys enc.counter inner none
      transmit env packet { c with
        encryptor := some { enc with counter := counter, seq := enc.seq + 1 }
        log := c.log.record enc.keys.sessionKey enc.counter (zeroMdhPlaintext env.draw inner) }

/-- A datagram in the forwarding loop: the receive windows move, the keys stay. -/
def receive (packet : Bytes) (c : AndroidTunnel) : AndroidTunnel :=
  let expired := c.transitionRecvDeadline.any fun deadline => deadline ≤ env.instant
  let fallback := if expired then none else c.transitionRecvKeys
  let fallbackWin := if expired then RecvWindow.new else c.transitionRecvWin
  let c := { c with
    transitionRecvKeys := fallback
    transitionRecvDeadline := if expired then none else c.transitionRecvDeadline
    transitionRecvWin := fallbackWin }
  match decodePacketWithMdhLen P env.timeWindow packet c.keys c.recvWin defaultZeroMdh.length with
  | (.ok _, w) => { c with recvWin := w }
  | (.error _, w) => match fallback with
    | none => { c with recvWin := w }
    | some fallbackKeys => { c with
        recvWin := w
        transitionRecvWin := (decodePacketWithMdhLen P env.timeWindow packet fallbackKeys
          fallbackWin defaultZeroMdh.length).2 }

/-- What can happen to the tunnel. -/
inductive Event where
  | begin
  | retry
  | data (payload : Bytes)
  | keepalive
  | receive (packet : Bytes)
  | stop

/-- One step of the tunnel. Events that are not due are ignored. -/
def step (c : AndroidTunnel) (e : ClientEnv × Event) : AndroidTunnel :=
  match e.2 with
  | .begin => if c.stage = .start then begin P e.1 c else c
  | .retry => if c.stage = .handshake then sendHandshake P e.1 c else c
  | .data payload => if c.stage = .forwarding then encryptUpload P e.1 .data payload c else c
  | .keepalive =>
      if c.stage = .forwarding then
        encryptUpload P e.1 .control ControlPayload.keepalive.encode c
      else c
  | .receive packet =>
      if c.stage = .handshake then receiveHello P e.1 packet c
      else if c.stage = .forwarding then receive P e.1 packet c
      else c
  | .stop => { c with stage := .finished }

end AndroidTunnel

end Aivpn
