import Aivpn.Client.AivpnCrypto
import Aivpn.Client.AndroidTunnel
import Aivpn.Client.ReceiveSteps
import Aivpn.Common.DeliverySpec
import Aivpn.Server.LateInit

/-!
# Agreement on the keys of a session

The keys of a session are derived four times: by the server in `create_session`, by the command line
client, by `process_server_hello_with_mdh_len` for the Rust tunnels, and by `AivpnCrypto.kt`. Where
X25519 commutes (`DhAgrees`), all of them derive the same first keys, and after one ServerHello of the
session the ratcheted keys of the server (`firstServerHello_agreement`).
-/

set_option autoImplicit false

namespace Aivpn

open Aivpn.Lib
open Action

/-- X25519 commutes on two key pairs, and the result is not zero. -/
structure DhAgrees (P : Primitives) (a b : KeyPair) : Prop where
  comm : P.x25519 a.privateKeyBytes b.publicKeyBytes = P.x25519 b.privateKeyBytes a.publicKeyBytes
  nonzero : P.x25519 a.privateKeyBytes b.publicKeyBytes ≠ ByteArr.replicate 32 0

/-- `d` is a ServerHello that the gateway sends for the session in time window `t` with counter `n`,
while the session has its first keys. -/
def SendsHello (P : Primitives) (rng : Randomness) (s : Session) (d : Bytes) (t n : Nat) : Prop :=
  ∃ (g : Gateway) (env : Env) (sid : SessionId) (addr : SocketAddr),
    (Gateway.sendServerHello P rng env sid addr g).2.effects = .send sid d addr :: g.effects ∧
    (g.session sid).keys = s.keys ∧ (g.session sid).serverEphPub = s.serverEphPub ∧
    (g.session sid).serverHelloSignature = s.serverHelloSignature ∧
    env.timeWindow = t ∧ (g.session sid).sendCounter = n

section

variable {P : Primitives} {rng : Randomness}

theorem DhAgrees.computeShared {a b : KeyPair} (h : DhAgrees P a b) :
    P.computeShared a b.publicKeyBytes = .ok (P.x25519 a.privateKeyBytes b.publicKeyBytes) ∧
      P.computeShared b a.publicKeyBytes =
        .ok (P.x25519 a.privateKeyBytes b.publicKeyBytes) := by
  unfold Primitives.computeShared
  simp only [← h.comm, h.nonzero, if_false, and_self]

/-- What a ServerHello looks like on the wire. -/
theorem SendsHello.bytes {s : Session} {d : Bytes} {t n : Nat} (h : SendsHello P rng s d t n)
    {serverEphPub : Key} {signature : ByteArr 64} (heph : s.serverEphPub = some serverEphPub)
    (hsig : s.serverHelloSignature = some signature) :
    ∃ padding : Bytes, padding.length < 65536 ∧
      d = assemble P t s.keys n [0, 0, 0, 0] (padPlaintext ((InnerHeader.mk .control 0).encode ++
        (ControlPayload.serverHello serverEphPub signature).encode) padding) := by
  obtain ⟨g, env, sid, addr, heffects, hkeys, heph', hsig', rfl, rfl⟩ := h
  rw [heph] at heph'
  rw [hsig] at hsig'
  refine ⟨(rng.padding g.sessionManager.draws).toList, by rw [ByteArr.length_toList]; decide, ?_⟩
  unfold Gateway.sendServerHello at heffects
  rw [bind_of_ok (gets_apply _ _)] at heffects
  simp only [heph', hsig'] at heffects
  rcases hbuild : g.sessionManager.buildPacket P rng env sid ((InnerHeader.mk .control 0).encode ++
    (ControlPayload.serverHello serverEphPub signature).encode) with ⟨packet, m⟩
  have hpacket : packet = assemble P env.timeWindow (g.session sid).keys (g.session sid).sendCounter
      [0, 0, 0, 0] (padPlaintext ((InnerHeader.mk .control 0).encode ++
        (ControlPayload.serverHello serverEphPub signature).encode)
        (rng.padding g.sessionManager.draws).toList) := (congrArg Prod.fst hbuild).symm
  rw [bind_of_ok (Gateway.manager_of_eq hbuild)] at heffects
  unfold Gateway.sendTo at heffects
  split_ifs at heffects
  · simp only [Gateway.emit, modify_apply, List.cons.injEq, Effect.send.injEq, and_true,
      true_and] at heffects
    rw [← heffects, ← hkeys, hpacket]
  · -- a datagram that does not leave the socket is no effect
    have hlen := congrArg List.length heffects
    simp at hlen

/-! ## A client takes the ServerHello -/

/-- The receive window is ready for the datagram of counter `n` and window `t`: the counter is new and
in reach, and the tags that are compared do not collide. -/
structure Ready (P : Primitives) (w : RecvWindow) (tw : Nat) (tagSecret : Key) (n t : Nat) :
    Prop where
  isNew : w.isNew n = true
  reach : (tagSecret, n, t) ∈ w.searched tw tagSecret
  tags : P.CollisionFree (w.searched tw tagSecret)

variable {keys : SessionKeys} {n t : Nat} {serverEphPub : Key} {signature : ByteArr 64}
  {padding d : Bytes}

theorem decode_hello (haead : SoundAead P keys.sessionKey) {w : RecvWindow} {tw : Nat}
    (hready : Ready P w tw keys.tagSecret n t) (hpad : padding.length < 65536)
    (hd : d = assemble P t keys n [0, 0, 0, 0] (padPlaintext ((InnerHeader.mk .control 0).encode ++
      (ControlPayload.serverHello serverEphPub signature).encode) padding)) :
    decodePacketWithMdhLen P tw d keys w 4 = (.ok ⟨n, ⟨.control, 0⟩,
      (ControlPayload.serverHello serverEphPub signature).encode⟩, w.mark n) := by
  rw [hd]
  have hmdh : defaultZeroMdh.length = 4 := rfl
  rcases decode_genuine haead hready.tags subset_rfl hready.reach ⟨.control, 0⟩
    (ControlPayload.serverHello serverEphPub signature).encode hpad hmdh with
      ⟨-, -, hdec⟩ | ⟨hnot, -⟩
  · exact hdec
  · exact absurd ⟨hready.isNew, hready.reach⟩ hnot

/-- `process_server_hello_with_mdh_len` on a ServerHello. -/
theorem processServerHelloWithMdhLen_hello (haead : SoundAead P keys.sessionKey) {w : RecvWindow}
    {tw : Nat} (hready : Ready P w tw keys.tagSecret n t) (hpad : padding.length < 65536)
    (hd : d = assemble P t keys n [0, 0, 0, 0] (padPlaintext ((InnerHeader.mk .control 0).encode ++
      (ControlPayload.serverHello serverEphPub signature).encode) padding))
    {keypair : KeyPair} {dh2 : Key} (hdh2 : P.computeShared keypair serverEphPub = .ok dh2)
    (sendCounter : Nat) :
    processServerHelloWithMdhLen P tw d keys keypair w sendCounter 4 =
      (.ok (), P.deriveSessionKeys dh2 (some keys.sessionKey) keypair.publicKeyBytes,
        RecvWindow.new, 0) := by
  unfold processServerHelloWithMdhLen
  rw [decode_hello haead hready hpad hd]
  simp only [ne_eq, not_true_eq_false, if_false, ControlPayload.decode_serverHello_encode, hdh2]

/-- The command line client on a ServerHello. -/
theorem receive_hello (haead : SoundAead P keys.sessionKey) {c : AivpnClient} {env : ClientEnv}
    (hkeys : c.sessionKeys = some keys) (hmdh : c.mdhLen = 4)
    (hready : Ready P c.recvWindow env.timeWindow keys.tagSecret n t)
    (hpad : padding.length < 65536)
    (hd : d = assemble P t keys n [0, 0, 0, 0] (padPlaintext ((InnerHeader.mk .control 0).encode ++
      (ControlPayload.serverHello serverEphPub signature).encode) padding))
    {dh2 : Key} (hdh2 : P.computeShared c.keypair serverEphPub = .ok dh2)
    (hverify : AivpnClient.verifyHello P c serverEphPub signature = .ok ()) :
    (AivpnClient.receiveAndWritePacketWithMdh P env d c).1 = .ok () ∧
      (AivpnClient.receiveAndWritePacketWithMdh P env d c).2.sessionKeys =
        some (P.deriveSessionKeys dh2 (some keys.sessionKey) c.keypair.publicKeyBytes) := by
  -- what the handler reads is there also when the transition keys have expired
  obtain ⟨c₀, hc₀, hkeys₀, hmdh₀, hwin₀, hpair₀, hverify₀⟩ : ∃ c₀,
      AivpnClient.expireTransition env c = c₀ ∧ c₀.sessionKeys = some keys ∧ c₀.mdhLen = 4 ∧
      c₀.recvWindow = c.recvWindow ∧ c₀.keypair = c.keypair ∧
      AivpnClient.verifyHello P c₀ serverEphPub signature = .ok () := by
    rcases AivpnClient.expireTransition_cases env c with hsame | hexpired
    · exact ⟨c, hsame, hkeys, hmdh, rfl, rfl, hverify⟩
    · exact ⟨_, hexpired, hkeys, hmdh, rfl, rfl, hverify⟩
  have hprimary : decodePacketWithMdhLen P env.timeWindow d keys c₀.recvWindow c₀.mdhLen = (.ok ⟨n,
      ⟨.control, 0⟩, (ControlPayload.serverHello serverEphPub signature).encode⟩,
      c.recvWindow.mark n) := by
    rw [hmdh₀, hwin₀]
    exact decode_hello haead hready hpad hd
  obtain ⟨c₁, hdec, hkeys₁, hpair₁, hverify₁⟩ : ∃ c₁, AivpnClient.decodePacket P env d c₀ =
      (.ok ⟨n, ⟨.control, 0⟩, (ControlPayload.serverHello serverEphPub signature).encode⟩, c₁) ∧
      c₁.sessionKeys = some keys ∧ c₁.keypair = c.keypair ∧
      AivpnClient.verifyHello P c₁ serverEphPub signature = .ok () := by
    unfold AivpnClient.decodePacket
    rw [bind_of_ok (gets_apply _ _)]
    simp only [id_eq, hkeys₀]
    rw [bind_of_ok (update_apply _ _)]
    simp only [AivpnClient.decodePrimary, hprimary]
    exact ⟨_, rfl, hkeys₀, hpair₀, hverify₀⟩
  unfold AivpnClient.receiveAndWritePacketWithMdh
  rw [bind_of_ok (modify_apply _ _), hc₀, bind_of_ok hdec]
  simp only [ControlPayload.decode_serverHello_encode]
  rw [bind_of_ok (ofExec_apply _ _)]
  simp only [AivpnClient.handleServerControl, AivpnClient.handleServerHello]
  rw [bind_of_ok (gets_apply _ _)]
  simp only [id_eq, hverify₁, hpair₁, hdh2, hkeys₁]
  rw [bind_of_ok (ofExcept_ok _ _), bind_of_ok (ofExcept_ok _ _)]
  exact ⟨rfl, rfl⟩

/-! ## The init -/

/-- A mask with a header of four bytes and the key behind it. -/
theorem buildMdh_behindHeader {engine : MimicryEngine} {eph : Key} {mdh : Bytes}
    (htemplate : engine.mask.headerTemplate.length = 4) (hoffset : engine.mask.ephPubOffset = 4)
    (h : engine.buildMdh (some eph) = .ok mdh) : mdh = engine.mask.headerTemplate ++ eph.toList := by
  unfold MimicryEngine.buildMdh at h
  simp only [hoffset] at h
  split_ifs at h with hlen
  · rw [hlen] at h
    have hoff : (4 : UInt16).toNat = 4 := rfl
    rw [hoff] at h
    have hpad : (engine.mask.headerTemplate ++
        List.replicate (4 + 32 - engine.mask.headerTemplate.length) (0 : UInt8)).length = 36 := by
      rw [List.length_append, List.length_replicate, htemplate]
    rw [List.drop_of_length_le (by rw [hpad]), List.append_nil,
      List.take_left' htemplate] at h
    exact (Except.ok.inj h).symm

end

/-! ## Agreement -/

section

variable (P : Primitives) (rng : Randomness) (server client : KeyPair) (psk : Option Key)
  (s : Session) (kotlin : AivpnCrypto)

/-- The server finds the client's public key in the init datagrams: those of
`build_zero_mdh_packet`, of the command line client with the key behind a header of four bytes, and of
`AivpnCrypto.kt`. -/
def OffersKey : Prop :=
  (∀ tw r keys counter inner, Gateway.handshakeEphPub P server.publicKeyBytes
    (buildZeroMdhPacket P tw r keys counter inner
      (some (obfuscateClientEphPub P client server.publicKeyBytes))).1 = client.publicKeyBytes) ∧
  (∀ (engine : MimicryEngine) tw r keys counter inner d counter',
    engine.mask.headerTemplate.length = 4 → engine.mask.ephPubOffset = 4 →
    engine.buildPacket P tw r inner keys counter
      (some (obfuscateClientEphPub P client server.publicKeyBytes)) = .ok (d, counter') →
    Gateway.handshakeEphPub P server.publicKeyBytes d = client.publicKeyBytes) ∧
  ∀ tw r, Gateway.handshakeEphPub P server.publicKeyBytes (kotlin.buildInitPacket P tw r).1 =
    client.publicKeyBytes

/-- The first keys of the clients are those of the session. -/
def FirstKeysAgree : Prop :=
  (∀ (c : AivpnClient) (env : ClientEnv), c.keypair = client →
    c.config.serverPublicKey = server.publicKeyBytes → c.config.presharedKey = psk →
    env.sendOk = true → (AivpnClient.connect P env c).2.sessionKeys = some s.keys) ∧
  (∀ env, (AndroidTunnel.begin P env
    (AndroidTunnel.new server.publicKeyBytes psk client)).keys = s.keys) ∧
  kotlin.sessionKey = s.keys.sessionKey ∧ kotlin.tagSecret = s.keys.tagSecret

/-- A client that takes a ServerHello of the session with its first keys has the ratcheted keys of
the session afterwards. -/
def RatchetAgrees : Prop :=
  ∃ next, s.ratchetedKeys = some next ∧ ∀ d t n, SendsHello P rng s d t n →
    SoundAead P s.keys.sessionKey →
    (∀ (c : AivpnClient) (env : ClientEnv), c.keypair = client → c.sessionKeys = some s.keys →
      c.mdhLen = 4 → Ready P c.recvWindow env.timeWindow s.keys.tagSecret n t →
      (∀ key signature, s.serverEphPub = some key → s.serverHelloSignature = some signature →
        AivpnClient.verifyHello P c key signature = .ok ()) →
      (AivpnClient.receiveAndWritePacketWithMdh P env d c).1 = .ok () ∧
        (AivpnClient.receiveAndWritePacketWithMdh P env d c).2.sessionKeys = some next) ∧
    (∀ w tw sendCounter, Ready P w tw s.keys.tagSecret n t →
      processServerHelloWithMdhLen P tw d s.keys client w sendCounter 4 =
        (.ok (), next, RecvWindow.new, 0)) ∧
    ∀ (k : AivpnCrypto) (tw : Nat), k.clientPrivate = kotlin.clientPrivate →
      k.clientPublic = kotlin.clientPublic → k.sessionKey = kotlin.sessionKey →
      k.tagSecret = kotlin.tagSecret → k.isCounterNew n = true →
      (k.tagSecret, n, t) ∈ k.searched tw → P.CollisionFree (k.searched tw) →
      (AivpnCrypto.processServerHello P tw d k).1 = true ∧
        (AivpnCrypto.processServerHello P tw d k).2.sessionKey = next.sessionKey ∧
        (AivpnCrypto.processServerHello P tw d k).2.tagSecret = next.tagSecret

end

section

variable {P : Primitives} {rng : Randomness} {server client serverEph : KeyPair}
  {psk : Option Key} {s : Session} {kotlin : AivpnCrypto}

theorem offersKey (hpub : kotlin.clientPublic = client.publicKeyBytes)
    (hstatic : kotlin.serverStaticPub = server.publicKeyBytes) :
    OffersKey P server client kotlin := by
  have hobf := P.obfuscateEphPub_obfuscateEphPub client.publicKeyBytes server.publicKeyBytes
  refine ⟨?_, ?_, ?_⟩
  · intro tw r keys counter inner
    exact (handshakeEphPub_append _ ⟨defaultZeroMdh, rfl⟩ _ _ _).trans hobf
  · intro engine tw r keys counter inner d counter' htemplate hoffset hbuild
    obtain ⟨-, mdh, padded, hprepare, rfl⟩ := MimicryEngine.buildPacket_ok hbuild
    have hmdh := buildMdh_behindHeader htemplate hoffset (MimicryEngine.preparePacket_ok hprepare).1
    unfold assemble
    rw [hmdh]
    exact (handshakeEphPub_append _ ⟨_, htemplate⟩ _ _ _).trans hobf
  · intro tw r
    have hkotlin : AivpnCrypto.obfuscatedEphPub P kotlin =
        P.obfuscateEphPub client.publicKeyBytes server.publicKeyBytes := by
      unfold AivpnCrypto.obfuscatedEphPub Primitives.obfuscateEphPub
      rw [hpub, hstatic]
    have hinit : ∀ (tag : Tag) (obfuscated : Key) (rest : Bytes),
        Gateway.handshakeEphPub P server.publicKeyBytes
          (tag.toList ++ [0, 0, 0, 0] ++ obfuscated.toList ++ rest) =
          P.obfuscateEphPub obfuscated server.publicKeyBytes := by
      intro tag obfuscated rest
      rw [List.append_assoc tag.toList]
      exact handshakeEphPub_append tag ⟨[0, 0, 0, 0], rfl⟩ obfuscated _ rest
    exact (hinit _ _ _).trans (hkotlin ▸ hobf)

theorem firstKeysAgree (hdh1 : DhAgrees P client server)
    (hkeys : s.keys = P.deriveSessionKeys
      (P.x25519 client.privateKeyBytes server.publicKeyBytes) psk client.publicKeyBytes)
    (hsession : kotlin.sessionKey = s.keys.sessionKey) (htag : kotlin.tagSecret = s.keys.tagSecret) :
    FirstKeysAgree P server client psk s kotlin := by
  have hshared := hdh1.computeShared.1
  refine ⟨?_, ?_, hsession, htag⟩
  · rintro c env rfl hserver hpsk hsend
    unfold AivpnClient.connect
    rw [bind_of_ok (modify_apply _ _), if_pos hsend, bind_of_ok (modify_apply _ _),
      bind_of_ok (gets_apply _ _)]
    simp only [id_eq, hserver, hpsk, hshared]
    rw [bind_of_ok (ofExcept_ok _ _), hkeys]
    rfl
  · intro env
    unfold AndroidTunnel.begin
    simp only [AndroidTunnel.new, hshared, AndroidTunnel.sendHandshake]
    rw [(AndroidTunnel.transmit_cases _ _ _).2.2.1, hkeys]
    rfl

theorem ratchetAgrees (hdh2 : DhAgrees P client serverEph) (signature : ByteArr 64)
    (heph : s.serverEphPub = some serverEph.publicKeyBytes)
    (hsig : s.serverHelloSignature = some signature)
    (hnext : s.ratchetedKeys = some (P.deriveSessionKeys
      (P.x25519 client.privateKeyBytes serverEph.publicKeyBytes) (some s.keys.sessionKey)
      client.publicKeyBytes))
    (hpriv : kotlin.clientPrivate = client.privateKeyBytes)
    (hpub : kotlin.clientPublic = client.publicKeyBytes)
    (hsession : kotlin.sessionKey = s.keys.sessionKey) (htag : kotlin.tagSecret = s.keys.tagSecret) :
    RatchetAgrees P rng client s kotlin := by
  have hshared := hdh2.computeShared.1
  refine ⟨_, hnext, fun d t n hsends haead => ?_⟩
  obtain ⟨padding, hpad, hd⟩ := hsends.bytes heph hsig
  refine ⟨?_, ?_, ?_⟩
  · rintro c env rfl hkeys hmdh hready hverify
    exact receive_hello haead hkeys hmdh hready hpad hd hshared (hverify _ _ heph hsig)
  · intro w tw sendCounter hready
    exact processServerHelloWithMdhLen_hello haead hready hpad hd hshared sendCounter
  · intro k tw hkpriv hkpub hksession hktag hnew hreach htags
    have hfind := AivpnCrypto.findCounter_eq_some htags subset_rfl hnew hreach
    rw [hktag, htag] at hfind
    rw [hpriv] at hkpriv
    rw [hpub] at hkpub
    have hprocess := AivpnCrypto.processServerHello_of_found (hksession.trans hsession) hfind
      haead.opens 0 serverEph.publicKeyBytes signature hpad (hkpriv ▸ hdh2.nonzero)
    rw [hkpriv, hkpub, ← hd] at hprocess
    exact hprocess

end

/-- Agreement on the first ServerHello. The server's session for a client's key exists, the server
reads that key from the init, and the first keys as well as the keys behind one ServerHello of the
session are the same in the server and in every client. -/
theorem firstServerHello_agreement (P : Primitives) (rng : Randomness) {server client serverEph :
    KeyPair} (clientRandom : Key) (hclient : client = P.fromPrivateKey clientRandom)
    (psk : Option Key) (m : SessionManager) (env : Env) (addr : SocketAddr) (ip : Option Ipv4Addr)
    (hserver : m.serverKeys = server)
    (heph : serverEph = P.fromPrivateKey (rng.serverEph m.nextId)) (hroom : m.HasRoom addr)
    (hpub : client.publicKeyBytes ≠ ByteArr.replicate 32 0) (hdh1 : DhAgrees P client server)
    (hdh2 : DhAgrees P client serverEph) :
    ∃ m' kotlin, m.createSession P rng env addr client.publicKeyBytes psk ip = (.ok m.nextId, m') ∧
      AivpnCrypto.init P server.publicKeyBytes psk clientRandom = some kotlin ∧
      OffersKey P server client kotlin ∧
      FirstKeysAgree P server client psk (m'.heap m.nextId) kotlin ∧
      RatchetAgrees P rng client (m'.heap m.nextId) kotlin := by
  subst hclient heph hserver
  obtain ⟨kotlin, hinit, hstatic, hpriv, hkpub, hsession, htag⟩ :=
    AivpnCrypto.init_eq psk hpub hdh1.nonzero
  have hcreate : ∃ m', m.createSession P rng env addr
      (P.fromPrivateKey clientRandom).publicKeyBytes psk ip = (.ok m.nextId, m') := by
    rcases h : m.createSession P rng env addr
      (P.fromPrivateKey clientRandom).publicKeyBytes psk ip with ⟨r, m'⟩
    cases r with
    | error e =>
        exact absurd h (SessionManager.createSession_ne_error hroom hdh1.computeShared.2
          hdh2.computeShared.2)
    | ok sid =>
        obtain ⟨-, -, rfl, -⟩ := SessionManager.createSession_ok h
        exact ⟨m', rfl⟩
  obtain ⟨m', hnew⟩ := hcreate
  -- the session: its keys come from DH1 and DH2 with the server's private keys
  obtain ⟨-, -, -, dh1, dh2, hdh1', hdh2', hm'⟩ := SessionManager.createSession_ok hnew
  obtain rfl := Except.ok.inj (hdh1.computeShared.2.symm.trans hdh1')
  obtain rfl := Except.ok.inj (hdh2.computeShared.2.symm.trans hdh2')
  have hheap : ∃ vpnIp, m'.heap m.nextId = { m.initialSession P env addr
      (P.fromPrivateKey clientRandom).publicKeyBytes (P.deriveSessionKeys (P.x25519
        (P.fromPrivateKey clientRandom).privateKeyBytes m.serverKeys.publicKeyBytes) psk
        (P.fromPrivateKey clientRandom).publicKeyBytes)
      (P.fromPrivateKey (rng.serverEph m.nextId)) (P.x25519
        (P.fromPrivateKey clientRandom).privateKeyBytes
        (P.fromPrivateKey (rng.serverEph m.nextId)).publicKeyBytes) with vpnIp := vpnIp } := by
    rw [hm']
    exact ⟨_, Function.update_self _ _ _⟩
  obtain ⟨vpnIp, hheap⟩ := hheap
  refine ⟨m', kotlin, hnew, hinit, offersKey hkpub hstatic, ?_, ?_⟩
  · refine firstKeysAgree hdh1 ?_ ?_ ?_
    · rw [hheap]
      rfl
    · rw [hheap]
      exact hsession
    · rw [hheap]
      exact htag
  · refine ratchetAgrees hdh2 (P.sign m.signingKey
      ((P.fromPrivateKey (rng.serverEph m.nextId)).publicKeyBytes.toList ++
        (P.fromPrivateKey clientRandom).publicKeyBytes.toList)) ?_ ?_ ?_ hpriv hkpub ?_ ?_
    · rw [hheap]
      rfl
    · rw [hheap]
      rfl
    · rw [hheap]
      rfl
    · rw [hheap]
      exact hsession
    · rw [hheap]
      exact htag

/-! ## A handshake -/

/-- The server behind the creation of a session for the sample client. -/
def sampleOffer : SessionManager :=
  ((SessionManager.new sampleServerKeys default).createSession samplePrimitives sampleRandomness
    (sampleEnv 100) sampleAddr sampleClientKeys.publicKeyBytes none none).2

/-- The ServerHello of that session. -/
def sampleOfferHello : Bytes :=
  (sampleOffer.buildPacket samplePrimitives sampleRandomness (sampleEnv 100) 0
    ((InnerHeader.mk .control 0).encode ++ (ControlPayload.serverHello
      (samplePrimitives.fromPrivateKey (sampleRandomness.serverEph 0)).publicKeyBytes
      default).encode)).1

theorem sampleOffer_sendsHello :
    SendsHello samplePrimitives sampleRandomness (sampleOffer.heap 0) sampleOfferHello 100 0 := by
  refine ⟨⟨sampleOffer, none, fun _ => none, []⟩, sampleEnv 100, 0, sampleAddr, ?_, rfl, rfl, rfl,
    rfl, ?_⟩
  · decide +kernel
  · decide +kernel

/-- A new receive window is ready for the first counters. -/
theorem sample_ready (secret : Key) {n : Nat} (hn : n < 4096) :
    Ready samplePrimitives RecvWindow.new 100 secret n 100 := by
  have hfree : samplePrimitives.CollisionFree (smallTriples [secret]) :=
    samplePrimitives_collisionFree (by simp)
  refine ⟨rfl, ⟨rfl, Nat.zero_le n, hn, List.mem_cons_self⟩, hfree.mono ?_⟩
  exact RecvWindow.searched_subset_smallTriples (by simp) (by decide) (by decide) (by decide)

/-- The Rust tunnels and the Kotlin client take the ServerHello of the sample and have the ratcheted
keys of the session then. -/
theorem sampleOffer_agreement :
    ∃ next kotlin, (sampleOffer.heap 0).ratchetedKeys = some next ∧
      AivpnCrypto.init samplePrimitives sampleServerKeys.publicKeyBytes none
        (ByteArr.replicate 32 5) = some kotlin ∧
      processServerHelloWithMdhLen samplePrimitives 100 sampleOfferHello (sampleOffer.heap 0).keys
        sampleClientKeys RecvWindow.new 1 4 = (.ok (), next, RecvWindow.new, 0) ∧
      (AivpnCrypto.processServerHello samplePrimitives (100 : Nat) sampleOfferHello kotlin).1 =
        true ∧
      (AivpnCrypto.processServerHello samplePrimitives (100 : Nat) sampleOfferHello
        kotlin).2.sessionKey = next.sessionKey := by
  obtain ⟨m', kotlin, hcreate, hinit, -, ⟨-, -, -, htag⟩, next, hnext, hratchet⟩ :=
    firstServerHello_agreement samplePrimitives sampleRandomness (ByteArr.replicate 32 5) rfl none
      (SessionManager.new sampleServerKeys default) (sampleEnv 100) sampleAddr none
      (rfl : (SessionManager.new sampleServerKeys default).serverKeys = sampleServerKeys) rfl
      (by decide) (by decide +kernel) ⟨by decide +kernel, by decide +kernel⟩
      ⟨by decide +kernel, by decide +kernel⟩
  obtain rfl : sampleOffer = m' := congrArg Prod.snd hcreate
  have hinit' : AivpnCrypto.init samplePrimitives sampleServerKeys.publicKeyBytes none
      (ByteArr.replicate 32 5) = some kotlin := hinit
  have htag' : kotlin.tagSecret = (sampleOffer.heap 0).keys.tagSecret := htag
  obtain ⟨-, hprocess, hkotlin⟩ := hratchet sampleOfferHello 100 0 sampleOffer_sendsHello
    (samplePrimitives_soundAead _)
  have hfree : samplePrimitives.CollisionFree
      (smallTriples [(sampleOffer.heap 0).keys.tagSecret]) :=
    samplePrimitives_collisionFree (by simp)
  have hready := sample_ready (sampleOffer.heap 0).keys.tagSecret (n := 0) (by decide)
  -- the Kotlin client has received nothing yet, so that it searches from 0
  have hfresh : kotlin.recvHighest = -1 := by
    have hmap : (AivpnCrypto.init samplePrimitives sampleServerKeys.publicKeyBytes none
        (ByteArr.replicate 32 5)).map AivpnCrypto.recvHighest = some (-1) := by decide +kernel
    rw [hinit'] at hmap
    exact Option.some.inj hmap
  have hcounters : kotlin.searchCounters = List.range' 0 256 := by
    simp only [AivpnCrypto.searchCounters, hfresh]
    rfl
  have hnew : kotlin.isCounterNew (0 : Nat) = true := by
    simp [AivpnCrypto.isCounterNew, hfresh]
  have hreach : (kotlin.tagSecret, 0, 100) ∈ kotlin.searched 100 := by
    refine ⟨rfl, ?_, List.mem_cons_self⟩
    rw [hcounters, List.mem_range'_1]
    simp
  have hsub : kotlin.searched 100 ⊆ smallTriples [(sampleOffer.heap 0).keys.tagSecret] := by
    rintro ⟨secret, c, w⟩ ⟨hsecret, hc, hw⟩
    rw [hcounters, List.mem_range'_1] at hc
    simp only [wrappingPred, wrappingAdd, u64Max, List.mem_cons, List.not_mem_nil, or_false] at *
    exact ⟨by simp only [hsecret, htag', List.mem_singleton], by simp only; omega,
      by simp only; omega⟩
  obtain ⟨htrue, hkey, -⟩ := hkotlin kotlin 100 rfl rfl rfl rfl hnew hreach (hfree.mono hsub)
  exact ⟨next, kotlin, hnext, hinit, hprocess _ _ _ hready, htrue, hkey⟩

end Aivpn
