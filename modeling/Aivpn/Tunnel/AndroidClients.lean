import Aivpn.Client.KotlinReceive
import Aivpn.Tunnel.Handshake

/-!
# The two Android clients

`AivpnCrypto.kt` and the Rust tunnel of `android_tunnel.rs` implement the client of one protocol. They
keep different state: the Kotlin object has one sequence number and one counter for the connection,
while the tunnel hands its own to the encryptor of the upload task. For the same calls with the same
random choices both send the same bytes in every run, the init and its retransmissions, the data
packets and the keepalives, before and behind the ServerHello (`kotlin_sends_as_rust`).
-/

set_option autoImplicit false

namespace Aivpn

open Aivpn.Lib

namespace AivpnCrypto

variable (P : Primitives)

/-- `buildKeepalivePacket`. -/
def buildKeepalivePacket (timeWindow : Int) (r : PacketRandomness) (c : AivpnCrypto) :
    Bytes × AivpnCrypto :=
  let innerPayload := buildInnerHeader 0x02 c.sendSeq ++ [0x03]
  buildPacket P timeWindow r innerPayload none { c with sendSeq := c.sendSeq + 1 }

/-- `encryptDataPacket`. -/
def encryptDataPacket (timeWindow : Int) (r : PacketRandomness) (ipPacket : Bytes)
    (c : AivpnCrypto) : Bytes × AivpnCrypto :=
  let innerPayload := buildInnerHeader 0x01 c.sendSeq ++ ipPacket
  buildPacket P timeWindow r innerPayload none { c with sendSeq := c.sendSeq + 1 }

end AivpnCrypto

/-- What an Android client is asked to do. -/
inductive AndroidOp where
  | init
  | serverHello (packet : Bytes)
  | data (ipPacket : Bytes)
  | keepalive
  | receive (packet : Bytes)
deriving DecidableEq, Repr

/-- The Kotlin client, and the datagrams that the socket took from it, newest first. -/
structure KotlinTunnel where
  crypto : AivpnCrypto
  sent : List Bytes

namespace KotlinTunnel

/-- A datagram on its way, when the socket takes it. -/
def transmit (env : ClientEnv) (built : Bytes × AivpnCrypto) (k : KotlinTunnel) : KotlinTunnel :=
  ⟨built.2, if env.sendOk then built.1 :: k.sent else k.sent⟩

/-- One call of the object. -/
def step (P : Primitives) (k : KotlinTunnel) (e : ClientEnv × AndroidOp) : KotlinTunnel :=
  match e.2 with
  | .init => k.transmit e.1 (k.crypto.buildInitPacket P e.1.timeWindow e.1.draw)
  | .serverHello packet =>
      { k with crypto := (k.crypto.processServerHello P e.1.timeWindow packet).2 }
  | .data ipPacket =>
      k.transmit e.1 (k.crypto.encryptDataPacket P e.1.timeWindow e.1.draw ipPacket)
  | .keepalive => k.transmit e.1 (k.crypto.buildKeepalivePacket P e.1.timeWindow e.1.draw)
  | .receive packet =>
      match k.crypto.decryptDataPacket P e.1.timeWindow packet with
      | some (_, crypto) => { k with crypto := crypto }
      | none => k

end KotlinTunnel

namespace AndroidTunnel

/-- The event of the tunnel for a call: the first init opens it. -/
def opEvent (t : AndroidTunnel) : AndroidOp → Event
  | .init => if t.stage = .start then .begin else .retry
  | .serverHello packet => .receive packet
  | .data ipPacket => .data ipPacket
  | .keepalive => .keepalive
  | .receive packet => .receive packet

/-- One call of the tunnel. -/
def opStep (P : Primitives) (t : AndroidTunnel) (e : ClientEnv × AndroidOp) : AndroidTunnel :=
  t.step P (e.1, t.opEvent e.2)

/-- A ServerHello of the server for the session of the tunnel's init, with a counter below the 256
that the Kotlin client searches. -/
def HelloFor (P : Primitives) (rng : Randomness) (t : AndroidTunnel) (env : ClientEnv)
    (packet : Bytes) : Prop :=
  ∃ s w n key, SendsHello P rng s packet w n ∧ s.keys = t.keys ∧ s.serverEphPub = some key ∧
    s.serverHelloSignature ≠ none ∧ n < 256 ∧
    w ∈ [env.timeWindow, wrappingPred env.timeWindow, wrappingAdd env.timeWindow 1] ∧
    P.x25519 t.keypair.privateKeyBytes key ≠ ByteArr.replicate 32 0 ∧
    SoundAead P t.keys.sessionKey ∧
    P.CollisionFree (RecvWindow.new.searched env.timeWindow t.keys.tagSecret)

/-- The order of the calls of one connection: an init and its retransmissions, which the socket takes,
the ServerHello, and what follows. -/
def Due (P : Primitives) (rng : Randomness) (t : AndroidTunnel) (e : ClientEnv × AndroidOp) : Prop :=
  match t.stage, e.2 with
  | .start, .init => e.1.sendOk = true
  | .handshake, .init => e.1.sendOk = true
  | .handshake, .serverHello packet => t.HelloFor P rng e.1 packet
  | .forwarding, .data _ => True
  | .forwarding, .keepalive => True
  | .forwarding, .receive _ => True
  | _, _ => False

end AndroidTunnel

/-! ## One packet -/

namespace AivpnCrypto

variable {P : Primitives} {c : AivpnCrypto} {keys : SessionKeys} {counter : Nat} {seq : UInt16}

/-- The object sends with the keys, the counter and the sequence number. Its own counters are not
reduced, for only their low bits are written. -/
structure SendsAs (c : AivpnCrypto) (keys : SessionKeys) (counter : Nat) (seq : UInt16) : Prop where
  keyed : c.KeyedBy keys
  counter : c.sendCounter % 2 ^ 64 = counter
  seq : c.sendSeq % 2 ^ 16 = seq.toNat

theorem longBytes_of_mod {x : Int} {n : Nat} (h : x % 2 ^ 64 = n) : longBytes x = leBytes 8 n := by
  unfold longBytes
  rw [h, Int.toNat_natCast]

theorem buildInnerHeader_eq {x : Int} (h : x % 2 ^ 16 = seq.toNat) {innerType : InnerType}
    {b : UInt8} (hb : u16Bytes innerType.toU16 = [b, 0]) (payload : Bytes) :
    buildInnerHeader b x ++ payload = buildInnerPacket innerType seq payload := by
  have hlow : (x % 256).toNat = seq.toNat % 256 := by omega
  have hhigh : (x / 256 % 256).toNat = seq.toNat / 256 % 256 := by omega
  unfold buildInnerPacket buildInnerHeader
  rw [hb, hlow, hhigh]
  rfl

/-- One packet of the object is the packet of `build_zero_mdh_packet`. -/
theorem SendsAs.buildPacket_eq (h : c.SendsAs keys counter seq) (tw : Nat) (r : PacketRandomness)
    (inner : Bytes) (ephPub : Option Key) :
    (c.buildPacket P tw r inner ephPub).1 =
      (buildZeroMdhPacket P tw r keys counter inner ephPub).1 := by
  have hnonce : counterToNonce c.sendCounter = Aivpn.counterToNonce counter := by
    apply ByteArr.ext
    show longBytes c.sendCounter ++ _ = leBytes 8 counter ++ _
    rw [longBytes_of_mod h.counter]
  have htag : generateTag P c.tagSecret c.sendCounter tw =
      P.generateResonanceTag keys.tagSecret counter tw := by
    apply ByteArr.ext
    show (P.keyedHash c.tagSecret (longBytes c.sendCounter ++ longBytes tw)).toList.take 8 =
      (P.keyedHash keys.tagSecret (leBytes 8 counter ++ leBytes 8 tw)).toList.take 8
    rw [longBytes_of_mod h.counter, longBytes_natCast, h.keyed.2]
  have hpadded : [UInt8.ofNat ((8 + r.draw % 16) % 256), UInt8.ofNat ((8 + r.draw % 16) / 256 % 256)]
      ++ inner ++ r.fill (8 + r.draw % 16) = zeroMdhPlaintext r inner := by
    unfold zeroMdhPlaintext padPlaintext
    rw [PacketRandomness.length_fill]
    rfl
  unfold AivpnCrypto.buildPacket buildZeroMdhPacket assemble Primitives.encryptPayload
  simp only
  rw [hnonce, htag, hpadded, h.keyed.1]
  cases ephPub with
  | none => rw [List.append_nil]; rfl
  | some eph => simp only [withEphPub, defaultZeroMdh, List.append_assoc]

/-- The object behind one packet. -/
theorem SendsAs.next (h : c.SendsAs keys counter seq) :
    ({ c with sendSeq := c.sendSeq + 1, sendCounter := c.sendCounter + 1 } : AivpnCrypto).SendsAs
      keys (wrappingAdd counter 1) (seq + 1) where
  keyed := h.keyed
  counter := by
    have hcounter := h.counter
    show (c.sendCounter + 1) % 2 ^ 64 = (wrappingAdd counter 1 : Nat)
    unfold wrappingAdd
    omega
  seq := by
    have hseq := h.seq
    show (c.sendSeq + 1) % 2 ^ 16 = ((seq + 1).toNat : Int)
    rw [UInt16.toNat_add, UInt16.toNat_one]
    omega

/-- A packet with a new sequence number. -/
theorem SendsAs.send (h : c.SendsAs keys counter seq) (tw : Nat) (r : PacketRandomness)
    {innerType : InnerType} {b : UInt8} (hb : u16Bytes innerType.toU16 = [b, 0]) (payload : Bytes)
    (ephPub : Option Key) :
    buildPacket P tw r (buildInnerHeader b c.sendSeq ++ payload) ephPub
        { c with sendSeq := c.sendSeq + 1 } =
      ((buildZeroMdhPacket P tw r keys counter (buildInnerPacket innerType seq payload) ephPub).1,
        { c with sendSeq := c.sendSeq + 1, sendCounter := c.sendCounter + 1 }) := by
  have hsends : ({ c with sendSeq := c.sendSeq + 1 } : AivpnCrypto).SendsAs keys counter (seq + 1) :=
    ⟨h.keyed, h.counter, h.next.seq⟩
  rw [buildInnerHeader_eq h.seq hb]
  exact Prod.ext (hsends.buildPacket_eq tw r _ ephPub) rfl

/-- What a ServerHello that is taken leaves as it was, and the counters it resets. -/
theorem ratchetOnServerHello_some {tw : Int} {packet : Bytes} {c c' : AivpnCrypto}
    (h : ratchetOnServerHello P tw packet c = some c') :
    c'.serverStaticPub = c.serverStaticPub ∧ c'.clientPrivate = c.clientPrivate ∧
      c'.clientPublic = c.clientPublic ∧ c'.sendSeq = c.sendSeq ∧ c'.sendCounter = 0 := by
  unfold ratchetOnServerHello at h
  simp only [Option.bind_eq_bind, Option.bind_eq_some_iff, Option.pure_def, Option.some.injEq] at h
  obtain ⟨_, -, _, -, _, -, _, -, _, -, _, -, rfl⟩ := h
  exact ⟨rfl, rfl, rfl, rfl, rfl⟩

theorem markCounter_fields (n : Int) (c : AivpnCrypto) :
    ∃ highest window, c.markCounter n = { c with recvHighest := highest, recvWindow := window } := by
  unfold markCounter
  simp only
  split_ifs
  · exact ⟨_, _, rfl⟩
  · exact ⟨_, _, rfl⟩
  · exact ⟨c.recvHighest, _, rfl⟩
  · exact ⟨c.recvHighest, c.recvWindow, rfl⟩

theorem readPlaintext_fields {plaintext : Bytes} {n : Int} {c c' : AivpnCrypto}
    {payload : Option Bytes} (h : readPlaintext plaintext n c = some (payload, c')) :
    c' = c ∨ c' = c.markCounter n := by
  unfold readPlaintext at h
  simp only [Option.bind_eq_bind, Option.pure_def] at h
  split_ifs at h with hshort hpad
  · exact Or.inl (Prod.mk.inj (Option.some.inj h)).2.symm
  · exact Or.inl (Prod.mk.inj (Option.some.inj h)).2.symm
  · obtain ⟨inner, -, hinner⟩ := Option.bind_eq_some_iff.1 h
    split_ifs at hinner with hheader htype
    · exact Or.inl (Prod.mk.inj (Option.some.inj hinner)).2.symm
    · obtain ⟨_, -, hdata⟩ := Option.bind_eq_some_iff.1 hinner
      exact Or.inr (Prod.mk.inj (Option.some.inj hdata)).2.symm
    · exact Or.inr (Prod.mk.inj (Option.some.inj hinner)).2.symm

/-- Receiving moves nothing but the window. -/
theorem decryptDataPacket_fields {tw : Int} {packet : Bytes} {c c' : AivpnCrypto}
    {payload : Option Bytes} (h : decryptDataPacket P tw packet c = some (payload, c')) :
    ∃ highest window, c' = { c with recvHighest := highest, recvWindow := window } := by
  have hsame : c' = c ∨ ∃ n : Int, c' = c.markCounter n := by
    unfold decryptDataPacket at h
    simp only [Option.bind_eq_bind, Option.pure_def] at h
    split_ifs at h with hshort
    · exact Or.inl (Prod.mk.inj (Option.some.inj h)).2.symm
    · obtain ⟨tag, -, hfound⟩ := Option.bind_eq_some_iff.1 h
      split at hfound
      · exact Or.inl (Prod.mk.inj (Option.some.inj hfound)).2.symm
      · obtain ⟨ciphertext, -, hopened⟩ := Option.bind_eq_some_iff.1 hfound
        split at hopened
        · exact Or.inl (Prod.mk.inj (Option.some.inj hopened)).2.symm
        · exact (readPlaintext_fields hopened).imp_right fun hmark => ⟨_, hmark⟩
  rcases hsame with rfl | ⟨n, rfl⟩
  · exact ⟨c'.recvHighest, c'.recvWindow, rfl⟩
  · exact markCounter_fields n c

end AivpnCrypto

/-! ## Agreement -/

section

variable {P : Primitives} {rng : Randomness} {k : KotlinTunnel} {t : AndroidTunnel}

/-- The Kotlin client and the tunnel at the same place of the same connection. -/
structure Agree (P : Primitives) (k : KotlinTunnel) (t : AndroidTunnel) : Prop where
  sent : k.sent = t.sent
  server : k.crypto.serverStaticPub = t.serverKey
  clientPrivate : k.crypto.clientPrivate = t.keypair.privateKeyBytes
  clientPublic : k.crypto.clientPublic = t.keypair.publicKeyBytes
  start : t.stage = .start → k.crypto.Fresh ∧ ∃ dh, P.computeShared t.keypair t.serverKey = .ok dh ∧
    k.crypto.SendsAs (KdfInput.keys P ⟨dh, t.psk, t.keypair.publicKeyBytes⟩) t.sendCounter t.sendSeq
  handshake : t.stage = .handshake →
    k.crypto.Fresh ∧ k.crypto.SendsAs t.keys t.sendCounter t.sendSeq
  forwarding : t.stage = .forwarding → ∃ enc, t.encryptor = some enc ∧
    k.crypto.SendsAs enc.keys enc.counter enc.seq

/-- The inits of both are the same datagram. -/
theorem Agree.buildInitPacket (h : Agree P k t) {keys : SessionKeys}
    (hsends : k.crypto.SendsAs keys t.sendCounter t.sendSeq) (tw : Nat) (r : PacketRandomness) :
    k.crypto.buildInitPacket P tw r = ((buildZeroMdhPacket P tw r keys t.sendCounter
        (buildInnerPacket .control t.sendSeq ControlPayload.keepalive.encode)
        (some (obfuscateClientEphPub P t.keypair t.serverKey))).1,
      { k.crypto with sendSeq := k.crypto.sendSeq + 1, sendCounter := k.crypto.sendCounter + 1 }) := by
  have hobf : AivpnCrypto.obfuscatedEphPub P k.crypto =
      obfuscateClientEphPub P t.keypair t.serverKey := by
    unfold AivpnCrypto.obfuscatedEphPub obfuscateClientEphPub Primitives.obfuscateEphPub
    rw [h.server, h.clientPublic]
  have hcontrol : u16Bytes InnerType.control.toU16 = [2, 0] := rfl
  have hpacket := hsends.send (P := P) tw r hcontrol
    ControlPayload.keepalive.encode (some (obfuscateClientEphPub P t.keypair t.serverKey))
  rw [← hpacket, ← hobf]
  rfl

/-- An init that the socket takes. -/
theorem Agree.sendHandshake (h : Agree P k t) (hstage : t.stage = .handshake) {env : ClientEnv}
    (hok : env.sendOk = true) :
    Agree P (k.transmit env (k.crypto.buildInitPacket P env.timeWindow env.draw))
      (AndroidTunnel.sendHandshake P env t) := by
  obtain ⟨hfresh, hsends⟩ := h.handshake hstage
  rw [h.buildInitPacket hsends]
  unfold KotlinTunnel.transmit AndroidTunnel.sendHandshake AndroidTunnel.transmit
  simp only [if_pos hok]
  constructor
  · exact congrArg _ h.sent
  · exact h.server
  · exact h.clientPrivate
  · exact h.clientPublic
  · intro hstart
    cases hstart
  · exact fun _ => ⟨hfresh, hsends.next⟩
  · intro hforwarding
    cases hforwarding

/-- The first init: the tunnel derives the keys that the constructor of the object has derived. -/
theorem Agree.begin (h : Agree P k t) (hstage : t.stage = .start) {env : ClientEnv}
    (hok : env.sendOk = true) :
    Agree P (k.transmit env (k.crypto.buildInitPacket P env.timeWindow env.draw))
      (AndroidTunnel.begin P env t) := by
  obtain ⟨hfresh, dh, hdh, hsends⟩ := h.start hstage
  have hopened : Agree P k { t with
      keys := KdfInput.keys P ⟨dh, t.psk, t.keypair.publicKeyBytes⟩
      log := t.log.rekey ⟨dh, t.psk, t.keypair.publicKeyBytes⟩
      stage := .handshake } := by
    refine ⟨h.sent, h.server, h.clientPrivate, h.clientPublic, ?_, fun _ => ⟨hfresh, hsends⟩, ?_⟩
    · intro hstart
      cases hstart
    · intro hforwarding
      cases hforwarding
  have hbegin := hopened.sendHandshake rfl hok
  unfold AndroidTunnel.begin
  rw [hdh]
  exact hbegin

/-- The Kotlin search from the beginning looks at a part of what the Rust search looks at. -/
theorem searched_subset_of_fresh {c : AivpnCrypto} (hfresh : c.Fresh) (tw : Nat) :
    c.searched tw ⊆ RecvWindow.new.searched tw c.tagSecret := by
  rintro ⟨secret, n, w⟩ ⟨hsecret, hn, hw⟩
  have hreach := (c.mem_searchCounters_iff (by rw [hfresh.1]) n).1 hn
  have hlow := hreach.1 (by rw [hfresh.1]; decide)
  exact ⟨hsecret, Nat.zero_le n, Nat.lt_of_lt_of_le hlow (by decide), hw⟩

/-- The ServerHello. -/
theorem Agree.serverHello (h : Agree P k t) (hstage : t.stage = .handshake) {env : ClientEnv}
    {packet : Bytes} (hhello : t.HelloFor P rng env packet) :
    Agree P { k with crypto := (k.crypto.processServerHello P env.timeWindow packet).2 }
      (AndroidTunnel.receiveHello P env packet t) := by
  obtain ⟨hfresh, hsends⟩ := h.handshake hstage
  obtain ⟨s, w, n, key, hsend, hkeys, heph, hsig, hn, hw, hdh, haead, htags⟩ := hhello
  obtain ⟨signature, hsig⟩ := Option.ne_none_iff_exists'.1 hsig
  obtain ⟨padding, hpad, hd⟩ := hsend.bytes heph hsig
  rw [hkeys] at hd
  -- the tunnel takes it
  have hready : Ready P RecvWindow.new env.timeWindow t.keys.tagSecret n w :=
    ⟨rfl, ⟨rfl, Nat.zero_le n, Nat.lt_of_lt_of_le hn (by decide), hw⟩, htags⟩
  have hshared : P.computeShared t.keypair key = .ok (P.x25519 t.keypair.privateKeyBytes key) :=
    if_neg hdh
  have hrust := processServerHelloWithMdhLen_hello haead hready hpad hd hshared t.sendCounter
  -- the object takes it
  have hreach : (k.crypto.tagSecret, n, w) ∈ k.crypto.searched env.timeWindow := by
    refine ⟨rfl, (k.crypto.mem_searchCounters_iff (by rw [hfresh.1]) n).2 ⟨fun _ => hn, ?_⟩, hw⟩
    rw [hfresh.1]
    exact fun hpos => absurd hpos (by decide)
  have hnew : k.crypto.isCounterNew n = true :=
    (hfresh.holds.isCounterNew_iff n).2 ⟨Set.notMem_empty n, by rw [hfresh.1]; omega⟩
  have hsearched := searched_subset_of_fresh hfresh env.timeWindow
  rw [hsends.keyed.2] at hsearched
  have hfind := AivpnCrypto.findCounter_eq_some htags hsearched hnew hreach
  rw [hsends.keyed.2] at hfind
  obtain ⟨htrue, hsession, htag⟩ := AivpnCrypto.processServerHello_of_found hsends.keyed.1 hfind
    haead.opens 0 key signature hpad (h.clientPrivate ▸ hdh)
  rw [← hd] at htrue hsession htag
  obtain ⟨c', hratchet⟩ : ∃ c', AivpnCrypto.ratchetOnServerHello P env.timeWindow packet k.crypto =
      some c' := by
    unfold AivpnCrypto.processServerHello at htrue
    split at htrue
    · next c' hc' => exact ⟨c', hc'⟩
    · cases htrue
  obtain ⟨hserver, hprivate, hpublic, hseq, hcounter⟩ :=
    AivpnCrypto.ratchetOnServerHello_some hratchet
  have hresult : (k.crypto.processServerHello P env.timeWindow packet).2 = c' := by
    unfold AivpnCrypto.processServerHello
    rw [hratchet]
  rw [hresult] at hsession htag ⊢
  unfold AndroidTunnel.receiveHello
  have hmdh : defaultZeroMdh.length = 4 := rfl
  rw [hmdh, hrust]
  refine ⟨h.sent, hserver.trans h.server, hprivate.trans h.clientPrivate,
    hpublic.trans h.clientPublic, ?_, ?_, fun _ => ⟨_, rfl, ⟨?_, ?_⟩, ?_, ?_⟩⟩
  · intro hstart
    cases hstart
  · intro hhandshake
    cases hhandshake
  · rw [hsession, h.clientPrivate, h.clientPublic]
  · rw [htag, h.clientPrivate, h.clientPublic]
  · rw [hcounter]
    rfl
  · rw [hseq]
    exact hsends.seq

/-- A packet of the upload task. -/
theorem Agree.upload (h : Agree P k t) (hstage : t.stage = .forwarding) (env : ClientEnv)
    {innerType : InnerType} {b : UInt8} (hb : u16Bytes innerType.toU16 = [b, 0]) (payload : Bytes) :
    Agree P (k.transmit env (AivpnCrypto.buildPacket P env.timeWindow env.draw
        (AivpnCrypto.buildInnerHeader b k.crypto.sendSeq ++ payload) none
        { k.crypto with sendSeq := k.crypto.sendSeq + 1 }))
      (AndroidTunnel.encryptUpload P env innerType payload t) := by
  obtain ⟨enc, henc, hsends⟩ := h.forwarding hstage
  rw [hsends.send env.timeWindow env.draw hb payload none]
  unfold KotlinTunnel.transmit AndroidTunnel.encryptUpload AndroidTunnel.transmit
  simp only [henc]
  have hstart : t.stage ≠ .start := by rw [hstage]; decide
  have hhandshake : t.stage ≠ .handshake := by rw [hstage]; decide
  cases hok : env.sendOk with
  | true => exact ⟨congrArg _ h.sent, h.server, h.clientPrivate, h.clientPublic,
      fun h' => absurd h' hstart, fun h' => absurd h' hhandshake, fun _ => ⟨_, rfl, hsends.next⟩⟩
  | false => exact ⟨h.sent, h.server, h.clientPrivate, h.clientPublic,
      fun h' => absurd h' hstart, fun h' => absurd h' hhandshake, fun _ => ⟨_, rfl, hsends.next⟩⟩

/-- The receive loop of the tunnel leaves its sender alone. -/
theorem receive_fields (env : ClientEnv) (packet : Bytes) (t : AndroidTunnel) :
    ∃ recvWin transitionKeys deadline transitionWin, AndroidTunnel.receive P env packet t =
      { t with
        recvWin := recvWin
        transitionRecvKeys := transitionKeys
        transitionRecvDeadline := deadline
        transitionRecvWin := transitionWin } := by
  unfold AndroidTunnel.receive
  simp only
  split
  · exact ⟨_, _, _, _, rfl⟩
  · split
    · exact ⟨_, _, _, _, rfl⟩
    · exact ⟨_, _, _, _, rfl⟩

/-- A received datagram. -/
theorem Agree.receive (h : Agree P k t) (hstage : t.stage = .forwarding) (env : ClientEnv)
    (packet : Bytes) :
    Agree P (k.step P (env, .receive packet)) (AndroidTunnel.receive P env packet t) := by
  obtain ⟨enc, henc, hsends⟩ := h.forwarding hstage
  obtain ⟨recvWin, transitionKeys, deadline, transitionWin, hrust⟩ :=
    receive_fields (P := P) env packet t
  have hstart : t.stage ≠ .start := by rw [hstage]; decide
  have hhandshake : t.stage ≠ .handshake := by rw [hstage]; decide
  have hsame : ∀ highest window, Agree P
      ⟨{ k.crypto with recvHighest := highest, recvWindow := window }, k.sent⟩
      (AndroidTunnel.receive P env packet t) := by
    intro highest window
    rw [hrust]
    exact ⟨h.sent, h.server, h.clientPrivate, h.clientPublic, fun h' => absurd h' hstart,
      fun h' => absurd h' hhandshake, fun _ => ⟨enc, henc, ⟨hsends.keyed, hsends.counter, hsends.seq⟩⟩⟩
  unfold KotlinTunnel.step
  simp only
  split
  · next payload crypto hdecrypt =>
      obtain ⟨highest, window, rfl⟩ := AivpnCrypto.decryptDataPacket_fields hdecrypt
      exact hsame highest window
  · exact hsame k.crypto.recvHighest k.crypto.recvWindow

/-- What a call that is due is, with the step of the tunnel for it. -/
theorem due_cases {e : ClientEnv × AndroidOp} (h : t.Due P rng e) :
    (t.stage = .start ∧ e.2 = .init ∧ e.1.sendOk = true ∧
      t.opStep P e = AndroidTunnel.begin P e.1 t) ∨
    (t.stage = .handshake ∧ e.2 = .init ∧ e.1.sendOk = true ∧
      t.opStep P e = AndroidTunnel.sendHandshake P e.1 t) ∨
    (∃ packet, t.stage = .handshake ∧ e.2 = .serverHello packet ∧ t.HelloFor P rng e.1 packet ∧
      t.opStep P e = AndroidTunnel.receiveHello P e.1 packet t) ∨
    (∃ ipPacket, t.stage = .forwarding ∧ e.2 = .data ipPacket ∧
      t.opStep P e = AndroidTunnel.encryptUpload P e.1 .data ipPacket t) ∨
    (t.stage = .forwarding ∧ e.2 = .keepalive ∧ t.opStep P e =
      AndroidTunnel.encryptUpload P e.1 .control ControlPayload.keepalive.encode t) ∨
    ∃ packet, t.stage = .forwarding ∧ e.2 = .receive packet ∧
      t.opStep P e = AndroidTunnel.receive P e.1 packet t := by
  unfold AndroidTunnel.Due at h
  split at h
  · next hstage hop =>
      exact Or.inl ⟨hstage, hop, h, by simp [AndroidTunnel.opStep, AndroidTunnel.opEvent,
        AndroidTunnel.step, hstage, hop]⟩
  · next hstage hop =>
      exact Or.inr (Or.inl ⟨hstage, hop, h, by simp [AndroidTunnel.opStep, AndroidTunnel.opEvent,
        AndroidTunnel.step, hstage, hop]⟩)
  · next packet hstage hop =>
      exact Or.inr (Or.inr (Or.inl ⟨packet, hstage, hop, h, by simp [AndroidTunnel.opStep,
        AndroidTunnel.opEvent, AndroidTunnel.step, hstage, hop]⟩))
  · next ipPacket hstage hop =>
      exact Or.inr (Or.inr (Or.inr (Or.inl ⟨ipPacket, hstage, hop, by simp [AndroidTunnel.opStep,
        AndroidTunnel.opEvent, AndroidTunnel.step, hstage, hop]⟩)))
  · next hstage hop =>
      exact Or.inr (Or.inr (Or.inr (Or.inr (Or.inl ⟨hstage, hop, by simp [AndroidTunnel.opStep,
        AndroidTunnel.opEvent, AndroidTunnel.step, hstage, hop]⟩))))
  · next packet hstage hop =>
      exact Or.inr (Or.inr (Or.inr (Or.inr (Or.inr ⟨packet, hstage, hop, by
        simp [AndroidTunnel.opStep, AndroidTunnel.opEvent, AndroidTunnel.step, hstage, hop]⟩))))
  · cases h

theorem due_init (hstage : t.stage = .start ∨ t.stage = .handshake) {env : ClientEnv}
    (hok : env.sendOk = true) : t.Due P rng (env, .init) := by
  unfold AndroidTunnel.Due
  rcases hstage with hstage | hstage
  · rw [hstage]
    exact hok
  · rw [hstage]
    exact hok

theorem due_serverHello (hstage : t.stage = .handshake) {env : ClientEnv} {packet : Bytes}
    (hhello : t.HelloFor P rng env packet) : t.Due P rng (env, .serverHello packet) := by
  unfold AndroidTunnel.Due
  rw [hstage]
  exact hhello

theorem due_forwarding (hstage : t.stage = .forwarding) (env : ClientEnv) {op : AndroidOp}
    (hop : ∀ packet, op ≠ .init ∧ op ≠ .serverHello packet) : t.Due P rng (env, op) := by
  unfold AndroidTunnel.Due
  rw [hstage]
  cases op with
  | init => exact absurd rfl (hop []).1
  | serverHello packet => exact absurd rfl (hop packet).2
  | data ipPacket => trivial
  | keepalive => trivial
  | receive packet => trivial

/-- One call keeps the agreement. -/
theorem Agree.step (h : Agree P k t) {e : ClientEnv × AndroidOp} (hdue : t.Due P rng e) :
    Agree P (k.step P e) (t.opStep P e) := by
  have hdata : u16Bytes InnerType.data.toU16 = [1, 0] := rfl
  have hcontrol : u16Bytes InnerType.control.toU16 = [2, 0] := rfl
  obtain ⟨env, op⟩ := e
  rcases due_cases hdue with ⟨hstage, rfl, hok, hrust⟩ | ⟨hstage, rfl, hok, hrust⟩ |
    ⟨packet, hstage, rfl, hhello, hrust⟩ | ⟨ipPacket, hstage, rfl, hrust⟩ | ⟨hstage, rfl, hrust⟩ |
    ⟨packet, hstage, rfl, hrust⟩
  · rw [hrust]
    exact h.begin hstage hok
  · rw [hrust]
    exact h.sendHandshake hstage hok
  · rw [hrust]
    exact h.serverHello hstage hhello
  · rw [hrust]
    exact h.upload hstage env hdata ipPacket
  · rw [hrust]
    exact h.upload hstage env hcontrol ControlPayload.keepalive.encode
  · rw [hrust]
    exact h.receive hstage env packet

theorem Agree.run (h : Agree P k t) {es : List (ClientEnv × AndroidOp)}
    (hes : Along (AndroidTunnel.opStep P) (AndroidTunnel.Due P rng) t es) :
    Agree P (runFrom (KotlinTunnel.step P) k es) (runFrom (AndroidTunnel.opStep P) t es) := by
  induction es generalizing k t with
  | nil => exact h
  | cons e es ih => exact ih (h.step hes.1) hes.2

/-- The constructor leaves all counters at their start. -/
theorem init_counters {serverPub random : Key} {psk : Option Key} {c : AivpnCrypto}
    (h : AivpnCrypto.init P serverPub psk random = some c) :
    c.Fresh ∧ c.sendCounter = 0 ∧ c.sendSeq = 0 := by
  unfold AivpnCrypto.init at h
  simp only [Option.bind_eq_bind, Option.bind_eq_some_iff, Option.pure_def, Option.some.injEq] at h
  obtain ⟨_, -, _, -, rfl⟩ := h
  exact ⟨⟨rfl, rfl⟩, rfl, rfl⟩

end

/-- In every run of one connection the Kotlin client and the Rust tunnel send the same bytes. -/
theorem kotlin_sends_as_rust (P : Primitives) (rng : Randomness) (serverKey : Key)
    (psk : Option Key) (random : Key)
    (hpub : (P.fromPrivateKey random).publicKeyBytes ≠ ByteArr.replicate 32 0)
    (hdh : P.x25519 (P.fromPrivateKey random).privateKeyBytes serverKey ≠ ByteArr.replicate 32 0)
    (es : List (ClientEnv × AndroidOp))
    (hes : Along (AndroidTunnel.opStep P) (AndroidTunnel.Due P rng)
      (AndroidTunnel.new serverKey psk (P.fromPrivateKey random)) es) :
    ∃ crypto, AivpnCrypto.init P serverKey psk random = some crypto ∧
      (runFrom (KotlinTunnel.step P) ⟨crypto, []⟩ es).sent = (runFrom (AndroidTunnel.opStep P)
        (AndroidTunnel.new serverKey psk (P.fromPrivateKey random)) es).sent := by
  obtain ⟨crypto, hinit, hstatic, hprivate, hpublic, hsession, htag⟩ :=
    AivpnCrypto.init_eq psk hpub hdh
  obtain ⟨hfresh, hcounter, hseq⟩ := init_counters hinit
  refine ⟨crypto, hinit, (Agree.run ?_ hes).sent⟩
  refine ⟨rfl, hstatic, hprivate, hpublic, fun _ => ⟨hfresh, _, if_neg hdh, ⟨hsession, htag⟩, ?_, ?_⟩,
    ?_, ?_⟩
  · rw [hcounter]
    rfl
  · rw [hseq]
    rfl
  · intro hhandshake
    cases hhandshake
  · intro hforwarding
    cases hforwarding

/-- A connection with one retransmitted init, a data packet and a keepalive. -/
def sampleOps : List (ClientEnv × AndroidOp) :=
  [(AndroidTunnel.sampleTunnelEnv, .init), (AndroidTunnel.sampleTunnelEnv, .init),
    (AndroidTunnel.sampleTunnelEnv, .serverHello sampleOfferHello),
    (AndroidTunnel.sampleTunnelEnv, .data [0x45]), (AndroidTunnel.sampleTunnelEnv, .keepalive)]

/-- The tunnel behind the first `n` of these calls. -/
def sampleTunnelAt (n : Nat) : AndroidTunnel :=
  runFrom (AndroidTunnel.opStep samplePrimitives)
    (AndroidTunnel.new sampleServerKeys.publicKeyBytes none sampleClientKeys) (sampleOps.take n)

theorem sampleTunnelAt_state :
    (List.range 5).map (fun n => (sampleTunnelAt n).stage) =
      [.start, .handshake, .handshake, .forwarding, .forwarding] ∧
    (sampleTunnelAt 5).sent.length = 4 ∧
    (sampleOffer.heap 0).keys = (sampleTunnelAt 2).keys ∧
    (sampleOffer.heap 0).serverEphPub = some
      (samplePrimitives.fromPrivateKey (sampleRandomness.serverEph 0)).publicKeyBytes ∧
    (sampleOffer.heap 0).serverHelloSignature ≠ none ∧
    samplePrimitives.x25519 (sampleTunnelAt 2).keypair.privateKeyBytes
      (samplePrimitives.fromPrivateKey (sampleRandomness.serverEph 0)).publicKeyBytes ≠
        ByteArr.replicate 32 0 ∧
    sampleClientKeys.publicKeyBytes ≠ ByteArr.replicate 32 0 ∧
    samplePrimitives.x25519 sampleClientKeys.privateKeyBytes sampleServerKeys.publicKeyBytes ≠
      ByteArr.replicate 32 0 := by
  decide +kernel

theorem sampleTunnelAt_helloFor : (sampleTunnelAt 2).HelloFor samplePrimitives sampleRandomness
    AndroidTunnel.sampleTunnelEnv sampleOfferHello := by
  obtain ⟨-, -, hkeys, heph, hsig, hdh2, -, -⟩ := sampleTunnelAt_state
  have hwindow : AndroidTunnel.sampleTunnelEnv.timeWindow = 100 := by decide
  have htags := (sample_ready (sampleTunnelAt 2).keys.tagSecret (n := 0) (by decide)).tags
  refine ⟨_, 100, 0, _, sampleOffer_sendsHello, hkeys, heph, hsig, by decide, ?_, hdh2,
    samplePrimitives_soundAead _, ?_⟩
  · rw [hwindow]
    exact List.mem_cons_self
  · rw [hwindow]
    exact htags

theorem sampleOps_due {P : Primitives} {rng : Randomness} {t : AndroidTunnel}
    (hstages : (List.range 5).map (fun n =>
      (runFrom (AndroidTunnel.opStep P) t (sampleOps.take n)).stage) =
        [.start, .handshake, .handshake, .forwarding, .forwarding])
    (hhello : (runFrom (AndroidTunnel.opStep P) t (sampleOps.take 2)).HelloFor P rng
      AndroidTunnel.sampleTunnelEnv sampleOfferHello) :
    Along (AndroidTunnel.opStep P) (AndroidTunnel.Due P rng) t sampleOps := by
  simp only [List.range_succ, List.range_zero, List.nil_append, List.cons_append, List.map_cons,
    List.map_nil, List.cons.injEq, and_true] at hstages
  obtain ⟨h0, h1, h2, h3, h4⟩ := hstages
  exact ⟨due_init (Or.inl h0) rfl, due_init (Or.inr h1) rfl, due_serverHello h2 hhello,
    due_forwarding h3 _ (by simp), due_forwarding h4 _ (by simp), trivial⟩

/-- The two clients send the same four datagrams in it. -/
theorem sampleOps_same :
    (∃ crypto, AivpnCrypto.init samplePrimitives sampleServerKeys.publicKeyBytes none
        (ByteArr.replicate 32 5) = some crypto ∧
      (runFrom (KotlinTunnel.step samplePrimitives) ⟨crypto, []⟩ sampleOps).sent =
        (sampleTunnelAt 5).sent) ∧
      (sampleTunnelAt 5).sent.length = 4 := by
  obtain ⟨hstages, hcount, -, -, -, -, hpub, hdh1⟩ := sampleTunnelAt_state
  exact ⟨kotlin_sends_as_rust samplePrimitives sampleRandomness sampleServerKeys.publicKeyBytes none
    (ByteArr.replicate 32 5) hpub hdh1 sampleOps (sampleOps_due hstages sampleTunnelAt_helloFor),
    hcount⟩

end Aivpn
