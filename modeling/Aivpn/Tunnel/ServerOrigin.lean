import Aivpn.Tunnel.Origin
import Aivpn.Server.Accounting
import Aivpn.Server.RoundTrip

/-!
# The origin of what the gateway accepts

The other direction of `Origin`. Here the network may hand the gateway anything that opens under no
key of a session with the client's ephemeral key: traffic of other clients, noise, and whatever an
attacker without keys makes up. What the gateway then accepts in a session with the client's
ephemeral key was sealed by the client, with the counter of the datagram as its nonce, and the inner
packet that goes on is the one the client sealed. The exception is again a datagram of the gateway's
own that comes back to it: tags and nonces do not tell the directions apart
(`accepted_origin`, `downlink_reflected`).
-/

set_option autoImplicit false

namespace Aivpn

open Aivpn.Lib

namespace Gateway

variable {P : Primitives} {rng : Randomness} {cfg : GatewayConfig} {serverKeys : KeyPair}
  {env : Env} {packet : Bytes} {addr : SocketAddr} {g g' : Gateway} {t : TagMatch}

/-- The session that a datagram is identified with is live. -/
theorem live_of_identify (h : identify P rng env packet addr g = (.ok t, g')) :
    t.sessionId ∈ g'.sessionManager.sessions := by
  cases hnew : t.isNewSession with
  | false =>
      obtain ⟨m, hfs, rfl⟩ := identify_found P rng env h hnew
      have hmap := (g.sessionManager.findSession_map P env (readArray 8 0 packet) addr.ip).1
      rw [hfs] at hmap
      rw [hmap]
      exact SessionManager.findSession_mem P hfs
  | true =>
      unfold identify at h
      rcases hfs : g.sessionManager.findSession P env (readArray 8 0 packet) addr.ip with ⟨r, m⟩
      rcases r with err | _ | ⟨sid, counter, isRatcheted⟩
      · rw [Action.bind_of_error (managerExcept_of_error hfs)] at h
        cases h
      · rw [Action.bind_of_ok (managerExcept_of_ok hfs)] at h
        exact (handshake_opens P rng ⟨false, default, []⟩ env h).2
      · rw [Action.bind_of_ok (managerExcept_of_ok hfs)] at h
        cases h
        cases hnew

end Gateway

namespace Established

variable {P : Primitives} {rng : Randomness} {serverKeys : KeyPair}

/-- The key that a session decrypts a datagram under is one of the two of its handshake. -/
theorem Fits.payloadKey_eq {e : Established} {s : Session} {used : List (Key × Nonce)}
    {isRatchetedTag : Bool} {key : Key} (h : e.Fits P rng serverKeys s.keyState used)
    (hkey : payloadKey s isRatchetedTag = .ok key) : ∃ r, key = e.key P rng serverKeys r := by
  have hkeys : s.keys = s.keyState.keys := rfl
  have hpending : s.ratchetedKeys = s.keyState.ratchetedKeys := rfl
  unfold payloadKey at hkey
  rw [hkeys, hpending] at hkey
  generalize s.keyState = k at h hkey
  cases h with
  | initial n =>
      cases isRatchetedTag with
      | false =>
          cases hkey
          exact ⟨false, rfl⟩
      | true =>
          cases hkey
          exact ⟨true, rfl⟩
  | ratcheted n k =>
      cases isRatchetedTag with
      | false =>
          cases hkey
          exact ⟨true, rfl⟩
      | true => cases hkey

end Established

namespace Gateway

variable {P : Primitives} {rng : Randomness} {cfg : GatewayConfig} {serverKeys : KeyPair}
  {env : Env} {packet inner : Bytes} {addr : SocketAddr} {g : Gateway} {t : TagMatch}

/-- An accepted datagram opens under a key of its session, with its counter as the nonce. -/
theorem opens_of_receivePacket (cfg : GatewayConfig)
    (hledger : g.sessionManager.Ledger P rng serverKeys)
    (h : (receivePacket P rng env packet addr g).1 = .ok (t, inner)) :
    ∃ s ∈ (handlePacket P rng cfg env packet addr g).2.sessionManager.established,
      s.sessionId = t.sessionId ∧ ∃ r off padded, P.decrypt (s.key P rng serverKeys r)
        (counterToNonce t.counter) (packet.drop off) = some padded ∧
          stripPadding padded = .ok inner := by
  have hlen : ¬ packet.length < tagSize + 2 := by
    intro hshort
    rw [receivePacket_short P rng env hshort addr g] at h
    cases h
  obtain ⟨hid, -⟩ := (receivePacket_cases P rng env hlen rfl).2 t inner h
  rcases hid' : identify P rng env packet addr g with ⟨r, g₁⟩
  rw [hid'] at hid
  obtain rfl : r = .ok t := hid
  have hopening := identify_opening P rng cfg (env, .packet packet addr) hlen addr g
  have hchanges := changes_handlePacket P rng cfg (e := (env, .packet packet addr)) hlen rfl g
  simp only [hid'] at hopening hchanges
  have hledger₁ : g₁.sessionManager.Ledger P rng serverKeys :=
    ChangesOpening.of_change P rng cfg hopening (fun _ _ hm hch => hm.change hch)
      (fun _ _ _ _ hm hopen => hm.opens hopen) hledger
  -- the session has been established, and it stays so in what follows
  obtain ⟨s, hs, hsid⟩ := hledger₁.live _ (live_of_identify hid')
  have hfits := hledger₁.fits s hs
  rw [hsid] at hfits
  refine ⟨s, hchanges.grows.1.established hs, hsid, ?_⟩
  rw [receivePacket_identified hlen hid'] at h
  cases hdec : decryptDatagram P (g₁.session t.sessionId) t packet with
  | error e =>
      rw [hdec] at h
      cases h
  | ok padded =>
      rw [hdec] at h
      have hstrip : stripPadding padded = .ok inner := by
        cases hstrip : stripPadding padded with
        | error e =>
            simp only [hstrip] at h
            cases h
        | ok plaintext =>
            simp only [hstrip] at h
            cases h
            rfl
      unfold decryptDatagram at hdec
      dsimp only at hdec
      split_ifs at hdec
      cases hkey : payloadKey (g₁.session t.sessionId) t.isRatchetedTag with
      | error e =>
          rw [hkey] at hdec
          cases hdec
      | ok key =>
          rw [hkey] at hdec
          obtain ⟨r, rfl⟩ := hfits.payloadKey_eq hkey
          refine ⟨r, payloadOffset (g₁.session t.sessionId) t packet.length, padded, ?_, hstrip⟩
          simp only at hdec
          unfold Primitives.decryptPayload at hdec
          split at hdec
          · next plaintext hopens =>
              cases hdec
              exact hopens
          · cases hdec

end Gateway

theorem KdfDistinct.mono {P : Primitives} {rng : Randomness} {serverKeys : KeyPair}
    {established established' : List Established}
    (h : KdfDistinct P rng serverKeys established') (hsub : established ⊆ established') :
    KdfDistinct P rng serverKeys established :=
  fun e he e' he' => h e (hsub he) e' (hsub he')

namespace Tunnel

/-! ## Sealed datagrams -/

/-- The client has sent the datagram, and it ends with this inner packet of the client, sealed under
this key and nonce. -/
def SealedByClient (P : Primitives) (c : AivpnClient) (key : Key) (nonce : Nonce)
    (inner packet : Bytes) : Prop :=
  packet ∈ c.sent ∧ ClientInner inner ∧ ∃ front padding, padding.length < 65536 ∧
    ⟨key, nonce, padPlaintext inner padding⟩ ∈ c.log.calls ∧
      packet = front ++ P.encrypt key nonce (padPlaintext inner padding)

section

variable (P : Primitives) (rng : Randomness) (cfg : GatewayConfig) (serverKeys : KeyPair)

/-- The same of the gateway, for the session `e`. -/
def SealedByServer (g : Gateway) (e : Established) (key : Key) (nonce : Nonce)
    (inner packet : Bytes) : Prop :=
  (∃ addr, Effect.send e.sessionId packet addr ∈ g.effects) ∧
    e.Sent P rng serverKeys key inner ∧ ∃ front padding, padding.length ≤ 16 ∧
      ⟨e.sessionId, key, nonce, padPlaintext inner padding⟩ ∈ g.sessionManager.encryptCalls ∧
        packet = front ++ P.encrypt key nonce (padPlaintext inner padding)

/-- The datagram opens under no key of a session with this ephemeral key, at no place. -/
def ForeignToSessions (g : Gateway) (ephPub : Key) (packet : Bytes) : Prop :=
  ∀ s ∈ g.sessionManager.established, s.ephPub = ephPub →
    ∀ r nonce off, P.decrypt (s.key P rng serverKeys r) nonce (packet.drop off) = none

/-- What the network delivers to the gateway was sent by one of the two, or it is foreign to the
client's sessions, the one that it opens included. -/
def NetworkToServer (ephPub : Key) (w : World) (e : Event) : Prop :=
  ∀ env packet addr, e = .inr (env, .packet packet addr) →
    Sent w packet ∨ ForeignToSessions P rng serverKeys (step P rng cfg w e).2 ephPub packet

/-- In this step the gateway accepts the datagram, with this session and counter, and hands on the
inner packet. -/
def Accepted (w : World) (e : Event) (packet : Bytes) (t : TagMatch) (inner : Bytes) : Prop :=
  ∃ env addr, e = .inr (env, .packet packet addr) ∧
    (Gateway.receivePacket P rng env packet addr w.2).1 = .ok (t, inner)

/-- The inner packet was sealed into the datagram under a key of the session `s` and the nonce of the
counter, by the client, or by the gateway for a session with the same ephemeral key. -/
def UplinkOrigin (w : World) (s : Established) (packet : Bytes) (t : TagMatch) (inner : Bytes) :
    Prop :=
  ∃ r, SealedByClient P w.1 (s.key P rng serverKeys r) (counterToNonce t.counter) inner packet ∨
    ∃ e ∈ w.2.sessionManager.established, e.ephPub = s.ephPub ∧
      SealedByServer P rng serverKeys w.2 e (s.key P rng serverKeys r) (counterToNonce t.counter)
        inner packet

/-- What the step accepts in a session with this ephemeral key has such an origin. -/
def UplinkTraced (ephPub : Key) (w : World) (e : Event) : Prop :=
  ∀ packet t inner, Accepted P rng w e packet t inner →
    ∃ s ∈ (step P rng cfg w e).2.sessionManager.established, s.sessionId = t.sessionId ∧
      (s.ephPub = ephPub → UplinkOrigin P rng serverKeys w s packet t inner)

end

variable {P : Primitives} {rng : Randomness} {cfg : GatewayConfig} {keypair serverKeys : KeyPair}
  {w : World}

/-- Whatever the two have sent ends with a sealed inner packet of one of them. -/
theorem Inv.sealed (hinv : Inv P rng serverKeys cfg keypair w) {packet : Bytes}
    (hsent : Sent w packet) :
    ∃ key nonce inner front padding, key ∈ sessionKeys P rng serverKeys w ∧
      padding.length < 65536 ∧ packet = front ++ P.encrypt key nonce (padPlaintext inner padding) ∧
      (SealedByClient P w.1 key nonce inner packet ∨
        ∃ e ∈ w.2.sessionManager.established, (∃ r, key = e.key P rng serverKeys r) ∧
          SealedByServer P rng serverKeys w.2 e key nonce inner packet) := by
  rcases hsent with hown | ⟨sid, dest, heffect⟩
  · obtain ⟨ephPub, ⟨key, nonce, plaintext⟩, hcall, tag, header, -, hpacket⟩ :=
      hinv.wire.sent packet hown
    obtain ⟨inner, padding, hinner, hpad, rfl⟩ := hinv.wire.calls _ hcall
    obtain ⟨m, horder⟩ := hinv.send.ordered
    have hkey : key ∈ w.1.log.keyHistory P :=
      horder.key_mem (key, nonce) (List.mem_map_of_mem hcall)
    exact ⟨key, nonce, inner, tag.toList ++ header, padding, Or.inl hkey, hpad, hpacket,
      Or.inl ⟨hown, hinner, _, padding, hpad, hcall, hpacket⟩⟩
  · obtain ⟨⟨id, key, nonce, plaintext⟩, hcall, hsid, tag, header, -, hpacket⟩ :=
      hinv.sends sid packet dest heffect
    obtain ⟨e, he, hid, inner, padding, hinner, hpad, rfl⟩ := hinv.ledger.calls _ hcall
    obtain ⟨r, hr⟩ := hinner.key_eq
    obtain rfl : id = sid := hsid
    obtain rfl : e.sessionId = id := hid
    exact ⟨key, nonce, inner, tag.toList ++ header, padding, Or.inr ⟨e, he, r, hr⟩, by omega,
      hpacket, Or.inr ⟨e, he, ⟨r, hr⟩, ⟨dest, heffect⟩, hinner, _, padding, hpad, hcall, hpacket⟩⟩

/-- One step: a datagram that opens under a key of the session was sealed under it. -/
theorem uplinkTraced_step (hinv : Inv P rng serverKeys cfg keypair w) {e : Event}
    (hnet : NetworkToServer P rng cfg serverKeys keypair.publicKeyBytes w e)
    (hideal : Ideal P rng serverKeys (step P rng cfg w e))
    (hkdf : KdfDistinct P rng serverKeys (step P rng cfg w e).2.sessionManager.established) :
    UplinkTraced P rng cfg serverKeys keypair.publicKeyBytes w e := by
  rintro packet t inner ⟨env, addr, rfl, haccept⟩
  have hext := hinv.step (.inr (env, .packet packet addr))
  obtain ⟨s, hs, hsid, r, off, padded, hdec, hstrip⟩ :=
    Gateway.opens_of_receivePacket cfg hinv.ledger haccept
  refine ⟨s, hs, hsid, fun heph => ⟨r, ?_⟩⟩
  rcases hnet env packet addr rfl with hsent | hforeign
  · have hsent' : Sent (step P rng cfg w (.inr (env, .packet packet addr))) packet :=
      hsent.imp (fun hown => hown)
        fun ⟨sid, dest, heffect⟩ => ⟨sid, dest, hext.grows.effects heffect⟩
    obtain ⟨key, nonce, inner', front, padding, hkey, hpad, hpacket, hsource⟩ := hinv.sealed hsent
    have hkey' : key ∈ sessionKeys P rng serverKeys
        (step P rng cfg w (.inr (env, .packet packet addr))) := by
      rcases hkey with hclient | ⟨e, he, r', heq⟩
      · exact Or.inl hclient
      · exact Or.inr ⟨e, hext.grows.established he, r', heq⟩
    -- the ciphertext opens in one way only: key, nonce and inner packet are those of the sender
    obtain ⟨rfl, rfl, -, rfl⟩ := hideal.aead packet hsent' front key nonce _ hkey' hpacket
      (s.key P rng serverKeys r) (Or.inr ⟨s, hs, r, rfl⟩) _ _ _ hdec
    rw [stripPadding_padPlaintext inner' hpad] at hstrip
    obtain rfl : inner' = inner := Except.ok.inj hstrip
    rcases hsource with hclient | ⟨e, he, ⟨r', heq⟩, hserver⟩
    · exact Or.inl hclient
    · have hinput := hkdf s hs e (hext.grows.established he) r r' heq
      refine Or.inr ⟨e, he, ?_, hserver⟩
      cases r <;> cases r' <;> exact (congrArg KdfInput.ephPub hinput).symm
  · rw [hforeign s hs heph] at hdec
    cases hdec

/-- In every run of client and gateway, whatever the network does with what they have sent and
whatever else it brings that no key of the client's sessions opens: what the gateway accepts in a
session with the client's ephemeral key was sealed under a key of that session and the nonce of its
counter, and the inner packet that goes on is the sealed one. The client has sealed it, or the
gateway itself, for a session of the same client. -/
theorem accepted_origin (P : Primitives) (rng : Randomness) (cfg : GatewayConfig)
    (config : AivpnClient.Config) (keypair serverKeys : KeyPair) (signingKey : Key)
    (clientDb : Option (List ClientConfig)) (es : List Event) {w : World}
    (hw : w = runFrom (step P rng cfg) (start config keypair serverKeys signingKey clientDb) es)
    (hnet : Along (step P rng cfg) (NetworkToServer P rng cfg serverKeys keypair.publicKeyBytes)
      (start config keypair serverKeys signingKey clientDb) es)
    (hideal : Ideal P rng serverKeys w)
    (hkdf : KdfDistinct P rng serverKeys w.2.sessionManager.established) :
    Along (step P rng cfg) (UplinkTraced P rng cfg serverKeys keypair.publicKeyBytes)
      (start config keypair serverKeys signingKey clientDb) es := by
  subst hw
  -- what is ideal at the end of the run is ideal behind each of its steps
  have hfinal := (along_of_final
    (J := fun w => Ideal P rng serverKeys w ∧
      KdfDistinct P rng serverKeys w.2.sessionManager.established)
    (fun w e (hw : Inv P rng serverKeys cfg keypair w) => (hw.step e).inv) (by
      intro w e hw hlater
      have hext := hw.step e
      exact ⟨hlater.1.mono hext.client.sent hext.inputs hext.grows,
        KdfDistinct.mono hlater.2 hext.grows.established⟩)
    (inv_start config signingKey clientDb) ⟨hideal, hkdf⟩).2
  exact Along.imp_of_invariant (fun w e hinv _ => (hinv.step e).inv)
    (fun w e hinv he => uplinkTraced_step hinv he.1 he.2.2.1 he.2.2.2)
    (inv_start config signingKey clientDb) (along_and.2 ⟨hnet, hfinal⟩)

/-! ## A run with a reflection -/

/-- A packet from the TUN device to the sample client. -/
def sampleTunPacket : Bytes := 0x45 :: List.replicate 15 0 ++ [10, 0, 0, 2]

/-- Client and gateway have greeted each other, and a keepalive of the client completes the
ratchet. -/
def sampleExchange : List Event :=
  let es := sampleGreeting ++ [.inl (AivpnClient.sampleClientEnv, .keepalive)]
  es ++ (sampleRun es).1.sent.head?.toList.map fun packet =>
    .inr (sampleEnv 100, .packet packet sampleAddr)

/-- The gateway sends a packet from the TUN device, and the network brings the datagram back to it. -/
def sampleReflection : List Event :=
  let es := sampleExchange ++ [.inr (sampleEnv 100, .tun sampleTunPacket)]
  es ++ (sampleSends (sampleRun es).2).head?.toList.map fun packet =>
    .inr (sampleEnv 100, .packet packet sampleAddr)

/-- The network hands the gateway what one of the two has sent. -/
def handsOnToServer (w : World) : Event → Bool
  | .inr (_, .packet packet _) => (w.1.sent ++ sampleSends w.2).contains packet
  | _ => true

theorem sent_of_mem {packet : Bytes} (h : packet ∈ w.1.sent ++ sampleSends w.2) : Sent w packet := by
  rcases List.mem_append.1 h with hown | hserver
  · exact Or.inl hown
  · obtain ⟨effect, heffect, hpacket⟩ := List.mem_filterMap.1 hserver
    cases effect with
    | send sid sent addr =>
        cases hpacket
        exact Or.inr ⟨sid, addr, heffect⟩
    | tunWrite sent => cases hpacket
    | recordHandshake clientId => cases hpacket
    | recordTraffic clientId bytesIn bytesOut => cases hpacket

theorem networkToServer_of_handsOn {ephPub : Key} {e : Event} (h : handsOnToServer w e = true) :
    NetworkToServer P rng cfg serverKeys ephPub w e := by
  rintro env packet addr rfl
  exact Or.inl (sent_of_mem (List.contains_iff_mem.1 h))

/-- The keys of the sample session. -/
def sampleSessionKeys : List Key :=
  [(sampleInitialKeys none).sessionKey, (sampleRatchetedKeys none 0).sessionKey]

theorem sampleReflection_state :
    let w := sampleRun sampleReflection
    Along (step samplePrimitives sampleRandomness sampleConfig)
      (fun w e => handsOnToServer w e = true) sampleStart sampleReflection ∧
    (sampleSessionKeys.map fun k => k.toList.take 2).Nodup ∧
    (∀ k ∈ w.1.log.keyHistory samplePrimitives, k ∈ sampleSessionKeys) ∧
    (∀ e ∈ w.2.sessionManager.established, ∀ r,
      e.key samplePrimitives sampleRandomness sampleServerKeys r ∈ sampleSessionKeys) ∧
    (∀ packet ∈ w.1.sent, packet.length < 65536) ∧
    (∀ packet ∈ sampleSends w.2, packet.length < 65536) ∧
    (∀ i ∈ w.1.log.kdfInputs, ∀ e ∈ w.2.sessionManager.established, ∀ r,
      i.sessionKey samplePrimitives =
        e.key samplePrimitives sampleRandomness sampleServerKeys r →
        i = e.kdfInput samplePrimitives sampleRandomness sampleServerKeys r) ∧
    (∀ e ∈ w.2.sessionManager.established, ∀ e' ∈ w.2.sessionManager.established, ∀ r r',
      e.key samplePrimitives sampleRandomness sampleServerKeys r =
        e'.key samplePrimitives sampleRandomness sampleServerKeys r' →
        e.kdfInput samplePrimitives sampleRandomness sampleServerKeys r =
          e'.kdfInput samplePrimitives sampleRandomness sampleServerKeys r') ∧
    Effect.tunWrite sampleTunPacket ∈ w.2.effects ∧
    ∀ call ∈ w.1.log.calls,
      (stripPadding call.plaintext).toOption.map (List.drop 4) ≠ some sampleTunPacket := by
  -- the run is evaluated once for all of its facts
  decide +kernel

theorem sampleReflection_ideal :
    Along (step samplePrimitives sampleRandomness sampleConfig)
      (NetworkToServer samplePrimitives sampleRandomness sampleConfig sampleServerKeys
        sampleClientKeys.publicKeyBytes) sampleStart sampleReflection ∧
    Ideal samplePrimitives sampleRandomness sampleServerKeys (sampleRun sampleReflection) ∧
    KdfDistinct samplePrimitives sampleRandomness sampleServerKeys
      (sampleRun sampleReflection).2.sessionManager.established := by
  obtain ⟨hhands, hmarks, hclient, hserver, hown, hsends, hkdf, hdistinct, -⟩ :=
    sampleReflection_state
  have hideal := @sample_ideal sampleReflection sampleSessionKeys hmarks hclient hserver hown hsends
    hkdf
  refine ⟨?_, hideal, hdistinct⟩
  exact @Along.imp_of_invariant World Event _ (fun _ => True) _ _ (fun _ _ _ _ => trivial)
    (fun _ _ _ he => networkToServer_of_handsOn he) _ _ trivial hhands

/-- The run meets the assumptions, and all that the gateway accepts in it has its origin in one of
the two. -/
theorem reflection_traced :
    Along (step samplePrimitives sampleRandomness sampleConfig)
      (UplinkTraced samplePrimitives sampleRandomness sampleConfig sampleServerKeys
        sampleClientKeys.publicKeyBytes) sampleStart sampleReflection := by
  obtain ⟨hnet, hideal, hkdf⟩ := sampleReflection_ideal
  exact @accepted_origin samplePrimitives sampleRandomness sampleConfig
    (AivpnClient.sampleClientConfig sampleServerKeys.publicKeyBytes none) sampleClientKeys
    sampleServerKeys default none sampleReflection (sampleRun sampleReflection) rfl hnet hideal hkdf

/-- The exception is real: the gateway writes its own downlink packet back to the TUN device, although
the client has sealed no such packet. -/
theorem downlink_reflected :
    Along (step samplePrimitives sampleRandomness sampleConfig)
      (NetworkToServer samplePrimitives sampleRandomness sampleConfig sampleServerKeys
        sampleClientKeys.publicKeyBytes) sampleStart sampleReflection ∧
    Effect.tunWrite sampleTunPacket ∈ (sampleRun sampleReflection).2.effects ∧
    ∀ key nonce inner packet, SealedByClient samplePrimitives (sampleRun sampleReflection).1 key nonce
      inner packet → inner.drop 4 ≠ sampleTunPacket := by
  obtain ⟨-, -, -, -, -, -, -, -, hwrite, hcalls⟩ := sampleReflection_state
  refine ⟨sampleReflection_ideal.1, hwrite, ?_⟩
  rintro key nonce inner packet ⟨-, -, front, padding, hpad, hcall, -⟩ heq
  have hnone := hcalls _ hcall
  rw [stripPadding_padPlaintext inner hpad] at hnone
  exact hnone (congrArg some heq)

end Tunnel

end Aivpn
