import Aivpn.Client.SentPackets
import Aivpn.Client.KeyChain
import Aivpn.Server.NonceReuse

/-!
# The nonces of the two directions

Client and server derive the same keys, and each of them numbers its packets under a key from zero;
nothing in a key or a nonce tells the directions apart. So the nonces of the two overlap:
`sharedPair_iff` says that a pair of key and nonce is used by both exactly when both have made more
encryptions under this key than the number of the nonce. It holds for any run of either client beside
any run of the gateway, whatever the network delivers.
-/

set_option autoImplicit false

namespace Aivpn

open Aivpn.Lib

/-! ## The keys of the Android tunnel -/

namespace AndroidTunnel

/-- The keys of the tunnel form a chain that starts with the PSK. -/
structure ChainInv (P : Primitives) (psk : Option Key) (c : AndroidTunnel) : Prop where
  linked : Linked (KdfInput.sessionKey P) KdfInput.presharedKey psk c.log.kdfInputs
  config : c.psk = psk
  start : c.stage = .start → c.log.kdfInputs = []
  handshake : c.stage = .handshake →
    c.log.kdfInputs.head?.map (KdfInput.keys P) = some c.keys

variable {P : Primitives} {env : ClientEnv} {psk : Option Key} {c : AndroidTunnel}

/-- Sending leaves the chain alone. -/
theorem ChainInv.congr {c' : AndroidTunnel} (h : c.ChainInv P psk)
    (hinputs : c'.log.kdfInputs = c.log.kdfInputs) (hconfig : c'.psk = c.psk)
    (hstart : c'.stage ≠ .start) (hkeys : c'.stage = .handshake →
      c.log.kdfInputs.head?.map (KdfInput.keys P) = some c'.keys) : c'.ChainInv P psk where
  linked := hinputs ▸ h.linked
  config := hconfig.trans h.config
  start := fun hs => absurd hs hstart
  handshake := hinputs ▸ hkeys

theorem ChainInv.sendHandshake (h : c.ChainInv P psk)
    (hkeys : c.log.kdfInputs.head?.map (KdfInput.keys P) = some c.keys) :
    (sendHandshake P env c).ChainInv P psk := by
  unfold AndroidTunnel.sendHandshake AndroidTunnel.transmit
  split_ifs
  · exact h.congr rfl rfl nofun fun _ => hkeys
  · exact h.congr rfl rfl nofun nofun

theorem ChainInv.begin (h : c.ChainInv P psk) (hstage : c.stage = .start) :
    (begin P env c).ChainInv P psk := by
  unfold AndroidTunnel.begin
  split
  · exact h.congr rfl rfl nofun nofun
  · next dh _ =>
      have hinputs := h.start hstage
      -- the first keys are derived with the PSK
      have hlinked : Linked (KdfInput.sessionKey P) KdfInput.presharedKey psk
          (⟨dh, c.psk, c.keypair.publicKeyBytes⟩ :: c.log.kdfInputs) := by
        apply linked_cons h.linked
        rw [hinputs]
        exact h.config
      refine ChainInv.sendHandshake (c := { c with
        keys := KdfInput.keys P ⟨dh, c.psk, c.keypair.publicKeyBytes⟩
        log := c.log.rekey ⟨dh, c.psk, c.keypair.publicKeyBytes⟩
        stage := .handshake }) ?_ rfl
      exact ⟨hlinked, h.config, nofun, fun _ => rfl⟩

/-- The keys behind the ServerHello are derived with the session key before. -/
theorem ChainInv.receiveHello (h : c.ChainInv P psk) (hstage : c.stage = .handshake)
    (packet : Bytes) : (receiveHello P env packet c).ChainInv P psk := by
  unfold AndroidTunnel.receiveHello
  split
  · exact h.congr rfl rfl nofun nofun
  · cases hinput : helloInput P env c packet with
    | none => exact h.congr rfl rfl nofun nofun
    | some input =>
        refine ⟨linked_cons h.linked ?_, h.config, nofun, nofun⟩
        have hprevious : input.presharedKey = some c.keys.sessionKey := by
          unfold helloInput at hinput
          split at hinput
          · split at hinput
            · cases hinput
              rfl
            · cases hinput
          · cases hinput
        rw [hprevious]
        obtain ⟨i, hi, hkeys⟩ := Option.map_eq_some_iff.1 (h.handshake hstage)
        rw [hi, ← hkeys]
        rfl

theorem ChainInv.encryptUpload (h : c.ChainInv P psk) (hstage : c.stage = .forwarding)
    (innerType : InnerType) (payload : Bytes) :
    (encryptUpload P env innerType payload c).ChainInv P psk := by
  unfold AndroidTunnel.encryptUpload AndroidTunnel.transmit
  split
  · exact h
  · dsimp only
    split_ifs
    · exact h.congr rfl rfl (by simp [hstage]) (by simp [hstage])
    · exact h.congr rfl rfl (by simp [hstage]) (by simp [hstage])

theorem ChainInv.receive (h : c.ChainInv P psk) (packet : Bytes) :
    (receive P env packet c).ChainInv P psk := by
  unfold AndroidTunnel.receive
  dsimp only
  split
  · exact ⟨h.linked, h.config, h.start, h.handshake⟩
  · split
    · exact ⟨h.linked, h.config, h.start, h.handshake⟩
    · exact ⟨h.linked, h.config, h.start, h.handshake⟩

theorem ChainInv.step (h : c.ChainInv P psk) (e : ClientEnv × Event) :
    (step P c e).ChainInv P psk := by
  rcases e with ⟨env, event⟩
  cases event with
  | begin =>
      simp only [AndroidTunnel.step]
      split_ifs with hstage
      · exact h.begin hstage
      · exact h
  | retry =>
      simp only [AndroidTunnel.step]
      split_ifs with hstage
      · exact h.sendHandshake (h.handshake hstage)
      · exact h
  | data payload =>
      simp only [AndroidTunnel.step]
      split_ifs with hstage
      · exact h.encryptUpload hstage _ _
      · exact h
  | keepalive =>
      simp only [AndroidTunnel.step]
      split_ifs with hstage
      · exact h.encryptUpload hstage _ _
      · exact h
  | receive packet =>
      simp only [AndroidTunnel.step]
      split_ifs with hhandshake
      · exact h.receiveHello hhandshake packet
      · exact h.receive packet
      · exact h
  | stop => exact h.congr rfl rfl (fun hstage => by cases hstage) fun hstage => by cases hstage

/-- The keys of every run of the tunnel form a chain. -/
theorem chainInv_of_run (serverKey : Key) (psk : Option Key) (keypair : KeyPair)
    (es : List (ClientEnv × Event)) :
    (runFrom (step P) (new serverKey psk keypair) es).ChainInv P psk := by
  have hnew : (new serverKey psk keypair).ChainInv P psk := ⟨trivial, rfl, fun _ => rfl, nofun⟩
  exact runFrom_invariant (fun c e (hc : c.ChainInv P psk) => hc.step e) hnew es

end AndroidTunnel

/-! ## What a client has encrypted -/

/-- A client keeps its configuration. -/
theorem AivpnClient.config_of_run (P : Primitives) (config : Config) (keypair : KeyPair)
    (es : List (ClientEnv × Event)) :
    (runFrom (step P) (new config keypair) es).config = config := by
  have hstep : ∀ (c : AivpnClient) e, c.WireInv P ∧ c.config = config →
      (step P c e).WireInv P ∧ (step P c e).config = config := by
    rintro c e ⟨hwire, hconfig⟩
    have hext := hwire.step e
    exact ⟨hext.inv, hext.config.trans hconfig⟩
  exact (runFrom_invariant hstep ⟨wireInv_new config keypair, rfl⟩ es).2

namespace SendLog

/-- The log of a run of a client that was configured with `psk`: the command line client, or the
Android tunnel. -/
inductive OfRun (P : Primitives) : Option Key → SendLog → Prop where
  | commandLine (config : AivpnClient.Config) (keypair : KeyPair)
      (es : List (ClientEnv × AivpnClient.Event)) :
      OfRun P config.presharedKey
        (runFrom (AivpnClient.step P) (AivpnClient.new config keypair) es).log
  | android (serverKey : Key) (psk : Option Key) (keypair : KeyPair)
      (es : List (ClientEnv × AndroidTunnel.Event)) :
      OfRun P psk (runFrom (AndroidTunnel.step P) (AndroidTunnel.new serverKey psk keypair) es).log

/-- The derivations are fresh: distinct inputs give distinct session keys, and none of these is the
configured PSK. -/
structure KeysFresh (P : Primitives) (psk : Option Key) (log : SendLog) : Prop where
  sessionKey : ∀ i ∈ log.kdfInputs, ∀ j ∈ log.kdfInputs,
    i.sessionKey P = j.sessionKey P → i = j
  psk : ∀ i ∈ log.kdfInputs, psk ≠ some (i.sessionKey P)

variable {P : Primitives} {psk : Option Key} {log : SendLog}

theorem OfRun.ordered (h : OfRun P psk log) : log.Ordered P := by
  cases h with
  | commandLine config keypair es => exact AivpnClient.inOrder_of_run config keypair es
  | android serverKey psk keypair es => exact AndroidTunnel.inOrder_of_run serverKey psk keypair es

theorem OfRun.linked (h : OfRun P psk log) :
    Linked (KdfInput.sessionKey P) KdfInput.presharedKey psk log.kdfInputs := by
  cases h with
  | commandLine config keypair es =>
      have hchain := AivpnClient.chainInv_of_run (P := P) config keypair es
      have hconfig := AivpnClient.config_of_run P config keypair es
      have hlinked := hchain.linked
      rw [hconfig] at hlinked
      exact hlinked
  | android serverKey psk keypair es =>
      exact (AndroidTunnel.chainInv_of_run serverKey psk keypair es).linked

/-- A client never returns to a key. -/
theorem OfRun.keyHistory_nodup (h : OfRun P psk log) (hfresh : log.KeysFresh P psk) :
    (log.keyHistory P).Nodup := by
  refine List.Nodup.map_on ?_ (h.linked.nodup hfresh.sessionKey hfresh.psk)
  exact fun i hi j hj heq => hfresh.sessionKey i hi j hj heq

end SendLog

/-! ## What a session has encrypted -/

/-- The pairs of one more key follow those of the keys before. -/
theorem inOrder_pairs {key : Key} {keys : List Key} {used : List (Key × Nonce)}
    (h : InOrder counterToNonce (key :: keys) 0 used) (n : Nat) :
    InOrder counterToNonce (key :: keys) n (pairs key n ++ used) := by
  induction n with
  | zero => exact h
  | succ n ih =>
      rw [pairs_succ]
      exact ih.send

/-- The pairs of a session are in the order of its two keys. -/
theorem Established.Fits.inOrder {P : Primitives} {rng : Randomness} {serverKeys : KeyPair}
    {e : Established} {k : KeyState} {used : List (Key × Nonce)}
    (h : e.Fits P rng serverKeys k used)
    (hne : (e.initialKeys P serverKeys).sessionKey ≠ (e.ratchetedKeys P rng serverKeys).sessionKey) :
    ∃ keys n, keys.Nodup ∧ InOrder counterToNonce keys n used := by
  cases h with
  | initial n =>
      refine ⟨[(e.initialKeys P serverKeys).sessionKey], n, by simp, ?_⟩
      have horder := inOrder_pairs (InOrder.start.rekey (e.initialKeys P serverKeys).sessionKey) n
      rwa [List.append_nil] at horder
  | ratcheted n k =>
      refine ⟨[(e.ratchetedKeys P rng serverKeys).sessionKey,
        (e.initialKeys P serverKeys).sessionKey], n, by simp [hne.symm], ?_⟩
      have horder := inOrder_pairs (InOrder.start.rekey (e.initialKeys P serverKeys).sessionKey) k
      rw [List.append_nil] at horder
      exact inOrder_pairs (horder.rekey (e.ratchetedKeys P rng serverKeys).sessionKey) n

/-! ## Both directions -/

/-- For every run of a client beside every run of the gateway: client and session have both used a
pair of key and nonce exactly when both have encrypted more packets under the key than the number of
the nonce. -/
theorem sharedPair_iff (P : Primitives) (rng : Randomness) (cfg : GatewayConfig)
    {psk : Option Key} {log : SendLog} (hlog : SendLog.OfRun P psk log)
    (hfresh : log.KeysFresh P psk) (serverKeys : KeyPair) (signingKey : Key)
    (clientDb : Option (List ClientConfig)) (es : List (Env × Gateway.Event))
    {m : SessionManager} (hm : m = (runFrom (Gateway.step P rng cfg)
      (Gateway.new serverKeys signingKey clientDb) es).sessionManager)
    {e : Established} (he : e ∈ m.established)
    (hne : (e.initialKeys P serverKeys).sessionKey ≠ (e.ratchetedKeys P rng serverKeys).sessionKey)
    (key : Key) (nonce : Nonce) :
    ((key, nonce) ∈ log.usedPairs ∧
        (key, nonce) ∈ SessionManager.usedPairs m.encryptCalls e.sessionId) ↔
      ∃ i, nonce = counterToNonce i ∧ i < usedUnder key log.usedPairs ∧
        i < usedUnder key (SessionManager.usedPairs m.encryptCalls e.sessionId) := by
  have hledger : m.Ledger P rng serverKeys :=
    hm ▸ ledger_of_run P rng cfg serverKeys signingKey clientDb es
  obtain ⟨n, hclient⟩ := hlog.ordered
  obtain ⟨keys, n', hkeys, hserver⟩ := (hledger.fits e he).inOrder hne
  exact hclient.shared_iff (hlog.keyHistory_nodup hfresh) hserver hkeys key nonce

/-! ## The first nonce of a session -/

/-- The sample client has connected to the sample server and sent its init. -/
def sampleDialled : AivpnClient :=
  runFrom (AivpnClient.step samplePrimitives)
    (AivpnClient.new (AivpnClient.sampleClientConfig sampleServerKeys.publicKeyBytes none)
      sampleClientKeys)
    [(AivpnClient.sampleClientEnv, .connect), (AivpnClient.sampleClientEnv, .sendInit)]

/-- The gateway has answered this init. -/
def sampleAnswered : Gateway :=
  runFrom (Gateway.step samplePrimitives sampleRandomness sampleConfig)
    (Gateway.new sampleServerKeys default none)
    (sampleDialled.sent.map fun packet => (sampleEnv 100, .packet packet sampleAddr))

/-- The keepalive of the init and the ServerHello that answers it are encrypted under the same key and
with the same nonce. -/
theorem init_and_hello_share_nonce :
    ∃ call ∈ sampleDialled.log.calls, ∃ call' ∈ sampleAnswered.sessionManager.encryptCalls,
      call'.sessionId = 0 ∧ call.key = call'.key ∧ call.nonce = call'.nonce ∧
        call.plaintext ≠ call'.plaintext := by
  decide +kernel

/-- The pair they share is the one with nonce zero. -/
theorem init_and_hello_share_first_nonce :
    let key := (sampleInitialKeys none).sessionKey
    (key, counterToNonce 0) ∈ sampleDialled.log.usedPairs ∧
      (key, counterToNonce 0) ∈
        SessionManager.usedPairs sampleAnswered.sessionManager.encryptCalls 0 := by
  intro key
  have hlog : SendLog.OfRun samplePrimitives none sampleDialled.log :=
    .commandLine (AivpnClient.sampleClientConfig sampleServerKeys.publicKeyBytes none)
      sampleClientKeys
      [(AivpnClient.sampleClientEnv, .connect), (AivpnClient.sampleClientEnv, .sendInit)]
  have hinputs : sampleDialled.log.kdfInputs = [⟨samplePrimitives.x25519
      sampleClientKeys.privateKeyBytes sampleServerKeys.publicKeyBytes, none,
      sampleClientKeys.publicKeyBytes⟩] := by decide +kernel
  have hfresh : sampleDialled.log.KeysFresh samplePrimitives none := by
    refine ⟨?_, fun _ _ => nofun⟩
    intro i hi j hj _
    rw [hinputs, List.mem_singleton] at hi hj
    rw [hi, hj]
  refine (sharedPair_iff samplePrimitives sampleRandomness sampleConfig hlog hfresh
    sampleServerKeys default none _ rfl (e := ⟨0, sampleClientKeys.publicKeyBytes, none⟩)
    (by decide +kernel) (by decide +kernel) key (counterToNonce 0)).2 ⟨0, rfl, ?_, ?_⟩
  · decide +kernel
  · decide +kernel

end Aivpn
