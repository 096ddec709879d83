import Aivpn.Tunnel.Origin
import Aivpn.Common.ControlCodec

/-!
# Key agreement of client and session

The client folds every ServerHello it takes into its current key. The first one takes it from the keys
of the handshake to the ratcheted keys of the session (`Rekeyed.hello`). But the gateway answers every
keepalive before the ratchet with a further ServerHello, under a counter of its own, and a client that
takes one of these while it still has the old keys derives keys that no session has
(`secondHello_parts`). So the keys agree behind the first ServerHello, in every state of a run, exactly
when that does not happen (`keysAgree_iff_oneHello`).
-/

set_option autoImplicit false

namespace Aivpn

open Aivpn.Lib

/-! ## Who sends a ServerHello -/

/-- An inner packet in the padding it was sent with decodes to what it was made of. -/
theorem isHello_padPlaintext {n : Nat} {header : InnerHeader} {payload padding : Bytes}
    (hpad : padding.length < 65536) {decoded : DecodedPacket} {serverEphPub : Key}
    (h : decodePadded n (padPlaintext (header.encode ++ payload) padding) = .ok decoded)
    (hhello : AivpnClient.IsHello decoded serverEphPub) :
    header.innerType = .control ∧ ∃ signature,
      ControlPayload.decode payload = .ok (.serverHello serverEphPub signature) := by
  rw [decodePadded_padPlaintext n header payload padding hpad] at h
  cases h
  exact hhello

/-- The message is a ServerHello only if it was sent as one. -/
theorem decode_encode_ne_serverHello {payload : ControlPayload}
    (hne : ∀ key signature, payload ≠ .serverHello key signature) (key : Key)
    (signature : ByteArr 64) :
    ControlPayload.decode payload.encode ≠ .ok (.serverHello key signature) := by
  have hdecode := ControlPayload.decode_ne_serverHello hne [] key signature
  rwa [List.append_nil] at hdecode

/-- The client sends none. -/
theorem AivpnClient.WireInv.not_isHello {P : Primitives} {c : AivpnClient} (h : c.WireInv P)
    {call : ClientCall} (hcall : call ∈ c.log.calls) {n : Nat} {decoded : DecodedPacket}
    (hdecoded : decodePadded n call.plaintext = .ok decoded) (serverEphPub : Key) :
    ¬ IsHello decoded serverEphPub := by
  intro hhello
  obtain ⟨inner, padding, hinner, hpad, hplain⟩ := h.calls call hcall
  rw [hplain] at hdecoded
  cases hinner with
  | control seqNum hne =>
      rw [buildInnerPacket_eq] at hdecoded
      obtain ⟨-, signature, hctl⟩ := isHello_padPlaintext hpad hdecoded hhello
      exact decode_encode_ne_serverHello hne serverEphPub signature hctl
  | data seqNum payload =>
      rw [buildInnerPacket_eq] at hdecoded
      cases (isHello_padPlaintext hpad hdecoded hhello).1

/-- A session sends it under its initial key, with its own ephemeral key. -/
theorem SessionManager.Ledger.hello {P : Primitives} {rng : Randomness} {serverKeys : KeyPair}
    {m : SessionManager} (h : m.Ledger P rng serverKeys) {e : Established} (he : e ∈ m.established)
    {call : EncryptCall} (hcall : call ∈ m.encryptCalls) (hid : call.sessionId = e.sessionId)
    {n : Nat} {decoded : DecodedPacket} (hdecoded : decodePadded n call.plaintext = .ok decoded)
    {serverEphPub : Key} (hhello : AivpnClient.IsHello decoded serverEphPub) :
    call.key = (e.initialKeys P serverKeys).sessionKey ∧
      serverEphPub = (e.serverEph P rng).publicKeyBytes := by
  obtain ⟨e', he', hid', inner, padding, hsent, hpad, hplain⟩ := h.calls call hcall
  obtain rfl := h.eq_of_sessionId he' he (hid'.trans hid)
  have hpad' : padding.length < 65536 := by omega
  rw [hplain] at hdecoded
  generalize call.key = key at hsent ⊢
  cases hsent with
  | hello signature =>
      obtain ⟨-, signature', hctl⟩ := isHello_padPlaintext hpad' hdecoded hhello
      have hroundtrip := ControlPayload.decode_encode_append
        (p := .serverHello (e'.serverEph P rng).publicKeyBytes signature) trivial []
      rw [List.append_nil, hctl] at hroundtrip
      cases hroundtrip
      exact ⟨rfl, rfl⟩
  | control hkey seqNum hne =>
      obtain ⟨-, signature, hctl⟩ := isHello_padPlaintext hpad' hdecoded hhello
      exact absurd hctl (decode_encode_ne_serverHello hne serverEphPub signature)
  | data hkey seqNum packet => cases (isHello_padPlaintext hpad' hdecoded hhello).1

/-! ## The keys of the client -/

namespace Tunnel

/-- A session with the client's ephemeral key has these keys, or has them pending. A session that the
gateway has removed since still counts, with the keys it had: agreement is about the keys, and how
long a session stays is another matter. -/
def Agreed (w : World) (ephPub : Key) (keys : SessionKeys) : Prop :=
  ∃ e ∈ w.2.sessionManager.established, e.ephPub = ephPub ∧
    ((w.2.session e.sessionId).keys = keys ∨ (w.2.session e.sessionId).ratchetedKeys = some keys)

/-- Once a ServerHello has been processed, no datagram is taken for a further one. -/
def OneHello (P : Primitives) (w : World) (e : Event) : Prop :=
  ∀ env packet, e = .inl (env, .receive packet) → w.1.stage = .running → 0 < w.1.hellos →
    ¬ w.1.TakesHello P env packet

/-- Before the first ServerHello the client has the keys of `connect` only; behind it, the ratcheted
keys of a session. -/
structure Rekeyed (P : Primitives) (rng : Randomness) (keypair serverKeys : KeyPair) (w : World) :
    Prop where
  before : w.1.hellos = 0 → w.1.transitionRecvKeys = none
  behind : 0 < w.1.hellos → ∀ keys, w.1.sessionKeys = some keys →
    ∃ e ∈ w.2.sessionManager.established, e.ephPub = keypair.publicKeyBytes ∧
      keys = e.ratchetedKeys P rng serverKeys

variable {P : Primitives} {rng : Randomness} {cfg : GatewayConfig} {keypair serverKeys : KeyPair}
  {w : World}

theorem Rekeyed.settles (h : Rekeyed P rng keypair serverKeys w) {c' : AivpnClient}
    (hsettles : w.1.Settles c') : Rekeyed P rng keypair serverKeys (c', w.2) where
  before := by
    intro hnone
    have hold := h.before (hsettles.hellos.symm.trans hnone)
    exact hsettles.transition.elim (fun hsame => hsame.trans hold) id
  behind := by
    intro hsome keys hkeys
    rcases hsettles.keys with hsame | hcleared
    · exact h.behind (hsettles.hellos ▸ hsome) keys (hsame ▸ hkeys)
    · cases hcleared.symm.trans hkeys

/-- The first ServerHello takes the client to the ratcheted keys of the session that sent it. -/
theorem Rekeyed.hello (h : Rekeyed P rng keypair serverKeys w)
    (hinv : Inv P rng serverKeys cfg keypair w) (hideal : Ideal P rng serverKeys w)
    (hdh : ∀ sid, P.x25519 keypair.privateKeyBytes
        (P.fromPrivateKey (rng.serverEph sid)).publicKeyBytes =
      P.x25519 (P.fromPrivateKey (rng.serverEph sid)).privateKeyBytes keypair.publicKeyBytes)
    (hfirst : w.1.hellos = 0) {packet : Bytes} (hnet : Sent w packet ∨ Foreign P w.1 packet)
    (hstage : w.1.stage = .running) {decoded : DecodedPacket}
    (haccept : w.1.Accepts P packet decoded) {serverEphPub : Key}
    (hhello : AivpnClient.IsHello decoded serverEphPub) {c' : AivpnClient} {current : SessionKeys}
    (hrekeys : w.1.Rekeys P c' current serverEphPub) :
    Rekeyed P rng keypair serverKeys (c', w.2) where
  before := by
    intro hnone
    have hmore := hrekeys.hellos.symm.trans hnone
    omega
  behind := by
    intro _ keys hkeys
    obtain ⟨keys₀, n, hkeys₀, hsource⟩ := accepts_source hinv hideal hnet hstage haccept
    -- there are no transition keys yet
    have hcurrent : keys₀ = current := by
      rcases hkeys₀ with hsome | hsome
      · exact Option.some.inj (hsome.symm.trans hrekeys.before)
      · cases (h.before hfirst).symm.trans hsome
    subst hcurrent
    rcases hsource with ⟨call, ⟨-, hcall, -⟩, hdecoded⟩ |
      ⟨e, call, ⟨he, hcall, hid, -⟩, heph, hkey, hdecoded⟩
    · exact absurd hhello (hinv.wire.not_isHello hcall hdecoded serverEphPub)
    · obtain ⟨hinitial, rfl⟩ := hinv.ledger.hello he hcall hid hdecoded hhello
      obtain ⟨i, hi, rfl⟩ := hinv.exists_input hkeys₀
      obtain rfl := hideal.kdf i hi e he false (hkey.trans hinitial)
      refine ⟨e, he, heph, ?_⟩
      have hnext : keys = ((w.1.helloInput P ((e.kdfInput P rng serverKeys false).keys P)
          (e.serverEph P rng).publicKeyBytes).keys P) := by
        rcases hrekeys.keys with hsome | hnone
        · exact Option.some.inj (hkeys.symm.trans hsome)
        · cases hnone.symm.trans hkeys
      have hshared : P.x25519 keypair.privateKeyBytes (e.serverEph P rng).publicKeyBytes =
          P.x25519 (e.serverEph P rng).privateKeyBytes keypair.publicKeyBytes := hdh e.sessionId
      rw [hnext]
      unfold AivpnClient.helloInput Established.ratchetedKeys
      rw [hinv.owner, heph, ← hshared]
      rfl

theorem Rekeyed.step (h : Rekeyed P rng keypair serverKeys w) {e : Event}
    (hdh : ∀ sid, P.x25519 keypair.privateKeyBytes
        (P.fromPrivateKey (rng.serverEph sid)).publicKeyBytes =
      P.x25519 (P.fromPrivateKey (rng.serverEph sid)).privateKeyBytes keypair.publicKeyBytes)
    (hinv : Inv P rng serverKeys cfg keypair w) (hideal : Ideal P rng serverKeys w)
    (hnet : Network P w e) (hone : OneHello P w e) :
    Rekeyed P rng keypair serverKeys (step P rng cfg w e) := by
  rcases e with ⟨env, event⟩ | e
  · have hother : (∀ packet, event ≠ .receive packet) →
        Rekeyed P rng keypair serverKeys (AivpnClient.step P w.1 (env, event), w.2) := by
      intro hevent
      rcases (AivpnClient.step_other (P := P) (e := (env, event)) hinv.untouched hevent).2 with
        hsettles | hconnects
      · exact h.settles hsettles
      · refine ⟨fun _ => hconnects.transition, fun hsome => ?_⟩
        exact absurd hconnects.hellos (Nat.ne_of_gt hsome)
    cases event with
    | receive packet =>
        rcases @AivpnClient.step_receive P env w.1 _ packet rfl with
          -- a packet that is no hello leaves the keys as they are
          ⟨hsettles, -⟩ | ⟨hstage, decoded, haccept, -, hcases⟩
        · exact h.settles hsettles
        · rcases hcases with hsettles | ⟨htakes, current, serverEphPub, hhello, hrekeys⟩
          · exact h.settles hsettles
          -- the first hello is the server's own, a second one is excluded
          · have hfirst : w.1.hellos = 0 := by
              by_contra hne
              exact hone env packet rfl hstage (Nat.pos_of_ne_zero hne) htakes
            exact h.hello hinv hideal hdh hfirst (hnet env packet rfl) hstage haccept hhello hrekeys
    | _ => exact hother nofun
  -- what the server establishes stays established
  · have hgrows := (Gateway.step_grows P rng cfg w.2 e).1
    refine ⟨h.before, fun hsome keys hkeys => ?_⟩
    obtain ⟨e', he', heph, heq⟩ := h.behind hsome keys hkeys
    exact ⟨e', hgrows.established he', heph, heq⟩

/-- A session has its ratcheted keys, or has them pending. -/
theorem agreed_ratcheted (hinv : Inv P rng serverKeys cfg keypair w) {e : Established}
    (he : e ∈ w.2.sessionManager.established) :
    Agreed w e.ephPub (e.ratchetedKeys P rng serverKeys) := by
  refine ⟨e, he, rfl, ?_⟩
  have hfits := hinv.ledger.fits e he
  have hkeys : (w.2.session e.sessionId).keys =
      (w.2.sessionManager.heap e.sessionId).keyState.keys := rfl
  have hpending : (w.2.session e.sessionId).ratchetedKeys =
      (w.2.sessionManager.heap e.sessionId).keyState.ratchetedKeys := rfl
  rw [hkeys, hpending]
  generalize (w.2.sessionManager.heap e.sessionId).keyState = k at hfits ⊢
  generalize SessionManager.usedPairs _ _ = used at hfits
  cases hfits with
  | initial n => exact Or.inr rfl
  | ratcheted n k => exact Or.inl rfl

/-! ## The second ServerHello -/

/-- No PSK of a session is the session key of one. -/
def PskFresh (P : Primitives) (rng : Randomness) (serverKeys : KeyPair) (w : World) : Prop :=
  ∀ e ∈ w.2.sessionManager.established, ∀ e' ∈ w.2.sessionManager.established, ∀ r,
    e.presharedKey ≠ some (e'.key P rng serverKeys r)

/-- A session has the keys of its two inputs only. -/
theorem Agreed.exists_input (hinv : Inv P rng serverKeys cfg keypair w) {ephPub : Key}
    {keys : SessionKeys} (h : Agreed w ephPub keys) :
    ∃ e ∈ w.2.sessionManager.established, ∃ r, keys.sessionKey = e.key P rng serverKeys r := by
  obtain ⟨e, he, -, hkeys⟩ := h
  have hfits := hinv.ledger.fits e he
  have hstate : (w.2.sessionManager.heap e.sessionId).keyState.keys = keys ∨
      (w.2.sessionManager.heap e.sessionId).keyState.ratchetedKeys = some keys := hkeys
  generalize (w.2.sessionManager.heap e.sessionId).keyState = k at hfits hstate
  generalize SessionManager.usedPairs _ _ = used at hfits
  cases hfits with
  | initial n =>
      rcases hstate with rfl | hpending
      · exact ⟨e, he, false, rfl⟩
      · cases hpending
        exact ⟨e, he, true, rfl⟩
  | ratcheted n k =>
      rcases hstate with rfl | hpending
      · exact ⟨e, he, true, rfl⟩
      · cases hpending

/-- Keys derived from a session's ratcheted keys are the keys of no session. -/
theorem secondHello_parts (h : Rekeyed P rng keypair serverKeys w)
    (hinv : Inv P rng serverKeys cfg keypair w) (hpsk : PskFresh P rng serverKeys w)
    (hsome : 0 < w.1.hellos) {current : SessionKeys} (hcurrent : w.1.sessionKeys = some current)
    (serverEphPub : Key) {c' : AivpnClient}
    (hinputs : c'.log.kdfInputs = w.1.helloInput P current serverEphPub :: w.1.log.kdfInputs)
    (hideal : Ideal P rng serverKeys (c', w.2)) :
    ¬ Agreed (c', w.2) keypair.publicKeyBytes
      ((w.1.helloInput P current serverEphPub).keys P) := by
  intro hagreed
  obtain ⟨e', he', -, hratcheted⟩ := h.behind hsome current hcurrent
  obtain ⟨e, he, r, hkey⟩ := Agreed.exists_input (w := w) hinv hagreed
  have hinput := hideal.kdf _ (hinputs ▸ List.mem_cons_self) e he r hkey
  have hprevious := congrArg KdfInput.presharedKey hinput
  cases r with
  | false =>
      apply hpsk e he e' he' true
      calc e.presharedKey = some current.sessionKey := hprevious.symm
        _ = some (e'.key P rng serverKeys true) := by
          rw [hratcheted]
          rfl
  | true =>
      -- then the session keys are the initial keys of a session, with a PSK of their own
      obtain ⟨i, hi, hikeys⟩ := hinv.exists_input (Or.inl hcurrent)
      have hi' : i ∈ c'.log.kdfInputs := hinputs ▸ List.mem_cons_of_mem _ hi
      have hsame : i.sessionKey P = e.key P rng serverKeys false := by
        have hinitial : some current.sessionKey = some (e.key P rng serverKeys false) := hprevious
        rw [← Option.some.inj hinitial, ← hikeys]
        rfl
      have hother : i.sessionKey P = e'.key P rng serverKeys true := by
        show (i.keys P).sessionKey = _
        rw [hikeys, hratcheted]
        rfl
      have hfirst := hideal.kdf i hi' e he false hsame
      have hsecond := hideal.kdf i hi' e' he' true hother
      apply hpsk e he e' he' false
      exact (congrArg KdfInput.presharedKey (hfirst.symm.trans hsecond) :)

/-! ## Runs -/

/-- Behind the first ServerHello the keys of the client are those of a session with its ephemeral
key, or are pending there. -/
def KeysAgree (w : World) (ephPub : Key) : Prop :=
  0 < w.1.hellos → ∀ keys, w.1.sessionKeys = some keys → Agreed w ephPub keys

/-- Key agreement: in every run of client and gateway, whatever the network loses, repeats or
reorders, the keys agree in every state behind the first ServerHello exactly when the client takes no
second one. -/
theorem keysAgree_iff_oneHello (P : Primitives) (rng : Randomness) (cfg : GatewayConfig)
    (config : AivpnClient.Config) (keypair serverKeys : KeyPair) (signingKey : Key)
    (clientDb : Option (List ClientConfig)) (es : List Event) {w : World}
    (hw : w = runFrom (step P rng cfg) (start config keypair serverKeys signingKey clientDb) es)
    (hnet : Along (step P rng cfg) (Network P)
      (start config keypair serverKeys signingKey clientDb) es)
    (hideal : Ideal P rng serverKeys w) (hpsk : PskFresh P rng serverKeys w)
    (hdh : ∀ sid, P.x25519 keypair.privateKeyBytes
        (P.fromPrivateKey (rng.serverEph sid)).publicKeyBytes =
      P.x25519 (P.fromPrivateKey (rng.serverEph sid)).privateKeyBytes keypair.publicKeyBytes) :
    Along (step P rng cfg) (fun w e => KeysAgree (step P rng cfg w e) keypair.publicKeyBytes)
        (start config keypair serverKeys signingKey clientDb) es ↔
      Along (step P rng cfg) (OneHello P)
        (start config keypair serverKeys signingKey clientDb) es := by
  subst hw
  have hpsks : Along (step P rng cfg) (fun w e => PskFresh P rng serverKeys w ∧
      PskFresh P rng serverKeys (step P rng cfg w e))
      (start config keypair serverKeys signingKey clientDb) es := by
    -- the keys drawn so far are among those drawn at the end
    refine (along_of_final (fun w e (hw : Inv P rng serverKeys cfg keypair w) => (hw.step e).inv)
      ?_ (inv_start config signingKey clientDb) hpsk).2
    intro w e hw hlater e₁ he₁ e₂ he₂
    have hgrows := (hw.step e).grows.established
    exact hlater e₁ (hgrows he₁) e₂ (hgrows he₂)
  have hstart : Rekeyed P rng keypair serverKeys
      (start config keypair serverKeys signingKey clientDb) :=
    ⟨fun _ => rfl, fun hpos => absurd hpos (Nat.lt_irrefl 0)⟩
  refine @along_iff_of_invariant World Event (step P rng cfg)
    (fun w => Inv P rng serverKeys cfg keypair w ∧ Rekeyed P rng keypair serverKeys w) _ _ _ ?_ ?_
    _ _ ⟨inv_start config signingKey clientDb, hstart⟩
    (along_and.2 ⟨along_and.2 ⟨hnet, along_ideal hideal⟩, hpsks⟩)
  · rintro w e ⟨hinv, hrekeyed⟩ ⟨⟨hnetwork, hnow, -⟩, -⟩ hone
    exact ⟨(hinv.step e).inv, hrekeyed.step hdh hinv hnow hnetwork hone⟩
  · rintro w e ⟨hinv, hrekeyed⟩ ⟨⟨hnetwork, hnow, hlater⟩, hfresh, -⟩
    constructor
    -- a hello that is taken a second time would make the client's keys differ from the server's
    · rintro hagree env packet rfl hstage hsome htakes
      obtain ⟨current, serverEphPub, hcurrent, hinputs, hkeys, hhellos⟩ :=
        AivpnClient.step_of_takesHello hstage htakes
      refine secondHello_parts hrekeyed hinv hfresh hsome hcurrent serverEphPub hinputs hlater ?_
      refine hagree ?_ _ hkeys
      show 0 < (AivpnClient.step P w.1 (env, .receive packet)).hellos
      rw [hhellos]
      exact Nat.succ_pos _
    · intro hone hsome keys hkeys
      have hnext := hrekeyed.step hdh hinv hnow hnetwork hone
      obtain ⟨e', he', heph, rfl⟩ := hnext.behind hsome keys hkeys
      exact heph ▸ agreed_ratcheted (hinv.step e).inv he'

/-! ## A client that takes two -/

/-- Key agreement over the sample primitives. -/
theorem samplePrimitives_dh (a b : Key) :
    samplePrimitives.x25519 (samplePrimitives.fromPrivateKey a).privateKeyBytes
        (samplePrimitives.fromPrivateKey b).publicKeyBytes =
      samplePrimitives.x25519 (samplePrimitives.fromPrivateKey b).privateKeyBytes
        (samplePrimitives.fromPrivateKey a).publicKeyBytes := by
  have hadd : ∀ a b c : UInt8, a + (b + c) = b + (a + c) := by
    intro a b c
    rw [← UInt8.add_assoc, UInt8.add_comm a b, UInt8.add_assoc]
  have hcomm : ∀ k l m : Bytes, List.zipWith (· + ·) k (List.zipWith (· + ·) l m) =
      List.zipWith (· + ·) l (List.zipWith (· + ·) k m) := by
    intro k l m
    apply List.ext_getElem
    · simp only [List.length_zipWith]
      omega
    · intro i _ _
      simp only [List.getElem_zipWith]
      exact hadd _ _ _
  exact ByteArr.ext (hcomm _ _ _)

/-- Init and a keepalive of the client reach the gateway before its first ServerHello is back, and the
network delivers both of its answers. -/
def sampleTwice : List Event :=
  let up := sampleUp ++ [.inl (AivpnClient.sampleClientEnv, .keepalive)]
  let es := up ++ (sampleRun up).1.sent.reverse.map fun packet =>
    .inr (sampleEnv 100, .packet packet sampleAddr)
  es ++ (sampleSends (sampleRun es).2).reverse.map fun packet =>
    .inl (AivpnClient.sampleClientEnv, .receive packet)

/-- What the run shows: the network hands on what was sent, the keys and the datagrams are as the
sample AEAD needs them, and the client has processed two ServerHellos. -/
theorem sampleTwice_state :
    let w := sampleRun sampleTwice
    let keys := w.1.log.keyHistory samplePrimitives
    Along (step samplePrimitives sampleRandomness sampleConfig)
      (fun w e => handsOn w e = true) sampleStart sampleTwice ∧
    (keys.map fun k => k.toList.take 2).Nodup ∧
    (∀ e ∈ w.2.sessionManager.established, ∀ r,
      e.key samplePrimitives sampleRandomness sampleServerKeys r ∈ keys) ∧
    (∀ packet ∈ w.1.sent, packet.length < 65536) ∧
    (∀ packet ∈ sampleSends w.2, packet.length < 65536) ∧
    (∀ i ∈ w.1.log.kdfInputs, ∀ e ∈ w.2.sessionManager.established, ∀ r,
      i.sessionKey samplePrimitives =
        e.key samplePrimitives sampleRandomness sampleServerKeys r →
        i = e.kdfInput samplePrimitives sampleRandomness sampleServerKeys r) ∧
    (∀ e ∈ w.2.sessionManager.established, e.presharedKey = none) ∧
    w.1.hellos = 2 ∧ w.1.sessionKeys.isSome ∧
    ∀ e ∈ w.2.sessionManager.established, w.1.sessionKeys ≠ some (w.2.session e.sessionId).keys ∧
      w.1.sessionKeys ≠ (w.2.session e.sessionId).ratchetedKeys := by
  decide +kernel

/-- A client that takes both ServerHellos ends with keys that the session does not have. -/
theorem secondHello_breaks_agreement :
    Along (step samplePrimitives sampleRandomness sampleConfig) (Network samplePrimitives)
      sampleStart sampleTwice ∧
    Ideal samplePrimitives sampleRandomness sampleServerKeys (sampleRun sampleTwice) ∧
    PskFresh samplePrimitives sampleRandomness sampleServerKeys (sampleRun sampleTwice) ∧
    ¬ KeysAgree (sampleRun sampleTwice) sampleClientKeys.publicKeyBytes := by
  obtain ⟨hnet, hkeys, hserver, hown, hsends, hkdf, hpsk, hhellos, hsome, hnot⟩ := sampleTwice_state
  refine ⟨sample_network hnet, ?_, ?_, ?_⟩
  · exact sample_ideal hkeys (fun _ hk => hk) hserver hown hsends hkdf
  · intro e he e' _ r
    rw [hpsk e he]
    exact nofun
  · intro hagree
    obtain ⟨keys, hkeys'⟩ := Option.isSome_iff_exists.1 hsome
    obtain ⟨e, he, -, hsame⟩ := hagree (by rw [hhellos]; decide) keys hkeys'
    obtain ⟨hcurrent, hpending⟩ := hnot e he
    rw [hkeys'] at hcurrent hpending
    rcases hsame with heq | heq
    · exact hcurrent (congrArg some heq.symm)
    · exact hpending heq.symm

/-- With one ServerHello the keys agree in every state. -/
theorem oneHello_keeps_agreement :
    Along (step samplePrimitives sampleRandomness sampleConfig)
      (fun w e => KeysAgree (step samplePrimitives sampleRandomness sampleConfig w e)
        sampleClientKeys.publicKeyBytes) sampleStart sampleGreeting := by
  have hideal := @sample_ideal sampleGreeting [(sampleInitialKeys none).sessionKey,
    (sampleRatchetedKeys none 0).sessionKey] (by decide +kernel) (by decide +kernel)
    (by decide +kernel) (by decide +kernel) (by decide +kernel) (by decide +kernel)
  have hpsk : PskFresh samplePrimitives sampleRandomness sampleServerKeys
      (sampleRun sampleGreeting) := by
    have hnone : ∀ e ∈ (sampleRun sampleGreeting).2.sessionManager.established,
        e.presharedKey = none := by decide +kernel
    intro e he e' _ r
    rw [hnone e he]
    exact nofun
  -- every datagram finds the client without a ServerHello
  have hfirst : Along (step samplePrimitives sampleRandomness sampleConfig)
      (fun w e => e.isRight ∨ w.1.stage ≠ .running ∨ w.1.hellos = 0)
      sampleStart sampleGreeting := by decide +kernel
  refine (keysAgree_iff_oneHello samplePrimitives sampleRandomness sampleConfig
    (AivpnClient.sampleClientConfig sampleServerKeys.publicKeyBytes none) sampleClientKeys
    sampleServerKeys default none sampleGreeting rfl (sample_network (by decide +kernel)) hideal
    hpsk (fun sid => samplePrimitives_dh _ _)).2 ?_
  refine @Along.imp_of_invariant World Event _ (fun _ => True) _ _ (fun _ _ _ _ => trivial)
    ?_ _ _ trivial hfirst
  rintro w e - hcases env packet rfl hstage hsome -
  rcases hcases with hright | hidle | hnone
  · cases hright
  · exact hidle hstage
  · exact Nat.ne_of_gt hsome hnone

end Tunnel

end Aivpn
