import Aivpn.Common.RecvWindow
import Aivpn.Client.SentPackets
import Aivpn.Client.KeyChain

/-!
# What the client accepts

A datagram is accepted when it opens under the session keys or the transition keys, behind a header
of the length that `run` has stored. `step_receive` says what the step of a received datagram does:
it is refused, it is accepted and the keys stay, or it carries a ServerHello and the next keys are
derived. The other steps accept nothing, and only `connect` derives keys (`step_other`).
-/

set_option autoImplicit false

namespace Aivpn

open Aivpn.Lib

namespace AivpnClient

open Action

/-- The datagram opens under `keys`, behind the header, with the given contents. -/
def OpensUnder (P : Primitives) (c : AivpnClient) (keys : SessionKeys) (packet : Bytes)
    (decoded : DecodedPacket) : Prop :=
  ∃ n padded, P.decrypt keys.sessionKey (counterToNonce n) (packet.drop (tagSize + c.mdhLen)) =
    some padded ∧ decodePadded n padded = .ok decoded

/-- The datagram opens under one of the client's keys. -/
def Accepts (P : Primitives) (c : AivpnClient) (packet : Bytes) (decoded : DecodedPacket) : Prop :=
  ∃ keys, (c.sessionKeys = some keys ∨ c.transitionRecvKeys = some keys) ∧
    c.OpensUnder P keys packet decoded

/-- The decoded packet is a ServerHello. -/
def IsHello (decoded : DecodedPacket) (serverEphPub : Key) : Prop :=
  decoded.header.innerType = .control ∧ ∃ signature,
    ControlPayload.decode decoded.payload = .ok (.serverHello serverEphPub signature)

/-- The client takes the datagram for a ServerHello: it decodes to one, and signature and key pass
the checks. -/
def TakesHello (P : Primitives) (env : ClientEnv) (c : AivpnClient) (packet : Bytes) : Prop :=
  ∃ decoded serverEphPub signature dh2,
    (decodePacket P env packet (expireTransition env c)).1 = .ok decoded ∧
    decoded.header.innerType = .control ∧
    ControlPayload.decode decoded.payload = .ok (.serverHello serverEphPub signature) ∧
    verifyHello P c serverEphPub signature = .ok () ∧
    P.computeShared c.keypair serverEphPub = .ok dh2

/-- No keys are derived; those in use stay or are dropped. -/
structure Settles (c c' : AivpnClient) : Prop where
  config : c'.config = c.config
  keypair : c'.keypair = c.keypair
  kdfInputs : c'.log.kdfInputs = c.log.kdfInputs
  hellos : c'.hellos = c.hellos
  keys : c'.sessionKeys = c.sessionKeys ∨ c'.sessionKeys = none
  transition : c'.transitionRecvKeys = c.transitionRecvKeys ∨ c'.transitionRecvKeys = none

/-- What the keys behind a ServerHello are derived from. -/
def helloInput (P : Primitives) (c : AivpnClient) (current : SessionKeys) (serverEphPub : Key) :
    KdfInput :=
  ⟨P.x25519 c.keypair.privateKeyBytes serverEphPub, some current.sessionKey,
    c.keypair.publicKeyBytes⟩

/-- A ServerHello derives the next keys; those before go into transition. -/
structure Rekeys (P : Primitives) (c c' : AivpnClient) (current : SessionKeys)
    (serverEphPub : Key) : Prop where
  config : c'.config = c.config
  keypair : c'.keypair = c.keypair
  before : c.sessionKeys = some current
  kdfInputs : c'.log.kdfInputs = c.helloInput P current serverEphPub :: c.log.kdfInputs
  hellos : c'.hellos = c.hellos + 1
  keys : c'.sessionKeys = some ((c.helloInput P current serverEphPub).keys P) ∨
    c'.sessionKeys = none
  transition : c'.transitionRecvKeys = some current ∨ c'.transitionRecvKeys = none

/-- `connect` derives the first keys. -/
structure Connects (P : Primitives) (c c' : AivpnClient) : Prop where
  config : c'.config = c.config
  keypair : c'.keypair = c.keypair
  untouched : c.Untouched
  kdfInputs : c'.log.kdfInputs = [c.initialInput P]
  hellos : c'.hellos = 0
  keys : c'.sessionKeys = some ((c.initialInput P).keys P)
  transition : c'.transitionRecvKeys = none

variable {P : Primitives} {env : ClientEnv} {c c' c'' : AivpnClient}

theorem Settles.refl (c : AivpnClient) : Settles c c :=
  ⟨rfl, rfl, rfl, rfl, Or.inl rfl, Or.inl rfl⟩

theorem Settles.trans (h : Settles c c') (h' : Settles c' c'') : Settles c c'' where
  config := h'.config.trans h.config
  keypair := h'.keypair.trans h.keypair
  kdfInputs := h'.kdfInputs.trans h.kdfInputs
  hellos := h'.hellos.trans h.hellos
  keys := h'.keys.elim (fun hsame => hsame ▸ h.keys) Or.inr
  transition := h'.transition.elim (fun hsame => hsame ▸ h.transition) Or.inr

theorem settles_of_view (h : c'.recvView = c.recvView) : Settles c c' := by
  simp only [recvView, Prod.mk.injEq] at h
  obtain ⟨hconfig, hkeypair, hinputs, hkeys, htransition, -, -, -, -, hhellos, -⟩ := h
  exact ⟨hconfig, hkeypair, hinputs, hhellos, Or.inl hkeys, Or.inl htransition⟩

theorem settles_of_clear (h : c'.recvView = c.clearKeys.recvView) : Settles c c' := by
  have hclear : Settles c c.clearKeys := ⟨rfl, rfl, rfl, rfl, Or.inr rfl, Or.inr rfl⟩
  exact hclear.trans (settles_of_view h)

theorem Rekeys.trans {current : SessionKeys} {serverEphPub : Key}
    (h : Rekeys P c c' current serverEphPub) (h' : Settles c' c'') :
    Rekeys P c c'' current serverEphPub where
  config := h'.config.trans h.config
  keypair := h'.keypair.trans h.keypair
  before := h.before
  kdfInputs := h'.kdfInputs.trans h.kdfInputs
  hellos := h'.hellos.trans h.hellos
  keys := h'.keys.elim (fun hsame => hsame ▸ h.keys) Or.inr
  transition := h'.transition.elim (fun hsame => hsame ▸ h.transition) Or.inr

theorem decoded_of_view (h : c'.recvView = c.recvView) : c'.decoded = c.decoded :=
  congrArg (fun v => v.2.2.2.2.2.2.2.2.2.2) h

/-! ## A received datagram -/

theorem opensUnder_of_decode {tw : Nat} {packet : Bytes} {keys : SessionKeys} {w : RecvWindow}
    {decoded : DecodedPacket}
    (h : (decodePacketWithMdhLen P tw packet keys w c.mdhLen).1 = .ok decoded) :
    c.OpensUnder P keys packet decoded := by
  rcases decodePacketWithMdhLen_cases P tw packet keys w c.mdhLen with
    ⟨e, heq⟩ | ⟨n, padded, -, hdec, heq⟩
  · rw [heq] at h
    cases h
  · rw [heq] at h
    exact ⟨n, padded, hdec, h⟩

theorem decodePrimary_ok {keys : SessionKeys} {packet : Bytes} {decoded : DecodedPacket}
    (h : (decodePrimary P env keys packet c).1 = .ok decoded) :
    c.OpensUnder P keys packet decoded ∧
      (decodePrimary P env keys packet c).2.decoded = packet :: c.decoded := by
  refine ⟨opensUnder_of_decode h, ?_⟩
  have hlist : (decodePrimary P env keys packet c).2.decoded =
      if (decodePrimary P env keys packet c).1.isOk then packet :: c.decoded else c.decoded := rfl
  rw [hlist, h]
  rfl

theorem decodePrimary_error {keys : SessionKeys} {packet : Bytes} {e : Fault Error}
    (h : (decodePrimary P env keys packet c).1 = .error e) :
    (decodePrimary P env keys packet c).2.decoded = c.decoded := by
  have hlist : (decodePrimary P env keys packet c).2.decoded =
      if (decodePrimary P env keys packet c).1.isOk then packet :: c.decoded else c.decoded := rfl
  rw [hlist, h]
  rfl

theorem decodeFallback_ok {keys : SessionKeys} {packet : Bytes} {decoded : DecodedPacket}
    (h : (decodeFallback P env keys packet c).1 = .ok decoded) :
    c.OpensUnder P keys packet decoded ∧
      (decodeFallback P env keys packet c).2.decoded = packet :: c.decoded := by
  refine ⟨opensUnder_of_decode h, ?_⟩
  have hlist : (decodeFallback P env keys packet c).2.decoded =
      if (decodeFallback P env keys packet c).1.isOk then packet :: c.decoded else c.decoded := rfl
  rw [hlist, h]
  rfl

theorem decodeFallback_error {keys : SessionKeys} {packet : Bytes} {e : Fault Error}
    (h : (decodeFallback P env keys packet c).1 = .error e) :
    (decodeFallback P env keys packet c).2.decoded = c.decoded := by
  have hlist : (decodeFallback P env keys packet c).2.decoded =
      if (decodeFallback P env keys packet c).1.isOk then packet :: c.decoded else c.decoded := rfl
  rw [hlist, h]
  rfl

/-- The decoder settles the keys. A datagram that it decodes is accepted, and no other is. -/
theorem decodePacket_accepts {packet : Bytes} {r : Outcome DecodedPacket}
    (h : decodePacket P env packet c = (r, c')) :
    Settles c c' ∧ c'.sessionKeys = c.sessionKeys ∧
      (((∀ decoded, r ≠ .ok decoded) ∧ c'.decoded = c.decoded) ∨
      ∃ decoded, r = .ok decoded ∧ c.Accepts P packet decoded ∧
        c'.decoded = packet :: c.decoded) := by
  rcases decodePacket_cases P env packet c with ⟨e, -, heq⟩ | ⟨keys, hkeys, hcases⟩
  · cases heq.symm.trans h
    exact ⟨Settles.refl c, rfl, Or.inl ⟨nofun, rfl⟩⟩
  · have hfirst : Settles c (decodePrimary P env keys packet c).2 :=
      ⟨rfl, rfl, rfl, rfl, Or.inl rfl, Or.inl rfl⟩
    rcases hcases with ⟨decoded, hok, heq⟩ | ⟨e, e', herr, heq⟩ |
      ⟨e, fallbackKeys, herr, htransition, hcases⟩
    · cases heq.symm.trans h
      obtain ⟨hopens, hadded⟩ := decodePrimary_ok hok
      exact ⟨hfirst, rfl, Or.inr ⟨decoded, rfl, ⟨keys, Or.inl hkeys, hopens⟩, hadded⟩⟩
    · cases heq.symm.trans h
      exact ⟨hfirst, rfl, Or.inl ⟨nofun, decodePrimary_error herr⟩⟩
    · -- the session keys have failed, and the transition keys are tried
      have hlist := decodePrimary_error herr
      have hsecond : Settles c (decodeFallback P env fallbackKeys packet
          (decodePrimary P env keys packet c).2).2 :=
        ⟨rfl, rfl, rfl, rfl, Or.inl rfl, Or.inl rfl⟩
      rcases hcases with ⟨decoded, hok, heq⟩ | ⟨e', e'', herr', heq⟩
      · cases heq.symm.trans h
        obtain ⟨hopens, hadded⟩ := decodeFallback_ok hok
        rw [hlist] at hadded
        exact ⟨hsecond, rfl,
          Or.inr ⟨decoded, rfl, ⟨fallbackKeys, Or.inr htransition, hopens⟩, hadded⟩⟩
      · cases heq.symm.trans h
        exact ⟨hsecond, rfl, Or.inl ⟨nofun, (decodeFallback_error herr').trans hlist⟩⟩

theorem expireTransition_settles (env : ClientEnv) (c : AivpnClient) :
    Settles c (expireTransition env c) ∧ (expireTransition env c).decoded = c.decoded ∧
      (expireTransition env c).mdhLen = c.mdhLen ∧
      (expireTransition env c).sessionKeys = c.sessionKeys := by
  rcases expireTransition_cases env c with hsame | hexpired
  · rw [hsame]
    exact ⟨Settles.refl c, rfl, rfl, rfl⟩
  · rw [hexpired]
    exact ⟨⟨rfl, rfl, rfl, rfl, Or.inl rfl, Or.inr rfl⟩, rfl, rfl, rfl⟩

/-- What a client accepts after the deadline, it accepts before. -/
theorem Accepts.of_expire {packet : Bytes} {decoded : DecodedPacket}
    (h : (expireTransition env c).Accepts P packet decoded) : c.Accepts P packet decoded := by
  obtain ⟨hsettles, -, hmdh, hsame⟩ := expireTransition_settles env c
  obtain ⟨keys, hkeys, hopens⟩ := h
  unfold OpensUnder at hopens
  rw [hmdh] at hopens
  refine ⟨keys, ?_, hopens⟩
  rcases hkeys with hkeys | hkeys
  · exact Or.inl (hsame ▸ hkeys)
  · rcases hsettles.transition with heq | heq
    · exact Or.inr (heq ▸ hkeys)
    · cases heq.symm.trans hkeys

theorem verifyHello_congr (hconfig : c'.config = c.config) (hkeypair : c'.keypair = c.keypair)
    (serverEphPub : Key) (signature : ByteArr 64) :
    verifyHello P c' serverEphPub signature = verifyHello P c serverEphPub signature := by
  unfold verifyHello
  rw [hconfig, hkeypair]

/-- What a received datagram does to the keys. -/
theorem receive_accepts {packet : Bytes}
    (hc : c' = (receiveAndWritePacketWithMdh P env packet c).2) :
    (Settles c c' ∧ c'.decoded = c.decoded) ∨
    ∃ decoded, c.Accepts P packet decoded ∧ c'.decoded = packet :: c.decoded ∧
      (Settles c c' ∨ c.TakesHello P env packet ∧ ∃ current serverEphPub,
        IsHello decoded serverEphPub ∧ Rekeys P c c' current serverEphPub) := by
  obtain ⟨hexpire, hlist, -, hkeys⟩ := expireTransition_settles env c
  obtain ⟨r, c₁, hdec, hcases⟩ := receive_cases P env packet c
  obtain ⟨hsettles, hkeys₁, haccepts⟩ := decodePacket_accepts hdec
  have h₁ := hexpire.trans hsettles
  have hdisconnect : (disconnect P env c₁).decoded = c₁.decoded :=
    decoded_of_view (c := c₁.clearKeys) (disconnect_recvView c₁)
  have hclear : Settles c₁ (disconnect P env c₁) := settles_of_clear (disconnect_recvView c₁)
  rcases haccepts with ⟨hnone, hlist₁⟩ | ⟨decoded, hok, haccept, hlist₁⟩
  · have hsame := hlist₁.trans hlist
    rcases hcases with heq | ⟨newMask, heq⟩ | heq | ⟨decoded, _, _, _, _, hok, -⟩
    · rw [hc, heq]
      exact Or.inl ⟨h₁, hsame⟩
    · rw [hc, heq]
      exact Or.inl ⟨h₁.trans (settles_of_view rfl), hsame⟩
    · rw [hc, heq]
      exact Or.inl ⟨h₁.trans hclear, hdisconnect.trans hsame⟩
    · exact absurd hok (hnone decoded)
  · refine Or.inr ⟨decoded, haccept.of_expire, ?_⟩
    have hadded := hlist₁.trans (congrArg (List.cons packet) hlist)
    rcases hcases with heq | ⟨newMask, heq⟩ | heq |
      ⟨decoded', serverEphPub, signature, dh2, current, hok', htype, hctl, hverify, hdh2, hcurrent,
        heq⟩
    · rw [hc, heq]
      exact ⟨hadded, Or.inl h₁⟩
    · rw [hc, heq]
      exact ⟨hadded, Or.inl (h₁.trans (settles_of_view rfl))⟩
    · rw [hc, heq]
      exact ⟨hdisconnect.trans hadded, Or.inl (h₁.trans hclear)⟩
    · cases hok.symm.trans hok'
      -- the checks read the configuration and the key pair, which stay
      have htakes : c.TakesHello P env packet := by
        refine ⟨decoded, serverEphPub, signature, dh2, ?_, htype, hctl, ?_, ?_⟩
        · rw [hdec]
          exact hok
        · rwa [verifyHello_congr h₁.config h₁.keypair] at hverify
        · rwa [h₁.keypair] at hdh2
      obtain rfl := computeShared_eq hdh2
      have hinput : (⟨P.x25519 c₁.keypair.privateKeyBytes serverEphPub, some current.sessionKey,
          c₁.keypair.publicKeyBytes⟩ : KdfInput) = c.helloInput P current serverEphPub := by
        rw [h₁.keypair]
        rfl
      rw [hc, heq, hinput]
      refine ⟨hadded, Or.inr ⟨htakes, current, serverEphPub, ⟨htype, signature, hctl⟩, ?_⟩⟩
      exact {
        config := h₁.config
        keypair := h₁.keypair
        before := hkeys.symm.trans (hkeys₁.symm.trans hcurrent)
        kdfInputs := congrArg (List.cons (c.helloInput P current serverEphPub)) h₁.kdfInputs
        hellos := congrArg (· + 1) h₁.hellos
        keys := Or.inl rfl
        transition := Or.inl hcurrent }

/-- What the step of a received datagram does to the keys. -/
theorem step_receive {packet : Bytes} (hc : c' = step P c (env, .receive packet)) :
    (Settles c c' ∧ c'.decoded = c.decoded) ∨
    c.stage = .running ∧ ∃ decoded, c.Accepts P packet decoded ∧
      c'.decoded = packet :: c.decoded ∧
      (Settles c c' ∨ c.TakesHello P env packet ∧ ∃ current serverEphPub,
        IsHello decoded serverEphPub ∧ Rekeys P c c' current serverEphPub) := by
  subst hc
  simp only [step]
  split_ifs with hstage
  · have hreceive := @receive_accepts P env c _ packet rfl
    generalize receiveAndWritePacketWithMdh P env packet c = x at hreceive ⊢
    -- the main loop may end, which drops the keys
    have hafter : Settles x.2 (afterReceive P env x) ∧
        (afterReceive P env x).decoded = x.2.decoded := by
      rcases afterReceive_recvView P env x with hview | hview
      · exact ⟨settles_of_view hview, decoded_of_view hview⟩
      · exact ⟨settles_of_clear hview, decoded_of_view (c := x.2.clearKeys) hview⟩
    rw [hafter.2]
    rcases hreceive with ⟨hsettles, hlist⟩ | ⟨decoded, haccept, hlist, hcases⟩
    · exact Or.inl ⟨hsettles.trans hafter.1, hlist⟩
    · refine Or.inr ⟨hstage, decoded, haccept, hlist, ?_⟩
      rcases hcases with hsettles | ⟨htakes, current, serverEphPub, hhello, hrekeys⟩
      · exact Or.inl (hsettles.trans hafter.1)
      · exact Or.inr ⟨htakes, current, serverEphPub, hhello, hrekeys.trans hafter.1⟩
  · exact Or.inl ⟨Settles.refl c, rfl⟩

/-- A datagram that is taken for a ServerHello ratchets the keys. -/
theorem step_of_takesHello {packet : Bytes} (hstage : c.stage = .running)
    (h : c.TakesHello P env packet) :
    ∃ current serverEphPub, c.sessionKeys = some current ∧
      (step P c (env, .receive packet)).log.kdfInputs =
        c.helloInput P current serverEphPub :: c.log.kdfInputs ∧
      (step P c (env, .receive packet)).sessionKeys =
        some ((c.helloInput P current serverEphPub).keys P) ∧
      (step P c (env, .receive packet)).hellos = c.hellos + 1 := by
  obtain ⟨decoded, serverEphPub, signature, dh2, hok, htype, hctl, hverify, hdh2⟩ := h
  obtain ⟨hexpire, -, -, hkeys⟩ := expireTransition_settles env c
  rcases hdec : decodePacket P env packet (expireTransition env c) with ⟨r, c₁⟩
  obtain ⟨hsettles, hkeys₁, -⟩ := decodePacket_accepts hdec
  have h₁ := hexpire.trans hsettles
  rw [hdec] at hok
  subst hok
  obtain ⟨current, hcurrent⟩ : ∃ current, (expireTransition env c).sessionKeys = some current := by
    rcases decodePacket_cases P env packet (expireTransition env c) with
      ⟨e, -, heq⟩ | ⟨keys, hsome, -⟩
    · cases hdec.symm.trans heq
    · exact ⟨keys, hsome⟩
  -- every check of the hello passes, so that the packet is taken and the keys are ratcheted
  have hreceive : receiveAndWritePacketWithMdh P env packet c = (.ok (), ratchet P env
      ⟨dh2, some current.sessionKey, c₁.keypair.publicKeyBytes⟩ c₁) := by
    unfold receiveAndWritePacketWithMdh
    rw [bind_of_ok (modify_apply _ _), bind_of_ok hdec]
    simp only [htype]
    rw [hctl, bind_of_ok (ofExec_apply _ _)]
    show handleServerHello P env serverEphPub signature c₁ = _
    unfold handleServerHello
    rw [bind_of_ok (gets_apply _ _)]
    simp only [id_eq]
    rw [verifyHello_congr h₁.config h₁.keypair, hverify, bind_of_ok (ofExcept_ok _ _), h₁.keypair,
      hdh2, bind_of_ok (ofExcept_ok _ _), hkeys₁, hcurrent]
    simp only [modify_apply]
  obtain rfl := computeShared_eq hdh2
  have hstep : step P c (env, .receive packet) = ratchet P env
      (c.helloInput P current serverEphPub) c₁ := by
    simp only [step, if_pos hstage, hreceive, afterReceive, h₁.keypair]
    rfl
  rw [hstep]
  exact ⟨current, serverEphPub, hkeys.symm.trans hcurrent, congrArg _ h₁.kdfInputs, rfl,
    congrArg (· + 1) h₁.hellos⟩

/-! ## The other steps -/

theorem connect_connects (P : Primitives) (env : ClientEnv) (h : c.Untouched) :
    (connect P env c).2.decoded = c.decoded ∧
      (Settles c (connect P env c).2 ∨ Connects P c (connect P env c).2) := by
  unfold connect
  rw [bind_of_ok (modify_apply _ _)]
  split_ifs
  · rw [bind_of_ok (modify_apply _ _), bind_of_ok (gets_apply _ _)]
    simp only [id_eq]
    cases hdh : P.computeShared c.keypair c.config.serverPublicKey with
    | error e => exact ⟨rfl, Or.inl ⟨rfl, rfl, rfl, rfl, Or.inl rfl, Or.inl rfl⟩⟩
    | ok dhResult =>
        obtain rfl := computeShared_eq hdh
        have hview := h
        simp only [Untouched, recvView, new, SendLog.empty, Prod.mk.injEq] at hview
        obtain ⟨-, -, hinputs, -, htransition, -, -, -, -, hhellos, -⟩ := hview
        exact ⟨rfl, Or.inr ⟨rfl, rfl, h, congrArg _ hinputs, hhellos, rfl, htransition⟩⟩
  · exact ⟨rfl, Or.inl ⟨rfl, rfl, rfl, rfl, Or.inl rfl, Or.inl rfl⟩⟩

theorem startUpload_settles (c : AivpnClient) :
    Settles c (startUpload c).2 ∧ (startUpload c).2.decoded = c.decoded := by
  have hsame : Settles c c ∧ c.decoded = c.decoded := ⟨Settles.refl c, rfl⟩
  unfold startUpload
  rw [bind_of_ok (gets_apply _ _)]
  simp only [id_eq]
  cases c.sessionKeys with
  | none => exact hsame
  | some keys =>
      cases c.mimicryEngine with
      | none => exact hsame
      | some engine => exact ⟨⟨rfl, rfl, rfl, rfl, Or.inl rfl, Or.inl rfl⟩, rfl⟩

theorem afterUpload_settles (P : Primitives) (env : ClientEnv) (innerType : InnerType)
    (payload : Bytes) (c : AivpnClient) :
    Settles c (afterUpload P env (encryptUpload P env innerType payload c)) ∧
      (afterUpload P env (encryptUpload P env innerType payload c)).decoded = c.decoded := by
  have hkeeps := congrArg Prod.snd (keeps_frame_encryptUpload P env innerType payload c)
  rcases afterUpload_recvView P env (encryptUpload P env innerType payload c) with hview | hview
  · have hsame := hview.trans hkeeps
    exact ⟨settles_of_view hsame, decoded_of_view hsame⟩
  · have hclear := hview.trans (clearKeys_congr hkeeps)
    exact ⟨settles_of_clear hclear, decoded_of_view (c := c.clearKeys) hclear⟩

/-- The other steps accept nothing, and derive keys in `connect` only. -/
theorem step_other {e : ClientEnv × Event} (hstart : c.stage = .start → c.Untouched)
    (he : ∀ packet, e.2 ≠ .receive packet) :
    (step P c e).decoded = c.decoded ∧ (Settles c (step P c e) ∨ Connects P c (step P c e)) := by
  obtain ⟨env, event⟩ := e
  have hsame : c.decoded = c.decoded ∧ (Settles c c ∨ Connects P c c) :=
    ⟨rfl, Or.inl (Settles.refl c)⟩
  cases event with
  | connect =>
      simp only [step]
      split_ifs with hstage
      · have hconnect := connect_connects P env (hstart hstage)
        generalize connect P env c = x at hconnect ⊢
        have hview := advance_recvView .connected x
        rw [decoded_of_view hview]
        refine ⟨hconnect.1, ?_⟩
        refine hconnect.2.imp (fun h => h.trans (settles_of_view hview)) fun h => ?_
        simp only [recvView, Prod.mk.injEq] at hview
        obtain ⟨hconfig, hkeypair, hinputs, hkeys, htransition, -, -, -, -, hhellos, -⟩ := hview
        exact ⟨hconfig.trans h.config, hkeypair.trans h.keypair, h.untouched,
          hinputs.trans h.kdfInputs, hhellos.trans h.hellos, hkeys.trans h.keys,
          htransition.trans h.transition⟩
      · exact hsame
  | sendInit =>
      simp only [step]
      split_ifs
      · have hview := (advance_recvView .initSent (sendInit P env c)).trans
          (congrArg Prod.snd (keeps_frame_sendInit c))
        exact ⟨decoded_of_view hview, Or.inl (settles_of_view hview)⟩
      · exact hsame
  | startUpload =>
      simp only [step]
      split_ifs
      · have hview := advance_recvView .running (startUpload c)
        obtain ⟨hsettles, hlist⟩ := startUpload_settles c
        exact ⟨(decoded_of_view hview).trans hlist,
          Or.inl (hsettles.trans (settles_of_view hview))⟩
      · exact hsame
  | data payload =>
      obtain ⟨hsettles, hlist⟩ := afterUpload_settles P env .data payload c
      exact ⟨hlist, Or.inl hsettles⟩
  | keepalive =>
      obtain ⟨hsettles, hlist⟩ := afterUpload_settles P env .control
        ControlPayload.keepalive.encode c
      exact ⟨hlist, Or.inl hsettles⟩
  | updateFsm padding => exact ⟨rfl, Or.inl ⟨rfl, rfl, rfl, rfl, Or.inl rfl, Or.inl rfl⟩⟩
  | receive packet => exact absurd rfl (he packet)
  | shutdown =>
      simp only [step]
      split_ifs
      · have hview : (AivpnClient.finish P env c).recvView = c.clearKeys.recvView :=
          finish_recvView c
        exact ⟨decoded_of_view (c := c.clearKeys) hview, Or.inl (settles_of_clear hview)⟩
      · exact hsame

/-- What a step does to the keys of the client: none are derived, or one more input is. -/
theorem step_inputs (e : ClientEnv × Event) (hstart : c.stage = .start → c.Untouched) :
    (step P c e).keypair = c.keypair ∧ ((step P c e).log.kdfInputs = c.log.kdfInputs ∨
      ∃ i, i.ephPub = c.keypair.publicKeyBytes ∧
        (step P c e).log.kdfInputs = i :: c.log.kdfInputs) := by
  have hother : (∀ packet, e.2 ≠ .receive packet) → (step P c e).keypair = c.keypair ∧
      ((step P c e).log.kdfInputs = c.log.kdfInputs ∨ ∃ i, i.ephPub = c.keypair.publicKeyBytes ∧
        (step P c e).log.kdfInputs = i :: c.log.kdfInputs) := by
    intro he
    rcases (step_other (P := P) hstart he).2 with h | h
    · exact ⟨h.keypair, Or.inl h.kdfInputs⟩
    · have hview := h.untouched
      simp only [Untouched, recvView, new, SendLog.empty, Prod.mk.injEq] at hview
      exact ⟨h.keypair, Or.inr ⟨c.initialInput P, rfl, by rw [h.kdfInputs, hview.2.2.1]⟩⟩
  obtain ⟨env, event⟩ := e
  cases event with
  | receive packet =>
      rcases @step_receive P env c _ packet rfl with
        ⟨h, -⟩ | ⟨-, decoded, -, -, h | ⟨-, current, serverEphPub, -, h⟩⟩
      · exact ⟨h.keypair, Or.inl h.kdfInputs⟩
      · exact ⟨h.keypair, Or.inl h.kdfInputs⟩
      · exact ⟨h.keypair, Or.inr ⟨_, rfl, h.kdfInputs⟩⟩
  | _ => exact hother fun packet h => by cases h

/-- A step keeps the chain of keys. -/
theorem ChainInv.step (h : c.ChainInv P) (e : ClientEnv × Event)
    (hstart : c.stage = .start → c.Untouched) : (step P c e).ChainInv P := by
  have hchanges : RecvChanges P (fun _ _ _ _ => True) c (AivpnClient.step P c e) :=
    step_changes hstart fun _ _ _ => ⟨fun _ => trivial, fun _ => trivial⟩
  generalize AivpnClient.step P c e = c' at hchanges ⊢
  induction hchanges with
  | refl => exact h
  | tail _ hlast ih => exact ih.change hlast

end AivpnClient

end Aivpn
