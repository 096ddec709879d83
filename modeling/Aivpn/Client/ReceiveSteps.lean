import Aivpn.Client.SendOrder

/-!
# What a step does to the receiving side

The receiving side of the command line client is its keys, its two receive windows and what belongs
to them (`recvView`). Packets that the client sends do not touch it. `decodePacket_cases` and
`receive_cases` say what a datagram does, and `step_cases` what any step does; the invariants of the
receiving side are proved from these cases.
-/

set_option autoImplicit false

namespace Aivpn

open Aivpn.Lib

namespace AivpnClient

open Action

/-- The receiving side of the client. -/
def recvView (c : AivpnClient) :=
  (c.config, c.keypair, c.log.kdfInputs, c.sessionKeys, c.transitionRecvKeys,
    c.transitionRecvDeadline, c.recvWindow, c.transitionRecvWindow, c.mdhLen, c.hellos, c.decoded)

/-- What sending leaves alone. -/
def frame (c : AivpnClient) := (c.stage, c.recvView)

variable {P : Primitives} {env : ClientEnv}

/-! ## Sending -/

theorem keeps_frame_sendPacket (packet : Bytes) : Keeps frame (sendPacket env packet) := by
  unfold sendPacket
  split_ifs
  · exact keeps_modify fun _ => rfl
  · exact keeps_throw _

theorem keeps_frame_buildPacket (engine : MimicryEngine) (inner : Bytes) (keys : SessionKeys)
    (counter : Nat) (ephPub : Option Key) :
    Keeps frame (buildPacket P env engine inner keys counter ephPub) := by
  refine Keeps.bind (keeps_ofExec _) fun _ => ?_
  exact Keeps.bind (keeps_modify fun _ => rfl) fun _ => keeps_ofExec _

theorem keeps_frame_sendOwn (engine : MimicryEngine) (payload : ControlPayload)
    (keys : SessionKeys) (ephPub : Option Key) :
    Keeps frame (sendOwn P env engine payload keys ephPub) := by
  refine Keeps.bind (keeps_gets _) fun c => ?_
  refine Keeps.bind (keeps_modify fun _ => rfl) fun _ => ?_
  refine Keeps.bind (keeps_frame_buildPacket _ _ _ _ _) fun _ => ?_
  exact Keeps.bind (keeps_modify fun _ => rfl) fun _ => keeps_frame_sendPacket _

theorem keeps_frame_sendInit : Keeps frame (sendInit P env) := by
  refine Keeps.bind (keeps_gets _) fun c => ?_
  cases c.sessionKeys with
  | none => exact keeps_throw _
  | some keys =>
      cases c.mimicryEngine with
      | none => exact keeps_throw _
      | some engine => exact keeps_frame_sendOwn _ _ _ _

theorem keeps_frame_encryptUpload (P : Primitives) (env : ClientEnv) (innerType : InnerType)
    (payload : Bytes) :
    Keeps frame (encryptUpload P env innerType payload) := by
  refine Keeps.bind (keeps_gets _) fun c => ?_
  cases c.upload with
  | none => exact keeps_pure _
  | some task =>
      refine Keeps.bind (keeps_frame_buildPacket _ _ _ _ _) fun _ => ?_
      refine Keeps.bind (keeps_modify fun _ => rfl) fun _ => ?_
      split_ifs
      · exact keeps_modify fun _ => rfl
      · exact keeps_pure _

theorem keeps_frame_sendControl (payload : ControlPayload) :
    Keeps frame (sendControl P env payload) := by
  refine Keeps.bind (keeps_gets _) fun c => ?_
  cases c.mimicryEngine with
  | none => exact keeps_throw _
  | some engine =>
      cases c.sharedUpload with
      | some task =>
          refine Keeps.bind (keeps_frame_buildPacket _ _ _ _ _) fun _ => ?_
          exact Keeps.bind (keeps_modify fun _ => rfl) fun _ => keeps_frame_sendPacket _
      | none =>
          cases c.sessionKeys with
          | none => exact keeps_throw _
          | some keys => exact keeps_frame_sendOwn _ _ _ _

/-- What is cleared depends on the receiving side only. -/
theorem clearKeys_congr {c c' : AivpnClient} (h : c'.recvView = c.recvView) :
    c'.clearKeys.recvView = c.clearKeys.recvView := by
  simp only [recvView, clearKeys, Prod.mk.injEq] at h ⊢
  obtain ⟨h1, h2, h3, -, -, -, h7, h8, h9, h10, h11⟩ := h
  exact ⟨h1, h2, h3, trivial, trivial, trivial, h7, h8, h9, h10, h11⟩

theorem disconnect_recvView (c : AivpnClient) :
    (disconnect P env c).recvView = c.clearKeys.recvView := by
  unfold disconnect
  split_ifs
  · exact clearKeys_congr (congrArg Prod.snd (keeps_frame_sendControl _ c))
  · rfl

theorem finish_recvView (c : AivpnClient) : (finish P env c).recvView = c.clearKeys.recvView :=
  disconnect_recvView c

/-! ## Receiving -/

/-- What the decoder does under the keys of the client: nothing without keys, else the session keys
are tried, and when they fail the transition keys. -/
theorem decodePacket_cases (P : Primitives) (env : ClientEnv) (packet : Bytes)
    (c : AivpnClient) :
    (∃ e, c.sessionKeys = none ∧ decodePacket P env packet c = (.error e, c)) ∨
    ∃ keys, c.sessionKeys = some keys ∧
      ((∃ decoded, (decodePrimary P env keys packet c).1 = .ok decoded ∧
        decodePacket P env packet c = (.ok decoded, (decodePrimary P env keys packet c).2)) ∨
      (∃ e e', (decodePrimary P env keys packet c).1 = .error e ∧
        decodePacket P env packet c = (.error e', (decodePrimary P env keys packet c).2)) ∨
      ∃ e fallbackKeys, (decodePrimary P env keys packet c).1 = .error e ∧
        c.transitionRecvKeys = some fallbackKeys ∧
        ((∃ decoded, (decodeFallback P env fallbackKeys packet
            (decodePrimary P env keys packet c).2).1 = .ok decoded ∧
          decodePacket P env packet c = (.ok decoded,
            (decodeFallback P env fallbackKeys packet (decodePrimary P env keys packet c).2).2)) ∨
        ∃ e' e'', (decodeFallback P env fallbackKeys packet
            (decodePrimary P env keys packet c).2).1 = .error e' ∧
          decodePacket P env packet c = (.error e'',
            (decodeFallback P env fallbackKeys packet
              (decodePrimary P env keys packet c).2).2))) := by
  unfold decodePacket
  rw [bind_of_ok (gets_apply _ _)]
  simp only [id_eq]
  cases hkeys : c.sessionKeys with
  | none => exact Or.inl ⟨_, rfl, rfl⟩
  | some keys =>
      refine Or.inr ⟨keys, rfl, ?_⟩
      simp only
      rw [bind_of_ok (update_apply _ _)]
      rcases hprimary : decodePrimary P env keys packet c with ⟨r, c₁⟩
      rcases r with (e | _) | decoded
      -- the fallback keys are tried only where the current keys have failed
      · cases htrans : c.transitionRecvKeys with
        | none => exact Or.inr (Or.inl ⟨_, _, rfl, rfl⟩)
        | some fallbackKeys =>
            -- the window of the current keys is written back before the fallback keys are tried
            refine Or.inr (Or.inr ⟨_, fallbackKeys, rfl, rfl, ?_⟩)
            simp only
            rw [bind_of_ok (update_apply _ _)]
            rcases hfallback : decodeFallback P env fallbackKeys packet c₁ with ⟨r', c₂⟩
            rcases r' with (e' | _) | decoded
            · exact Or.inr ⟨_, _, rfl, rfl⟩
            · exact Or.inr ⟨_, _, rfl, rfl⟩
            · exact Or.inl ⟨decoded, rfl, rfl⟩
      · exact Or.inr (Or.inl ⟨_, _, rfl, rfl⟩)
      · exact Or.inl ⟨decoded, rfl, rfl⟩

/-- A ServerHello ratchets the keys, or is refused. -/
theorem handleServerHello_cases (serverEphPub : Key) (signature : ByteArr 64) (c : AivpnClient) :
    (handleServerHello P env serverEphPub signature c).2 = c ∨
    ∃ dh2 current, verifyHello P c serverEphPub signature = .ok () ∧
      P.computeShared c.keypair serverEphPub = .ok dh2 ∧ c.sessionKeys = some current ∧
      (handleServerHello P env serverEphPub signature c).2 =
        ratchet P env ⟨dh2, some current.sessionKey, c.keypair.publicKeyBytes⟩ c := by
  unfold handleServerHello
  rw [bind_of_ok (gets_apply _ _)]
  simp only [id_eq]
  cases verifyHello P c serverEphPub signature with
  | error e => exact Or.inl rfl
  | ok _ =>
      rw [bind_of_ok (ofExcept_ok _ _)]
      cases P.computeShared c.keypair serverEphPub with
      | error e => exact Or.inl rfl
      | ok dh2 =>
          rw [bind_of_ok (ofExcept_ok _ _)]
          cases c.sessionKeys with
          | none => exact Or.inl rfl
          | some current => exact Or.inr ⟨dh2, current, rfl, rfl, rfl, rfl⟩

/-- What a datagram does: the transition keys may expire, the decoder moves the windows, and then a
shutdown message clears the keys or a ServerHello ratchets them. -/
theorem receive_cases (P : Primitives) (env : ClientEnv) (packet : Bytes) (c : AivpnClient) :
    ∃ r c₁, decodePacket P env packet (expireTransition env c) = (r, c₁) ∧
      ((receiveAndWritePacketWithMdh P env packet c).2 = c₁ ∨
      (∃ newMask, (receiveAndWritePacketWithMdh P env packet c).2 = updateMask newMask c₁) ∨
      (receiveAndWritePacketWithMdh P env packet c).2 = disconnect P env c₁ ∨
      ∃ decoded serverEphPub signature dh2 current, r = .ok decoded ∧
        decoded.header.innerType = .control ∧
        ControlPayload.decode decoded.payload = .ok (.serverHello serverEphPub signature) ∧
        verifyHello P c₁ serverEphPub signature = .ok () ∧
        P.computeShared c₁.keypair serverEphPub = .ok dh2 ∧ c₁.sessionKeys = some current ∧
        (receiveAndWritePacketWithMdh P env packet c).2 =
          ratchet P env ⟨dh2, some current.sessionKey, c₁.keypair.publicKeyBytes⟩ c₁) := by
  rcases hdec : decodePacket P env packet (expireTransition env c) with ⟨r, c₁⟩
  refine ⟨r, c₁, rfl, ?_⟩
  unfold receiveAndWritePacketWithMdh
  rw [bind_of_ok (modify_apply _ _)]
  cases r with
  | error e =>
      rw [bind_of_error hdec]
      exact Or.inl rfl
  | ok decoded =>
      rw [bind_of_ok hdec]
      cases htype : decoded.header.innerType with
      | data =>
          simp only
          split_ifs <;> exact Or.inl rfl
      | fragment => exact Or.inl rfl
      | ack => exact Or.inl rfl
      -- what a control message changes is its own; the other packets only move the window
      | control =>
          simp only
          cases hctl : ControlPayload.decode decoded.payload with
          | error e => exact Or.inl rfl
          | ok control =>
              rw [bind_of_ok (ofExec_apply _ _)]
              cases control with
              | serverHello serverEphPub signature =>
                  rcases handleServerHello_cases serverEphPub signature c₁ with
                    hkeep | ⟨dh2, current, hverify, hdh2, hkeys, heq⟩
                  · exact Or.inl hkeep
                  · exact Or.inr (Or.inr (Or.inr ⟨decoded, serverEphPub, signature, dh2, current,
                      rfl, htype, hctl, hverify, hdh2, hkeys, heq⟩))
              | shutdown reason => exact Or.inr (Or.inr (Or.inl rfl))
              | maskUpdate maskData signature =>
                  exact (handleMaskUpdate_cases env maskData c₁).imp_right Or.inl
              | keyRotate newEphPub => exact Or.inl rfl
              | keepalive => exact Or.inl rfl
              | timeSync serverTsMs => exact Or.inl rfl
              | telemetryRequest metricFlags => exact Or.inl rfl
              | telemetryResponse packetLoss rttMs jitterMs bufferPct => exact Or.inl rfl
              | controlAck ackSeq ackForSubtype => exact Or.inl rfl

theorem afterReceive_recvView (P : Primitives) (env : ClientEnv)
    (x : Outcome Unit × AivpnClient) :
    (afterReceive P env x).recvView = x.2.recvView ∨
      (afterReceive P env x).recvView = x.2.clearKeys.recvView := by
  unfold afterReceive
  split
  · exact Or.inl rfl
  · exact Or.inl rfl
  · exact Or.inr (finish_recvView _)
  · exact Or.inl rfl

theorem afterUpload_recvView (P : Primitives) (env : ClientEnv) (x : Outcome Unit × AivpnClient) :
    (afterUpload P env x).recvView = x.2.recvView ∨
      (afterUpload P env x).recvView = x.2.clearKeys.recvView := by
  unfold afterUpload
  split
  · exact Or.inl rfl
  · exact Or.inr (finish_recvView _)

theorem advance_recvView (next : Stage) (x : Outcome Unit × AivpnClient) :
    (advance next x).recvView = x.2.recvView := by
  unfold advance
  split <;> rfl

/-! ## Steps -/

/-- The client with the keys of `connect`. -/
def withInitialKeys (P : Primitives) (c : AivpnClient) : AivpnClient :=
  { c with
    sessionKeys := some ((c.initialInput P).keys P)
    log := c.log.rekey (c.initialInput P) }

/-- The receiving side is as `new` has made it. -/
def Untouched (c : AivpnClient) : Prop := c.recvView = (new c.config c.keypair).recvView

/-- The changes of the receiving side. `H` holds of the searches that are made: their time window,
their keys and window, and the datagram. -/
inductive RecvChange (P : Primitives) (H : Nat → SessionKeys → RecvWindow → Bytes → Prop) :
    AivpnClient → AivpnClient → Prop where
  | same {c c' : AivpnClient} (h : c'.recvView = c.recvView) : RecvChange P H c c'
  | clear (c : AivpnClient) : RecvChange P H c c.clearKeys
  | connect {c : AivpnClient} (h : c.Untouched) : RecvChange P H c (c.withInitialKeys P)
  | mdh (c : AivpnClient) (n : Nat) : RecvChange P H c { c with mdhLen := n }
  | expire (c : AivpnClient) (env : ClientEnv) : RecvChange P H c (expireTransition env c)
  | primary {c : AivpnClient} {keys : SessionKeys} (env : ClientEnv) (packet : Bytes)
      (hkeys : c.sessionKeys = some keys) (hH : H env.timeWindow keys c.recvWindow packet) :
      RecvChange P H c (decodePrimary P env keys packet c).2
  | fallback {c : AivpnClient} {keys : SessionKeys} (env : ClientEnv) (packet : Bytes)
      (hkeys : c.transitionRecvKeys = some keys)
      (hH : H env.timeWindow keys c.transitionRecvWindow packet) :
      RecvChange P H c (decodeFallback P env keys packet c).2
  | ratchet {c : AivpnClient} {current : SessionKeys} {dh2 : Key} (env : ClientEnv)
      (hkeys : c.sessionKeys = some current) :
      RecvChange P H c
        (ratchet P env ⟨dh2, some current.sessionKey, c.keypair.publicKeyBytes⟩ c)

/-- `H` holds of the searches that a step makes. -/
def Searches (H : Nat → SessionKeys → RecvWindow → Bytes → Prop) (c : AivpnClient)
    (e : ClientEnv × Event) : Prop :=
  ∀ packet, e.2 = .receive packet → ∀ keys,
    (c.sessionKeys = some keys → H e.1.timeWindow keys c.recvWindow packet) ∧
    ((expireTransition e.1 c).transitionRecvKeys = some keys →
      H e.1.timeWindow keys c.transitionRecvWindow packet)

section

variable {H : Nat → SessionKeys → RecvWindow → Bytes → Prop}

/-- The receiving side makes changes, one after the other. -/
abbrev RecvChanges (P : Primitives) (H : Nat → SessionKeys → RecvWindow → Bytes → Prop) :
    AivpnClient → AivpnClient → Prop := Relation.ReflTransGen (RecvChange P H)

theorem recvChanges_same {c c' : AivpnClient} (h : c'.recvView = c.recvView) :
    RecvChanges P H c c' :=
  Relation.ReflTransGen.single (RecvChange.same h)

theorem recvChanges_clear {c c' : AivpnClient} (h : c'.recvView = c.clearKeys.recvView) :
    RecvChanges P H c c' :=
  (Relation.ReflTransGen.single (RecvChange.clear c)).trans (recvChanges_same h)

theorem connect_changes {c : AivpnClient} (h : c.Untouched) :
    RecvChanges P H c (connect P env c).2 := by
  unfold connect
  rw [bind_of_ok (modify_apply _ _)]
  split_ifs
  · rw [bind_of_ok (modify_apply _ _), bind_of_ok (gets_apply _ _)]
    simp only [id_eq]
    cases hdh : P.computeShared c.keypair c.config.serverPublicKey with
    | error e => exact recvChanges_same rfl
    | ok dhResult =>
        obtain rfl := computeShared_eq hdh
        refine (Relation.ReflTransGen.single (RecvChange.connect h)).trans ?_
        exact recvChanges_same rfl
  · exact recvChanges_same rfl

theorem startUpload_changes (c : AivpnClient) : RecvChanges P H c (startUpload c).2 := by
  unfold startUpload
  rw [bind_of_ok (gets_apply _ _)]
  simp only [id_eq]
  cases hkeys : c.sessionKeys with
  | none => exact recvChanges_same rfl
  | some keys =>
      cases c.mimicryEngine with
      | none => exact recvChanges_same rfl
      | some engine =>
          refine (Relation.ReflTransGen.single
            (RecvChange.mdh c engine.mask.headerTemplate.length)).trans ?_
          exact recvChanges_same (by simp only [modify_apply, recvView, hkeys])

theorem decodePacket_changes {packet : Bytes} {c : AivpnClient}
    (hprimary : ∀ keys, c.sessionKeys = some keys → H env.timeWindow keys c.recvWindow packet)
    (hfallback : ∀ keys, c.transitionRecvKeys = some keys →
      H env.timeWindow keys c.transitionRecvWindow packet) :
    RecvChanges P H c (decodePacket P env packet c).2 := by
  rcases decodePacket_cases P env packet c with
    ⟨e, -, heq⟩ | ⟨keys, hkeys, hcases⟩
  · rw [heq]
  · have hfirst : RecvChanges P H c (decodePrimary P env keys packet c).2 :=
      Relation.ReflTransGen.single (RecvChange.primary env packet hkeys (hprimary keys hkeys))
    -- the session keys leave the transition keys and their window alone
    have hsecond : ∀ fallbackKeys, c.transitionRecvKeys = some fallbackKeys →
        RecvChanges P H c (decodeFallback P env fallbackKeys packet
          (decodePrimary P env keys packet c).2).2 := fun fallbackKeys hold =>
      hfirst.tail (RecvChange.fallback env packet hold (hfallback fallbackKeys hold))
    rcases hcases with ⟨decoded, -, heq⟩ | ⟨e, e', -, heq⟩ |
      ⟨e, fallbackKeys, -, hold, ⟨decoded, -, heq⟩ | ⟨e', e'', -, heq⟩⟩
    · rw [heq]
      exact hfirst
    · rw [heq]
      exact hfirst
    · rw [heq]
      exact hsecond fallbackKeys hold
    · rw [heq]
      exact hsecond fallbackKeys hold

/-- Before the deadline nothing expires; then the transition keys go with their window. -/
theorem expireTransition_cases (env : ClientEnv) (c : AivpnClient) :
    expireTransition env c = c ∨ expireTransition env c = { c with
      transitionRecvKeys := none
      transitionRecvDeadline := none
      transitionRecvWindow := RecvWindow.new } := by
  unfold expireTransition
  split
  · exact Or.inl rfl
  · split_ifs
    · exact Or.inr rfl
    · exact Or.inl rfl

theorem receive_changes {packet : Bytes} {c : AivpnClient}
    (hH : Searches H c (env, .receive packet)) :
    RecvChanges P H c (receiveAndWritePacketWithMdh P env packet c).2 := by
  have hexpire : RecvChanges P H c (expireTransition env c) :=
    Relation.ReflTransGen.single (RecvChange.expire c env)
  have hdecode : RecvChanges P H (expireTransition env c)
      (decodePacket P env packet (expireTransition env c)).2 := by
    apply decodePacket_changes
    · intro keys hkeys
      -- the expiry drops the fallback keys only, so that the current keys search the same window
      rcases expireTransition_cases env c with hsame | hexpired
      · rw [hsame] at hkeys ⊢
        exact (hH packet rfl keys).1 hkeys
      · rw [hexpired] at hkeys ⊢
        exact (hH packet rfl keys).1 hkeys
    · intro keys hkeys
      rcases expireTransition_cases env c with hsame | hexpired
      · have hwindow := (hH packet rfl keys).2 hkeys
        rwa [hsame]
      · rw [hexpired] at hkeys
        cases hkeys
  obtain ⟨r, c₁, hdec, hcases⟩ := receive_cases P env packet c
  rw [hdec] at hdecode
  have h₁ := hexpire.trans hdecode
  -- only a `ServerHello` that checks out ratchets; `Shutdown` clears, and the rest keep the keys
  rcases hcases with heq | ⟨newMask, heq⟩ | heq | ⟨_, _, _, dh2, current, -, -, -, -, -, hkeys, heq⟩
  · rw [heq]
    exact h₁
  · rw [heq]
    exact h₁.trans (recvChanges_same rfl)
  · rw [heq]
    exact h₁.trans (recvChanges_clear (disconnect_recvView c₁))
  · rw [heq]
    exact h₁.tail (RecvChange.ratchet env hkeys)

theorem afterUpload_changes (innerType : InnerType) (payload : Bytes) (c : AivpnClient) :
    RecvChanges P H c (afterUpload P env (encryptUpload P env innerType payload c)) := by
  have hkeeps := congrArg Prod.snd
    (keeps_frame_encryptUpload P env innerType payload c)
  rcases afterUpload_recvView P env
    (encryptUpload P env innerType payload c) with h | h
  · exact recvChanges_same (h.trans hkeeps)
  · exact recvChanges_clear (h.trans (clearKeys_congr hkeeps))

/-- What a step does to the receiving side. -/
theorem step_changes {c : AivpnClient} {e : ClientEnv × Event}
    (hstart : c.stage = .start → c.Untouched) (hH : Searches H c e) :
    RecvChanges P H c (step P c e) := by
  obtain ⟨env, event⟩ := e
  have hadvance : ∀ next (x : Outcome Unit × AivpnClient), RecvChanges P H c x.2 →
      RecvChanges P H c (advance next x) := fun next x h =>
    h.trans (recvChanges_same (advance_recvView next x))
  cases event with
  | connect =>
      simp only [step]
      split_ifs with hstage
      · exact hadvance _ _ (connect_changes (hstart hstage))
      · exact Relation.ReflTransGen.refl
  | sendInit =>
      simp only [step]
      split_ifs
      · exact hadvance _ _ (recvChanges_same (congrArg Prod.snd (keeps_frame_sendInit c)))
      · exact Relation.ReflTransGen.refl
  | startUpload =>
      simp only [step]
      split_ifs
      · exact hadvance _ _ (startUpload_changes c)
      · exact Relation.ReflTransGen.refl
  | data payload => exact afterUpload_changes .data payload c
  | keepalive => exact afterUpload_changes .control _ c
  | updateFsm padding => exact recvChanges_same rfl
  | receive packet =>
      simp only [step]
      split_ifs
      · have hreceive := receive_changes (P := P) hH
        rcases afterReceive_recvView P env
          (receiveAndWritePacketWithMdh P env packet c) with h | h
        · exact hreceive.trans (recvChanges_same h)
        · exact hreceive.trans (recvChanges_clear h)
      · exact Relation.ReflTransGen.refl
  | shutdown =>
      simp only [step]
      split_ifs
      · exact recvChanges_clear (finish_recvView c)
      · exact Relation.ReflTransGen.refl

end

/-! ## Runs -/

theorem disconnect_stage (c : AivpnClient) : (disconnect P env c).stage = c.stage := by
  unfold disconnect
  split_ifs
  · exact congrArg Prod.fst (keeps_frame_sendControl _ c)
  · rfl

/-- A datagram leaves the stage to `afterReceive`. -/
theorem receive_stage (packet : Bytes) (c : AivpnClient) :
    (receiveAndWritePacketWithMdh P env packet c).2.stage = c.stage := by
  have hdecode := keeps_sendView_decodePacket P env packet (expireTransition env c)
  rw [expireTransition_sendView] at hdecode
  simp only [sendView, Prod.mk.injEq] at hdecode
  obtain ⟨r, c₁, hdec, hcases⟩ := receive_cases P env packet c
  rw [hdec] at hdecode
  rcases hcases with heq | ⟨newMask, heq⟩ | heq | ⟨_, _, _, dh2, current, -, -, -, -, -, hkeys, heq⟩
  · rw [heq]
    exact hdecode.2.2.2.2.2
  · rw [heq]
    exact hdecode.2.2.2.2.2
  · rw [heq, disconnect_stage]
    exact hdecode.2.2.2.2.2
  · rw [heq]
    exact hdecode.2.2.2.2.2

theorem afterReceive_stage (P : Primitives) (env : ClientEnv) (x : Outcome Unit × AivpnClient) :
    (afterReceive P env x).stage = x.2.stage ∨ (afterReceive P env x).stage = .finished := by
  unfold afterReceive
  split
  · exact Or.inl rfl
  · exact Or.inl rfl
  · exact Or.inr rfl
  · exact Or.inr rfl

/-- A client that is still at the start has not touched its receiving side. -/
theorem start_of_step {c : AivpnClient} {e : ClientEnv × Event}
    (h : (step P c e).stage = .start) : c.stage = .start ∧ (step P c e).recvView = c.recvView := by
  obtain ⟨env, event⟩ := e
  have hadvance : ∀ next (x : Outcome Unit × AivpnClient), next ≠ .start →
      (advance next x).stage ≠ .start := by
    rintro next ⟨r, c'⟩ hnext
    cases r with
    | error e => simp [advance]
    | ok _ => exact hnext
  -- a client that sends is past its start, whatever the packet
  have hupload : ∀ innerType payload,
      (afterUpload P env (encryptUpload P env innerType payload c)).stage = .start →
      c.stage = .start ∧ (afterUpload P env (encryptUpload P env innerType payload c)).recvView =
        c.recvView := by
    intro innerType payload hstart
    have hkeeps := keeps_frame_encryptUpload P env innerType payload c
    rcases hx : encryptUpload P env innerType payload c with ⟨r, c'⟩
    rw [hx] at hkeeps hstart
    cases r with
    | error e => cases hstart
    | ok _ =>
        have hstage : c'.stage = c.stage := congrArg Prod.fst hkeeps
        exact ⟨hstage.symm.trans hstart, congrArg Prod.snd hkeeps⟩
  cases event with
  | connect =>
      simp only [step] at h ⊢
      split_ifs at h ⊢ with hstage
      · exact absurd h (hadvance _ _ (by decide))
      · exact ⟨h, rfl⟩
  | sendInit =>
      simp only [step] at h ⊢
      split_ifs at h ⊢ with hstage
      · exact absurd h (hadvance _ _ (by decide))
      · exact ⟨h, rfl⟩
  | startUpload =>
      simp only [step] at h ⊢
      split_ifs at h ⊢ with hstage
      · exact absurd h (hadvance _ _ (by decide))
      · exact ⟨h, rfl⟩
  | data payload => exact hupload .data payload h
  | keepalive => exact hupload .control _ h
  | updateFsm padding => exact ⟨h, rfl⟩
  | receive packet =>
      simp only [step] at h ⊢
      split_ifs at h ⊢ with hstage
      -- a packet is received behind the start only
      · rcases afterReceive_stage P env
          (receiveAndWritePacketWithMdh P env packet c) with heq | heq
        · rw [heq, receive_stage, hstage] at h
          cases h
        · rw [heq] at h
          cases h
      · exact ⟨h, rfl⟩
  | shutdown =>
      simp only [step] at h ⊢
      split_ifs at h ⊢ with hstage
      · cases h
      · exact ⟨h, rfl⟩

theorem untouched_of_step {c : AivpnClient} {e : ClientEnv × Event}
    (h : c.stage = .start → c.Untouched) (hstart : (step P c e).stage = .start) :
    (step P c e).Untouched := by
  obtain ⟨hstage, hview⟩ := start_of_step hstart
  have hold : c.recvView = (new c.config c.keypair).recvView := h hstage
  have hconfig : (step P c e).config = c.config := congrArg Prod.fst hview
  have hkeypair : (step P c e).keypair = c.keypair := congrArg (fun v => v.2.1) hview
  unfold Untouched
  rw [hview, hold, hconfig, hkeypair]

/-- An invariant that every change of the receiving side keeps holds at the end of a run whose
searches meet `H`. -/
theorem runFrom_of_recvChange {H : Nat → SessionKeys → RecvWindow → Bytes → Prop}
    {Inv : AivpnClient → Prop} (hchange : ∀ c c', Inv c → RecvChange P H c c' → Inv c')
    {config : Config} {keypair : KeyPair} (h0 : Inv (new config keypair))
    {es : List (ClientEnv × Event)} (hH : Along (step P) (Searches H) (new config keypair) es) :
    Inv (runFrom (step P) (new config keypair) es) := by
  have hchanges : ∀ c c', Inv c → RecvChanges P H c c' → Inv c' := by
    intro c c' h hsteps
    induction hsteps with
    | refl => exact h
    | tail _ hlast ih => exact hchange _ _ ih hlast
  have hstep : ∀ c e, (Inv c ∧ (c.stage = .start → c.Untouched)) → Searches H c e →
      Inv (step P c e) ∧ ((step P c e).stage = .start → (step P c e).Untouched) :=
    fun c e h hs => ⟨hchanges _ _ h.1 (step_changes h.2 hs), untouched_of_step h.2⟩
  exact (runFrom_invariant_of_along hstep ⟨h0, fun _ => rfl⟩ hH).1

end AivpnClient

end Aivpn
