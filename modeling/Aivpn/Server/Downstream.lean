import Aivpn.Common.ControlCodec
import Aivpn.Server.KeyAgreement

/-!
# From the server to the client

The server builds datagrams in three places, each with its own padding: `Gateway::build_packet`,
`Gateway::tun_read_loop` and `SessionManager::build_mask_update_packet`. A client whose receive window
is ready for the datagram decodes each of them to the inner header and the payload that were encoded,
for every payload (`downstream_round_trip`).
-/

set_option autoImplicit false

namespace Aivpn

open Aivpn.Lib Aivpn.Lib.Action

/-- A client with the given keys that is ready for the datagram of counter `n` and window `t` decodes
it to the header and the payload. -/
def ClientDecodes (P : Primitives) (keys : SessionKeys) (n t : Nat) (d : Bytes)
    (header : InnerHeader) (payload : Bytes) : Prop :=
  ∀ w tw, Ready P w tw keys.tagSecret n t →
    decodePacketWithMdhLen P tw d keys w 4 = (.ok ⟨n, header, payload⟩, w.mark n)

section

variable {P : Primitives} {rng : Randomness} {cfg : GatewayConfig} {env : Env}

/-- What all builders assemble is decoded. -/
theorem clientDecodes_assemble {keys : SessionKeys} (haead : SoundAead P keys.sessionKey) (n t : Nat)
    (header : InnerHeader) (payload : Bytes) {padding mdh : Bytes} (hpad : padding.length < 65536)
    (hmdh : mdh.length = 4) :
    ClientDecodes P keys n t
      (assemble P t keys n mdh (padPlaintext (header.encode ++ payload) padding)) header payload := by
  intro w tw hready
  rcases decode_genuine haead hready.tags subset_rfl hready.reach header payload hpad hmdh with
    ⟨-, -, hdec⟩ | ⟨hnot, -⟩
  · exact hdec
  · exact absurd ⟨hready.isNew, hready.reach⟩ hnot

/-! ## The builders -/

theorem SessionManager.sealPacket_fst (m : SessionManager) (sid : SessionId) (mdh padded : Bytes) :
    (m.sealPacket P env sid mdh padded).1 =
      assemble P env.timeWindow (m.heap sid).keys (m.heap sid).sendCounter mdh padded := rfl

/-- A sequence number is taken without touching the keys and the counter. -/
theorem SessionManager.takeSeq_heap (m : SessionManager) (sid : SessionId) :
    ((m.takeSeq sid).2.heap sid).keys = (m.heap sid).keys ∧
      ((m.takeSeq sid).2.heap sid).sendCounter = (m.heap sid).sendCounter := by
  unfold SessionManager.takeSeq SessionManager.setSession Session.nextSeq
  simp only [Function.update_self, and_self]

/-- `Gateway::build_packet`. -/
theorem clientDecodes_buildPacket (m : SessionManager) (sid : SessionId)
    (haead : SoundAead P (m.heap sid).keys.sessionKey) (header : InnerHeader) (payload : Bytes) :
    ClientDecodes P (m.heap sid).keys (m.heap sid).sendCounter env.timeWindow
      (m.buildPacket P rng env sid (header.encode ++ payload)).1 header payload := by
  have hpad : (rng.padding m.draws).toList.length < 65536 := by
    rw [ByteArr.length_toList]
    decide
  have hmdh : SessionManager.zeroMdh.length = 4 := rfl
  exact clientDecodes_assemble haead _ _ header payload hpad hmdh

/-- The packet that `tun_read_loop` sends, if it sends one. -/
theorem Gateway.tunRead_send {g : Gateway} {packet d : Bytes} {sid : SessionId} {addr : SocketAddr}
    (h : (Gateway.tunRead P cfg env packet g).2.effects = .send sid d addr :: g.effects) :
    d = assemble P env.timeWindow (g.session sid).keys (g.session sid).sendCounter
      cfg.headerTemplate (padPlaintext ((InnerHeader.mk .data
        (UInt16.ofNat (g.session sid).sendSeq)).encode ++ packet) []) := by
  have hsame : ∀ e : Effect, ¬ g.effects = e :: g.effects := by
    intro e heq
    have hlen := congrArg List.length heq
    simp at hlen
  unfold Gateway.tunRead at h
  by_cases hshort : packet.length < 20 ∨ packet.getD 0 0 >>> 4 ≠ 4
  · rw [if_pos hshort] at h
    exact absurd h (hsame _)
  rw [if_neg hshort] at h
  by_cases hicmp : Gateway.dstIp packet = cfg.tunAddr ∧ 28 ≤ packet.length ∧ packet.getD 9 0 = 1
  · -- an echo request for the server is answered on the TUN device
    rw [if_pos hicmp] at h
    cases hreply : Gateway.buildIcmpEchoReply packet cfg.tunAddr with
    | none =>
        rw [hreply] at h
        exact absurd h (hsame _)
    | some reply =>
        rw [hreply] at h
        cases h
  rw [if_neg hicmp, bind_of_ok (gets_apply _ _)] at h
  cases hsid : g.sessionManager.getSessionByVpnIp (Gateway.dstIp packet) with
  | none =>
      rw [hsid] at h
      exact absurd h (hsame _)
  | some sid' =>
      simp only [hsid, Gateway.manager] at h
      rw [bind_of_ok (gets_apply _ _), bind_of_ok (update_apply _ _),
        bind_of_ok (update_apply _ _)] at h
      by_cases hsend : env.sendOk = true
      · simp only [hsend, if_true, Gateway.emit, modify_apply, List.cons.injEq, Effect.send.injEq,
          and_true] at h
        obtain ⟨rfl, hd, -⟩ := h
        obtain ⟨hkeys, hcounter⟩ := SessionManager.takeSeq_heap g.sessionManager sid'
        rw [← hd, SessionManager.sealPacket_fst, hkeys, hcounter]
        rfl
      · rw [if_neg hsend] at h
        exact absurd h (hsame _)

/-- `Gateway::tun_read_loop`. -/
theorem clientDecodes_tunRead (htemplate : cfg.headerTemplate.length = 4) {g : Gateway}
    {packet d : Bytes} {sid : SessionId} {addr : SocketAddr}
    (haead : SoundAead P (g.session sid).keys.sessionKey)
    (h : (Gateway.tunRead P cfg env packet g).2.effects = .send sid d addr :: g.effects) :
    ClientDecodes P (g.session sid).keys (g.session sid).sendCounter env.timeWindow d
      ⟨.data, UInt16.ofNat (g.session sid).sendSeq⟩ packet := by
  have hpad : ([] : Bytes).length < 65536 := by decide
  rw [Gateway.tunRead_send h]
  exact clientDecodes_assemble haead _ _ _ packet hpad htemplate

/-- `SessionManager::build_mask_update_packet`. -/
theorem clientDecodes_buildMaskUpdatePacket (m : SessionManager) (sid : SessionId)
    (haead : SoundAead P (m.heap sid).keys.sessionKey) (maskData : Bytes) :
    ClientDecodes P (m.heap sid).keys (m.heap sid).sendCounter env.timeWindow
      (m.buildMaskUpdatePacket P rng env sid maskData).1
      ⟨.control, UInt16.ofNat (m.heap sid).sendSeq⟩
      (ControlPayload.maskUpdate maskData (P.sign m.signingKey maskData)).encode := by
  obtain ⟨hkeys, hcounter⟩ := SessionManager.takeSeq_heap m sid
  have hseq : (m.takeSeq sid).1 = UInt16.ofNat (m.heap sid).sendSeq := rfl
  have hdec := @clientDecodes_buildPacket P rng env (m.takeSeq sid).2 sid
    (hkeys ▸ haead) ⟨.control, (m.takeSeq sid).1⟩
    (ControlPayload.maskUpdate maskData (P.sign m.signingKey maskData)).encode
  rw [hkeys, hcounter, hseq] at hdec
  exact hdec

end

/-! ## All builders -/

/-- The round trip from the server to the client, for every builder of the server: every session in
any state, every payload, and every client whose receive window is ready for the datagram. -/
theorem downstream_round_trip (P : Primitives) (rng : Randomness) (cfg : GatewayConfig) (env : Env)
    (htemplate : cfg.headerTemplate.length = 4) (haead : ∀ key, SoundAead P key) (g : Gateway)
    (sid : SessionId) :
    (∀ header payload, ClientDecodes P (g.session sid).keys (g.session sid).sendCounter
      env.timeWindow (g.sessionManager.buildPacket P rng env sid (header.encode ++ payload)).1
      header payload) ∧
    (∀ packet d addr,
      (Gateway.tunRead P cfg env packet g).2.effects = .send sid d addr :: g.effects →
      ClientDecodes P (g.session sid).keys (g.session sid).sendCounter env.timeWindow d
        ⟨.data, UInt16.ofNat (g.session sid).sendSeq⟩ packet) ∧
    (∀ maskData, maskData.length ≤ 65535 → ∃ payload,
      ClientDecodes P (g.session sid).keys (g.session sid).sendCounter env.timeWindow
        (g.sessionManager.buildMaskUpdatePacket P rng env sid maskData).1
        ⟨.control, UInt16.ofNat (g.session sid).sendSeq⟩ payload ∧
      ControlPayload.decode payload =
        .ok (.maskUpdate maskData (P.sign g.sessionManager.signingKey maskData))) := by
  refine ⟨fun header payload => ?_, fun packet d addr heffects => ?_, fun maskData hlen => ?_⟩
  · exact clientDecodes_buildPacket g.sessionManager sid (haead _) header payload
  · exact clientDecodes_tunRead htemplate (haead _) heffects
  · refine ⟨_, clientDecodes_buildMaskUpdatePacket g.sessionManager sid (haead _) maskData, ?_⟩
    have hdecode := ControlPayload.decode_encode_append (p := ControlPayload.maskUpdate maskData
      (P.sign g.sessionManager.signingKey maskData)) hlen []
    rw [List.append_nil] at hdecode
    exact hdecode

/-- An IPv4 packet to the first address of the pool. -/
def sampleTunPacket : Bytes :=
  [0x45, 0, 0, 20, 0, 0, 0, 0, 64, 17, 0, 0, 192, 0, 2, 9, 10, 0, 0, 2]

/-- The client of the sample handshake reads a control packet, a packet from the TUN device and a mask
update. -/
theorem sample_downstream :
    let s := sampleAfterInit.session 0
    (decodePacketWithMdhLen samplePrimitives 100 (sampleAfterInit.sessionManager.buildPacket
      samplePrimitives sampleRandomness (sampleEnv 100) 0
      ((InnerHeader.mk .control 7).encode ++ [3])).1 s.keys RecvWindow.new 4).1 =
        .ok ⟨s.sendCounter, ⟨.control, 7⟩, [3]⟩ ∧
    (∃ d addr, (decodePacketWithMdhLen samplePrimitives 100 d s.keys RecvWindow.new 4).1 =
      .ok ⟨s.sendCounter, ⟨.data, 0⟩, sampleTunPacket⟩ ∧
      (Gateway.tunRead samplePrimitives sampleConfig (sampleEnv 100) sampleTunPacket
        sampleAfterInit).2.effects = .send 0 d addr :: sampleAfterInit.effects) ∧
    ∃ payload signature, (decodePacketWithMdhLen samplePrimitives 100
      (sampleAfterInit.sessionManager.buildMaskUpdatePacket samplePrimitives sampleRandomness
        (sampleEnv 100) 0 [1, 2, 3]).1 s.keys RecvWindow.new 4).1 =
        .ok ⟨s.sendCounter, ⟨.control, 0⟩, payload⟩ ∧
      ControlPayload.decode payload = .ok (.maskUpdate [1, 2, 3] signature) := by
  intro s
  have hcounter : s.sendCounter < 4096 := by decide +kernel
  have hseq : UInt16.ofNat s.sendSeq = 0 := by decide +kernel
  obtain ⟨hbuild, htun, hmask⟩ := downstream_round_trip samplePrimitives sampleRandomness sampleConfig
    (sampleEnv 100) rfl samplePrimitives_soundAead sampleAfterInit 0
  have hready := sample_ready s.keys.tagSecret hcounter
  refine ⟨?_, ?_, ?_⟩
  · exact congrArg Prod.fst (hbuild ⟨.control, 7⟩ [3] _ _ hready)
  · obtain ⟨d, addr, heffects⟩ : ∃ d addr, (Gateway.tunRead samplePrimitives sampleConfig
        (sampleEnv 100) sampleTunPacket sampleAfterInit).2.effects =
          .send 0 d addr :: sampleAfterInit.effects := by
      refine ⟨assemble samplePrimitives 100 s.keys s.sendCounter sampleConfig.headerTemplate
        (padPlaintext ((InnerHeader.mk .data 0).encode ++ sampleTunPacket) []), sampleAddr, ?_⟩
      decide +kernel
    refine ⟨d, addr, ?_, heffects⟩
    have hdec := congrArg Prod.fst (htun _ d addr heffects _ _ hready)
    rw [hseq] at hdec
    exact hdec
  · obtain ⟨payload, hdec, hpayload⟩ := hmask [1, 2, 3] (by decide)
    have hfst := congrArg Prod.fst (hdec _ _ hready)
    rw [hseq] at hfst
    exact ⟨payload, _, hfst, hpayload⟩

end Aivpn
