import Aivpn.Client.UploadPipeline
import Aivpn.Client.Mimicry
import Aivpn.Server.Downstream
import Aivpn.Common.Transport

/-!
# Sizes of datagrams

How long a datagram gets that carries an IP packet, for the three encoders of the two directions:
`MimicryEngine::build_packet` with the size that it samples from the mask, `ZeroMdhEncryptor` and
`tun_read_loop`. An IP packet of the client's MTU stays within the budget of `build_packet`, and one
of the server's MTU within a frame (`datagram_sizes`).

`gen_range` panics for a range without elements, and a log-normal distribution reads two parameters,
so that a mask with an empty range gives no datagram (`buildPacket_emptyRange`).
-/

set_option autoImplicit false

namespace Aivpn

open Aivpn.Lib

/-! ## Sampling the size -/

namespace Mask

/-- `rng.gen_range(min..=max)`. -/
def genRange (draw : Nat) (min max : UInt16) : Outcome UInt16 :=
  if min ≤ max then .ok (UInt16.ofNat (min.toNat + draw % (max.toNat - min.toNat + 1)))
  else .error .panic

/-- The random choices of one sample: the bin that `WeightedIndex` picks, if it takes the weights, a
number to draw from a range, and the log-normal sample cast to `u16`. -/
structure SizeDraw where
  bin : Option Nat
  draw : Nat
  logNormal : UInt16

/-- `SizeDistribution::sample`. -/
def SizeDistribution.sample (r : SizeDraw) (d : SizeDistribution) : Outcome UInt16 :=
  match d.distType with
  | .histogram =>
      if d.bins.isEmpty then .ok 64
      else match r.bin with
        | none => .ok 64
        | some i => do
            let bin ← index d.bins (i % d.bins.length)
            genRange r.draw bin.1 bin.2.1
  | .parametric => match d.parametricType, d.parametricParams with
    | some .logNormal, some params =>
        if params.length < 2 then .error .panic else .ok (max r.logNormal 1)
    | _, _ => genRange r.draw 64 511

end Mask

/-- The range of a uniform padding has an element. -/
def PaddingStrategy.HasRange : PaddingStrategy → Prop
  | .randomUniform min max => min ≤ max
  | _ => True

instance (strategy : PaddingStrategy) : Decidable strategy.HasRange :=
  match strategy with
  | .randomUniform min max => inferInstanceAs (Decidable (min ≤ max))
  | .matchDistribution => .isTrue trivial
  | .fixed _ => .isTrue trivial

namespace MimicryEngine

/-- The strategy that is in place. -/
def strategy (engine : MimicryEngine) : PaddingStrategy :=
  engine.paddingOverride.getD engine.mask.paddingStrategy

/-- `MimicryEngine::build_packet` without a key, with the size sampled from the distribution that is
in place. -/
def sampleAndBuild (P : Primitives) (tw : Nat) (choice : Mask.SizeDraw) (r : PacketRandomness)
    (sizes : Mask.SizeDistribution) (engine : MimicryEngine) (plaintext : Bytes) (keys : SessionKeys)
    (counter : Nat) : Outcome (Bytes × Nat) := do
  let targetSize ← sizes.sample choice
  engine.buildPacket P tw { r with targetSize := targetSize } plaintext keys counter none

end MimicryEngine

/-! ## Sizes -/

/-- The datagram fits into a frame: its length is not truncated, and the frame is decoded. -/
def FitsFrame (d : Bytes) : Prop :=
  d.length ≤ 1500 ∧ d.length % 65536 = d.length ∧
    ∀ rest, decodeFrame (framePacket d ++ rest) = .ok (some (d, 2 + d.length))

theorem fitsFrame_of_length {d : Bytes} (hpos : 1 ≤ d.length) (hlen : d.length ≤ 1500) :
    FitsFrame d := by
  refine ⟨hlen, Nat.mod_eq_of_lt (by omega), fun rest => ?_⟩
  have hwhole := transport_sound.whole d ⟨hpos, hlen⟩ rest
  rw [← length_framePacket]
  exact hwhole

section

variable {P : Primitives} {keys : SessionKeys}

/-- The length of a datagram, from those of the header, the inner packet and the padding. -/
theorem length_assemble_plaintext (haead : SoundAead P keys.sessionKey) (tw counter : Nat)
    (header inner padding : Bytes) :
    (assemble P tw keys counter header (padPlaintext inner padding)).length =
      26 + header.length + inner.length + padding.length := by
  unfold assemble Primitives.encryptPayload
  rw [List.length_append, List.length_append, haead.size, ByteArr.length_toList,
    length_padPlaintext]
  unfold poly1305TagSize
  omega

theorem length_buildInnerPacket (innerType : InnerType) (seqNum : UInt16) (payload : Bytes) :
    (buildInnerPacket innerType seqNum payload).length = 4 + payload.length := by
  rw [buildInnerPacket_eq, List.length_append, InnerHeader.length_encode]

/-- A strategy with a range gives a padding. -/
theorem PaddingStrategy.HasRange.calcPadding {strategy : PaddingStrategy} (h : strategy.HasRange)
    (r : PacketRandomness) (payloadSize : Nat) : ∃ n, strategy.calcPadding r payloadSize = .ok n := by
  cases strategy with
  | randomUniform min max => exact ⟨_, if_pos h⟩
  | matchDistribution => exact ⟨_, rfl⟩
  | fixed size => exact ⟨_, rfl⟩

/-- `build_packet` fills a datagram up to the budget at most. -/
theorem MimicryEngine.buildPacket_length (haead : SoundAead P keys.sessionKey) (tw : Nat)
    (r : PacketRandomness) {engine : MimicryEngine} (htemplate : engine.mask.headerTemplate.length = 4)
    (hrange : engine.strategy.HasRange) (plaintext : Bytes) (counter : Nat) :
    ∃ d padding, engine.buildPacket P tw r plaintext keys counter none =
        .ok (d, wrappingAdd counter 1) ∧
      d = assemble P tw keys counter engine.mask.headerTemplate (padPlaintext plaintext padding) ∧
      padding.length < 65536 ∧ d.length ≤ max 1380 (30 + plaintext.length) := by
  obtain ⟨n, hn⟩ := hrange.calcPadding r (tagSize + engine.mask.headerTemplate.length + 2 +
    plaintext.length + poly1305TagSize)
  have hcalc : engine.calcPadding r (tagSize + engine.mask.headerTemplate.length + 2 +
      plaintext.length + poly1305TagSize) = .ok n := hn
  have hbuild : engine.buildPacket P tw r plaintext keys counter none = .ok (assemble P tw keys counter
      engine.mask.headerTemplate (padPlaintext plaintext (r.fill (min n
        ((min safeOuterPacketBudget maxPacketSize - (tagSize + engine.mask.headerTemplate.length + 2 +
          plaintext.length + poly1305TagSize)) % 65536)))), wrappingAdd counter 1) := by
    unfold buildPacket preparePacket buildMdh
    simp only [bind, Except.bind, hcalc]
    rfl
  refine ⟨_, _, hbuild, rfl, ?_, ?_⟩
  · rw [PacketRandomness.length_fill]
    omega
  · rw [length_assemble_plaintext haead, PacketRandomness.length_fill, htemplate]
    unfold safeOuterPacketBudget maxPacketSize tagSize poly1305TagSize
    omega

/-- `ZeroMdhEncryptor` adds at most 57 bytes. -/
theorem length_encryptData (haead : ∀ key, SoundAead P key) (env : UploadPipeline.EncryptEnv)
    (ip : Bytes) (enc : AndroidTunnel.ZeroMdhEncryptor) :
    ∃ d enc', (UploadPipeline.zeroMdhEncryptor P).encryptData env ip enc = (.ok d, enc') ∧
      1 ≤ d.length ∧ d.length ≤ 57 + ip.length := by
  refine ⟨_, _, rfl, ?_⟩
  have hlen : (assemble P env.timeWindow enc.keys enc.counter (withEphPub defaultZeroMdh none)
      (padPlaintext (buildInnerPacket .data enc.seq ip)
        (env.draw.fill (8 + env.draw.draw % 16)))).length =
      26 + 4 + (4 + ip.length) + (8 + env.draw.draw % 16) := by
    rw [length_assemble_plaintext (haead _), length_buildInnerPacket, PacketRandomness.length_fill]
    rfl
  change 1 ≤ (assemble P _ _ _ _ _).length ∧ (assemble P _ _ _ _ _).length ≤ _
  rw [UploadPipeline.Job.inner, zeroMdhPlaintext, hlen]
  omega

/-- `tun_read_loop` adds 34 bytes. -/
theorem length_tunRead (haead : ∀ key, SoundAead P key) {cfg : GatewayConfig}
    (hcfg : cfg.headerTemplate.length = 4) {env : Env} {g : Gateway} {ip d : Bytes} {sid : SessionId}
    {addr : SocketAddr}
    (h : (Gateway.tunRead P cfg env ip g).2.effects = .send sid d addr :: g.effects) :
    d.length = 34 + ip.length := by
  rw [Gateway.tunRead_send h, length_assemble_plaintext (haead _), hcfg, List.length_append,
    InnerHeader.length_encode, List.length_nil]
  omega

end

/-- A datagram around an IP packet of at most 1420 bytes fits into a frame, whichever encoder builds
it; `build_packet` announces the padding that it appends, and stays within 1380 bytes for an IP packet
of at most 1346. -/
theorem datagram_sizes (P : Primitives) (haead : ∀ key, SoundAead P key) (ip : Bytes)
    (hip : ip.length ≤ 1420) (engine : MimicryEngine)
    (htemplate : engine.mask.headerTemplate.length = 4) (hrange : engine.strategy.HasRange)
    (sizes : Mask.SizeDistribution) (choice : Mask.SizeDraw) (targetSize : UInt16)
    (hsample : sizes.sample choice = .ok targetSize) (r : PacketRandomness) (keys : SessionKeys)
    (tw counter : Nat) (seqNum : UInt16) (encryptEnv : UploadPipeline.EncryptEnv)
    (enc : AndroidTunnel.ZeroMdhEncryptor) (cfg : GatewayConfig)
    (hcfg : cfg.headerTemplate.length = 4) (env : Env) (g : Gateway) :
    (∃ d padding, engine.sampleAndBuild P tw choice r sizes (buildInnerPacket .data seqNum ip) keys
        counter = .ok (d, wrappingAdd counter 1) ∧
      d = assemble P tw keys counter engine.mask.headerTemplate
        (padPlaintext (buildInnerPacket .data seqNum ip) padding) ∧
      leNat ((padPlaintext (buildInnerPacket .data seqNum ip) padding).take 2) = padding.length ∧
      (ip.length ≤ 1346 → d.length ≤ 1380) ∧ FitsFrame d) ∧
    (∃ d enc', (UploadPipeline.zeroMdhEncryptor P).encryptData encryptEnv ip enc = (.ok d, enc') ∧
      FitsFrame d) ∧
    ∀ sid d addr, (Gateway.tunRead P cfg env ip g).2.effects = .send sid d addr :: g.effects →
      FitsFrame d := by
  refine ⟨?_, ?_, ?_⟩
  · obtain ⟨d, padding, hbuild, hd, hpad, hlen⟩ := MimicryEngine.buildPacket_length
      (haead keys.sessionKey) tw { r with targetSize := targetSize } htemplate hrange
      (buildInnerPacket .data seqNum ip) counter
    have hpos : 1 ≤ d.length := by
      rw [hd, length_assemble_plaintext (haead _)]
      omega
    rw [length_buildInnerPacket] at hlen
    refine ⟨d, padding, ?_, hd, leNat_take_padPlaintext _ hpad, fun hmtu => by omega,
      fitsFrame_of_length hpos (by omega)⟩
    unfold MimicryEngine.sampleAndBuild
    rw [hsample]
    exact hbuild
  · obtain ⟨d, enc', henc, hpos, hlen⟩ := length_encryptData haead encryptEnv ip enc
    exact ⟨d, enc', henc, fitsFrame_of_length hpos (by omega)⟩
  · intro sid d addr heffects
    have hlen := length_tunRead haead hcfg heffects
    exact fitsFrame_of_length (by omega) (by omega)

/-- A distribution that always gives 64. -/
def sampleSizes : Mask.SizeDistribution := ⟨.histogram, [], none, none⟩

/-- A packet for the client of the sample handshake, in all three encoders. -/
theorem datagram_sizes_sample :
    let engine : MimicryEngine := ⟨⟨[0, 1, 2, 3], 4, 32, .randomUniform 0 64⟩, none⟩
    (∃ d padding, engine.sampleAndBuild samplePrimitives 100 ⟨none, 0, 0⟩ ⟨40, 0, fun _ => 0⟩
        sampleSizes (buildInnerPacket .data 0 sampleTunPacket) sampleWireKeys 0 =
          .ok (d, wrappingAdd 0 1) ∧
      d = assemble samplePrimitives 100 sampleWireKeys 0 engine.mask.headerTemplate
        (padPlaintext (buildInnerPacket .data 0 sampleTunPacket) padding) ∧
      leNat ((padPlaintext (buildInnerPacket .data 0 sampleTunPacket) padding).take 2) =
        padding.length ∧
      (sampleTunPacket.length ≤ 1346 → d.length ≤ 1380) ∧ FitsFrame d) ∧
    (∃ d enc', (UploadPipeline.zeroMdhEncryptor samplePrimitives).encryptData
        UploadPipeline.sampleEncryptEnv sampleTunPacket UploadPipeline.sampleEncryptor =
          (.ok d, enc') ∧ FitsFrame d) ∧
    ∀ sid d addr, (Gateway.tunRead samplePrimitives sampleConfig (sampleEnv 100) sampleTunPacket
        sampleAfterInit).2.effects = .send sid d addr :: sampleAfterInit.effects → FitsFrame d := by
  intro engine
  exact datagram_sizes samplePrimitives samplePrimitives_soundAead sampleTunPacket (by decide)
    engine rfl (by decide) sampleSizes ⟨none, 0, 0⟩ 64 rfl ⟨40, 0, fun _ => 0⟩ sampleWireKeys 100 0 0
    UploadPipeline.sampleEncryptEnv UploadPipeline.sampleEncryptor sampleConfig rfl (sampleEnv 100)
    sampleAfterInit

/-- A mask whose padding has an empty range gives no datagram. -/
theorem buildPacket_emptyRange :
    ¬ ∃ d counter', MimicryEngine.sampleAndBuild samplePrimitives 100 ⟨none, 0, 0⟩
      ⟨0, 0, fun _ => 0⟩ sampleSizes ⟨⟨[0, 1, 2, 3], 4, 32, .randomUniform 1 0⟩, none⟩
      (buildInnerPacket .data 0 [0x45]) sampleWireKeys 0 = .ok (d, counter') := by
  rintro ⟨d, counter', h⟩
  cases h

end Aivpn
