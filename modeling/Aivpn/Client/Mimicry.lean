import Aivpn.Common.ClientWire
import Aivpn.Common.Mask

/-!
# Packet builders of the clients

`MimicryEngine` of `mimicry.rs`, as far as it decides the bytes of a datagram: the header from the
mask's template, the padding, and the assembly. The sizes and paddings that the source draws from
the mask's distributions are the fields of `PacketRandomness`. The state machine of the mask, which
replaces these distributions from time to time, is left out; the padding strategy it has put in
place is `paddingOverride`.

`Builder` joins the two builders the clients have, this one and `build_zero_mdh_packet`. Whatever
the builder, a datagram is a tag, a header and the ciphertext of a padded packet (`Builder.build_ok`).
-/

set_option autoImplicit false

namespace Aivpn

open Aivpn.Lib

/-- `PaddingStrategy::calc_padding`; a range without elements panics. -/
def PaddingStrategy.calcPadding (r : PacketRandomness) (payloadSize : Nat) :
    PaddingStrategy → Outcome Nat
  | .randomUniform min max =>
      if min ≤ max then .ok (min.toNat + r.draw % (max.toNat - min.toNat + 1))
      else .error .panic
  | .matchDistribution => .ok (r.targetSize.toNat - payloadSize)
  | .fixed size => .ok size.toNat

/-- `MimicryEngine`. -/
structure MimicryEngine where
  mask : MaskProfile
  paddingOverride : Option PaddingStrategy
deriving DecidableEq, Repr

/-- `SAFE_OUTER_PACKET_BUDGET`. -/
def safeOuterPacketBudget : Nat := 1380

/-- `MAX_PACKET_SIZE`. -/
def maxPacketSize : Nat := 1500

namespace MimicryEngine

/-- `MimicryEngine::update_mask`: the state machine starts over. -/
def updateMask (newMask : MaskProfile) (_ : MimicryEngine) : MimicryEngine := ⟨newMask, none⟩

/-- `MimicryEngine::build_mdh`. The key is copied over the bytes at its offset, which panics when
the mask gives it another length than 32. -/
def buildMdh (engine : MimicryEngine) : Option Key → Outcome Bytes
  | none => .ok engine.mask.headerTemplate
  | some eph =>
      let offset := engine.mask.ephPubOffset.toNat
      let len := engine.mask.ephPubLength.toNat
      let template := engine.mask.headerTemplate
      let mdh := template ++ List.replicate (offset + len - template.length) 0
      if len = 32 then .ok (mdh.take offset ++ eph.toList ++ mdh.drop (offset + len))
      else .error .panic

/-- `MimicryEngine::calc_padding`. -/
def calcPadding (engine : MimicryEngine) (r : PacketRandomness) (payloadSize : Nat) : Outcome Nat :=
  (engine.paddingOverride.getD engine.mask.paddingStrategy).calcPadding r payloadSize

/-- The first part of `MimicryEngine::build_packet`: the header and the padded plaintext. -/
def preparePacket (r : PacketRandomness) (engine : MimicryEngine) (plaintext : Bytes)
    (ephPub : Option Key) : Outcome (Bytes × Bytes) := do
  let mdh ← engine.buildMdh ephPub
  let baseOverhead := tagSize + mdh.length + 2 + plaintext.length + poly1305TagSize
  let requestedPadLen ← engine.calcPadding r baseOverhead
  let packetBudget := min safeOuterPacketBudget maxPacketSize
  let maxPadLen := (packetBudget - baseOverhead) % 65536
  let padLen := min requestedPadLen maxPadLen
  pure (mdh, padPlaintext plaintext (r.fill padLen))

/-- `MimicryEngine::build_packet`: the packet and the advanced counter. -/
def buildPacket (P : Primitives) (tw : Nat) (r : PacketRandomness) (engine : MimicryEngine)
    (plaintext : Bytes) (keys : SessionKeys) (counter : Nat) (ephPub : Option Key) :
    Outcome (Bytes × Nat) := do
  let (mdh, padded) ← engine.preparePacket r plaintext ephPub
  pure (assemble P tw keys counter mdh padded, wrappingAdd counter 1)

/-- The header is the one of `build_mdh`, and the padding has less than 64 KiB. -/
theorem preparePacket_ok {r : PacketRandomness} {engine : MimicryEngine} {plaintext mdh padded : Bytes}
    {ephPub : Option Key} (h : engine.preparePacket r plaintext ephPub = .ok (mdh, padded)) :
    engine.buildMdh ephPub = .ok mdh ∧
      ∃ padding, padding.length < 65536 ∧ padded = padPlaintext plaintext padding := by
  unfold preparePacket at h
  cases hmdh : engine.buildMdh ephPub with
  | error e =>
      rw [hmdh] at h
      cases h
  | ok mdh' =>
      rw [hmdh] at h
      simp only [bind, Except.bind] at h
      split at h
      · cases h
      · cases h
        refine ⟨rfl, _, ?_, rfl⟩
        rw [PacketRandomness.length_fill]
        omega

theorem buildPacket_ok {P : Primitives} {tw counter counter' : Nat} {r : PacketRandomness}
    {engine : MimicryEngine} {plaintext d : Bytes} {keys : SessionKeys} {ephPub : Option Key}
    (h : engine.buildPacket P tw r plaintext keys counter ephPub = .ok (d, counter')) :
    counter' = wrappingAdd counter 1 ∧ ∃ mdh padded,
      engine.preparePacket r plaintext ephPub = .ok (mdh, padded) ∧
      d = assemble P tw keys counter mdh padded := by
  unfold buildPacket at h
  cases hprep : engine.preparePacket r plaintext ephPub with
  | error e =>
      rw [hprep] at h
      cases h
  | ok prepared =>
      rw [hprep] at h
      cases h
      exact ⟨rfl, _, _, rfl, rfl⟩

end MimicryEngine

/-- The packet builders of the clients. -/
inductive Builder where
  | mimicry (engine : MimicryEngine)
  | zeroMdh
deriving DecidableEq, Repr

namespace Builder

/-- A packet with the given builder, and the advanced counter. -/
def build (P : Primitives) (tw : Nat) (r : PacketRandomness) (keys : SessionKeys) (counter : Nat)
    (inner : Bytes) (ephPub : Option Key) : Builder → Outcome (Bytes × Nat)
  | mimicry engine => engine.buildPacket P tw r inner keys counter ephPub
  | zeroMdh => .ok (buildZeroMdhPacket P tw r keys counter inner ephPub)

/-- The header without an embedded key has four bytes. -/
def FourByteTemplate : Builder → Prop
  | mimicry engine => engine.mask.headerTemplate.length = 4
  | zeroMdh => True

/-- An embedded key stands right behind the four bytes of the header. -/
def EmbedsBehindHeader : Builder → Prop
  | mimicry engine => engine.mask.ephPubOffset = 4
  | zeroMdh => True

instance (b : Builder) : Decidable b.EmbedsBehindHeader :=
  match b with
  | mimicry engine => inferInstanceAs (Decidable (engine.mask.ephPubOffset = 4))
  | zeroMdh => .isTrue trivial

/-- A built datagram: a header, then the padded packet. With an embedded key the header has 36
bytes exactly when the key stands behind the template, and at least 32 in any case. -/
theorem build_ok {P : Primitives} {tw counter counter' : Nat} {r : PacketRandomness}
    {keys : SessionKeys} {inner d : Bytes} {ephPub : Option Key} {b : Builder}
    (hb : b.FourByteTemplate)
    (h : b.build P tw r keys counter inner ephPub = .ok (d, counter')) :
    counter' = wrappingAdd counter 1 ∧ ∃ header padding,
      d = assemble P tw keys counter header (padPlaintext inner padding) ∧
      padding.length < 65536 ∧
      (ephPub = none → header.length = 4) ∧
      (ephPub ≠ none → 32 ≤ header.length ∧ (header.length = 36 ↔ b.EmbedsBehindHeader)) := by
  cases b with
  | zeroMdh =>
      cases h
      refine ⟨rfl, _, _, rfl, ?_, ?_, ?_⟩
      · rw [PacketRandomness.length_fill]
        omega
      · rintro rfl
        rfl
      · intro hne
        obtain ⟨eph, rfl⟩ := Option.ne_none_iff_exists'.1 hne
        simp [withEphPub, defaultZeroMdh, EmbedsBehindHeader]
  | mimicry engine =>
      have htemplate : engine.mask.headerTemplate.length = 4 := hb
      obtain ⟨hcounter, mdh, padded, hprep, rfl⟩ := MimicryEngine.buildPacket_ok h
      obtain ⟨hmdh, padding, hpad, rfl⟩ := MimicryEngine.preparePacket_ok hprep
      -- without a key the template is the header; with one the key is copied over it, and a template
      -- that is too short is filled up before
      refine ⟨hcounter, mdh, padding, rfl, hpad, ?_, ?_⟩
      · rintro rfl
        cases hmdh
        exact htemplate
      · intro hne
        obtain ⟨eph, rfl⟩ := Option.ne_none_iff_exists'.1 hne
        simp only [MimicryEngine.buildMdh] at hmdh
        split_ifs at hmdh with hlen
        cases hmdh
        simp only [List.length_append, List.length_take, List.length_drop, List.length_replicate,
          ByteArr.length_toList, htemplate, hlen, EmbedsBehindHeader]
        rw [← UInt16.toNat_inj]
        simp only [UInt16.reduceToNat]
        omega

end Builder

end Aivpn
