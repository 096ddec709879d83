import Aivpn.Common.Protocol

/-!
# Mask profiles and their signature

`MaskProfile` of `mask.rs`. `Mask.MaskProfile` has every field of the source; the record it extends
has those that the packet builders read. Floating point numbers are kept as their bit patterns, since
nothing here computes with them.

`verify_signature` checks the signature against a message made of the mask id, the version and the
header template. Two profiles share that message also when they differ in any of the other fields,
and when the id of one runs into the version and the template of the other
(`message_ne_iff`, `signature_covers_iff`).
-/

set_option autoImplicit false

namespace Aivpn

open Aivpn.Lib

/-- `PaddingStrategy`. -/
inductive PaddingStrategy where
  | randomUniform (min max : UInt16)
  | matchDistribution
  | fixed (size : UInt16)
deriving DecidableEq, Repr

/-- The fields of `MaskProfile` that the builder reads. -/
structure MaskProfile where
  headerTemplate : Bytes
  ephPubOffset : UInt16
  ephPubLength : UInt16
  paddingStrategy : PaddingStrategy
deriving DecidableEq, Repr

namespace Mask

/-- The bit pattern of an `f32`. -/
abbrev F32 := UInt32

/-- The bit pattern of an `f64`. -/
abbrev F64 := UInt64

/-- `SpoofProtocol`. -/
inductive SpoofProtocol where
  | none
  | quic
  | webRtcStun
  | httpsH2
  | dnsOverUdp
deriving DecidableEq, Repr

/-- `SizeDistType`. -/
inductive SizeDistType where
  | histogram
  | parametric
deriving DecidableEq, Repr

/-- `ParametricType`. -/
inductive ParametricType where
  | logNormal
  | gamma
  | bimodal
deriving DecidableEq, Repr

/-- `SizeDistribution`. -/
structure SizeDistribution where
  distType : SizeDistType
  bins : List (UInt16 × UInt16 × F32)
  parametricType : Option ParametricType
  parametricParams : Option (List F64)
deriving DecidableEq, Repr

/-- `IATDistType`. -/
inductive IatDistType where
  | exponential
  | logNormal
  | gamma
  | empirical
deriving DecidableEq, Repr

/-- `IATDistribution`. -/
structure IatDistribution where
  distType : IatDistType
  params : List F64
  jitterRangeMs : F64 × F64
deriving DecidableEq, Repr

/-- `TransitionCondition`. -/
inductive TransitionCondition where
  | afterPackets (n : UInt32)
  | afterDuration (ms : UInt64)
  | onPayloadType (payloadType : UInt8)
  | random (prob : F32)
deriving DecidableEq, Repr

/-- `FSMTransition`. -/
structure FsmTransition where
  condition : TransitionCondition
  nextState : UInt16
  sizeOverride : Option SizeDistribution
  iatOverride : Option IatDistribution
  paddingOverride : Option PaddingStrategy
deriving DecidableEq, Repr

/-- `FSMState`. -/
structure FsmState where
  stateId : UInt16
  transitions : List FsmTransition
deriving DecidableEq, Repr

/-- `MaskProfile`. -/
structure MaskProfile extends Aivpn.MaskProfile where
  maskId : String
  version : UInt16
  createdAt : UInt64
  expiresAt : UInt64
  spoofProtocol : SpoofProtocol
  sizeDistribution : SizeDistribution
  iatDistribution : IatDistribution
  fsmStates : List FsmState
  fsmInitialState : UInt16
  signatureVector : List F32
  reverseProfile : Option MaskProfile
  signature : ByteArr 64

/-- `as_bytes`. -/
def asBytes (s : String) : Bytes := s.toUTF8.data.toList

namespace MaskProfile

/-- The version and the header template, as they stand in the message. -/
def versionAndTemplate (p : MaskProfile) : Bytes := u16Bytes p.version ++ p.headerTemplate

/-- The message of `verify_signature`. -/
def message (p : MaskProfile) : Bytes :=
  asBytes p.maskId ++ u16Bytes p.version ++ p.headerTemplate

/-- `MaskProfile::verify_signature`. -/
def verifySignature (P : Primitives) (publicKey : Key) (p : MaskProfile) : Except Error Bool :=
  match P.verify publicKey p.message p.signature with
  | none => .error (.crypto "Invalid Ed25519 public key")
  | some valid => .ok valid

/-- The profiles differ in a field other than the signature. -/
def Differs (p q : MaskProfile) : Prop := { p with signature := q.signature } ≠ q

/-- The id of `q` is the id of `p` with the first bytes of the version and the template of `p`
behind it, and what is left of these is the version and the template of `q`. -/
def RunsInto (p q : MaskProfile) : Prop :=
  ∃ x, x ≠ [] ∧ asBytes q.maskId = asBytes p.maskId ++ x ∧
    p.versionAndTemplate = x ++ q.versionAndTemplate

/-- The profiles differ in a field of the message, and neither id runs into the version and the
template of the other profile. -/
structure Distinguished (p q : MaskProfile) : Prop where
  fields : p.maskId ≠ q.maskId ∨ p.version ≠ q.version ∨ p.headerTemplate ≠ q.headerTemplate
  left : ¬ p.RunsInto q
  right : ¬ q.RunsInto p

end MaskProfile

/-- The signatures that a key makes for the messages in `D` are valid, and each for its own message
only. Signatures have 64 bytes, so that this can be asked of the messages that are looked at only. -/
structure UnforgeableOn (P : Primitives) (signingKey publicKey : Key) (D : Set Bytes) : Prop where
  valid : ∀ m ∈ D, P.verify publicKey m (P.sign signingKey m) = some true
  only : ∀ m ∈ D, ∀ m' ∈ D, P.verify publicKey m' (P.sign signingKey m) = some true → m' = m

/-! ## The message -/

theorem asBytes_inj {s t : String} (h : asBytes s = asBytes t) : s = t := by
  apply String.toByteArray_inj.1
  apply ByteArray.ext
  exact Array.toList_inj.1 h

theorem u16Bytes_inj {a b : UInt16} (h : u16Bytes a = u16Bytes b) : a = b := by
  obtain ⟨a₀, a₁, ha, rfl⟩ := u16Of_u16Bytes a
  obtain ⟨b₀, b₁, hb, rfl⟩ := u16Of_u16Bytes b
  rw [ha, hb] at h
  cases h
  rfl

namespace MaskProfile

theorem message_eq (p : MaskProfile) : p.message = asBytes p.maskId ++ p.versionAndTemplate :=
  List.append_assoc _ _ _

theorem versionAndTemplate_eq_iff {p q : MaskProfile} :
    p.versionAndTemplate = q.versionAndTemplate ↔
      p.version = q.version ∧ p.headerTemplate = q.headerTemplate := by
  constructor
  · intro h
    obtain ⟨hversion, htemplate⟩ := List.append_inj h rfl
    exact ⟨u16Bytes_inj hversion, htemplate⟩
  · rintro ⟨hversion, htemplate⟩
    rw [versionAndTemplate, versionAndTemplate, hversion, htemplate]

theorem RunsInto.message_eq {p q : MaskProfile} (h : p.RunsInto q) : p.message = q.message := by
  obtain ⟨x, -, hid, hrest⟩ := h
  rw [p.message_eq, q.message_eq, hid, hrest, List.append_assoc]

/-- Equal messages: the same fields, or an id that runs into the fields behind it. -/
theorem message_eq_iff (p q : MaskProfile) : p.message = q.message ↔ ¬ p.Distinguished q := by
  constructor
  · intro h hdist
    rw [p.message_eq, q.message_eq] at h
    -- two ids of one length are equal; otherwise the bytes between are read as part of the version
    rcases List.append_eq_append_iff.1 h with ⟨x, hid, hrest⟩ | ⟨x, hid, hrest⟩
    · rcases List.eq_nil_or_concat x with rfl | ⟨ys, y, rfl⟩
      · rw [List.append_nil] at hid
        obtain ⟨hversion, htemplate⟩ := versionAndTemplate_eq_iff.1 hrest
        rcases hdist.fields with hne | hne | hne
        · exact hne (asBytes_inj hid.symm)
        · exact hne hversion
        · exact hne htemplate
      · exact hdist.left ⟨_, by simp, hid, hrest⟩
    · rcases List.eq_nil_or_concat x with rfl | ⟨ys, y, rfl⟩
      · rw [List.append_nil] at hid
        obtain ⟨hversion, htemplate⟩ := versionAndTemplate_eq_iff.1 hrest
        rcases hdist.fields with hne | hne | hne
        · exact hne (asBytes_inj hid)
        · exact hne hversion.symm
        · exact hne htemplate.symm
      · exact hdist.right ⟨_, by simp, hid, hrest⟩
  · intro hnot
    by_contra hne
    refine hnot ⟨?_, fun h => hne h.message_eq, fun h => hne h.message_eq.symm⟩
    by_contra hsame
    push Not at hsame
    obtain ⟨hid, hversion, htemplate⟩ := hsame
    exact hne (by rw [message, message, hid, hversion, htemplate])

/-- A signature made for the message of `p` is valid for `q` exactly when `q` has that message. -/
theorem verifySignature_transfer {P : Primitives} {signingKey publicKey : Key} {p q : MaskProfile}
    (h : UnforgeableOn P signingKey publicKey {p.message, q.message}) :
    { q with signature := P.sign signingKey p.message }.verifySignature P publicKey = .ok true ↔
      p.message = q.message := by
  have hmessage : ∀ s, { q with signature := s }.message = q.message := fun s => rfl
  unfold verifySignature
  rw [hmessage]
  constructor
  · intro hvalid
    refine (h.only _ (Or.inl rfl) _ (Or.inr rfl) ?_).symm
    cases hv : P.verify publicKey q.message (P.sign signingKey p.message) with
    | none =>
        simp only [hv] at hvalid
        cases hvalid
    | some valid =>
        simp only [hv] at hvalid
        cases hvalid
        rfl
  · intro heq
    rw [← heq]
    simp only [h.valid _ (Or.inl rfl)]

/-- The message, and with it the signature, tells exactly the distinguished profiles apart. -/
theorem signature_covers_iff (p q : MaskProfile) :
    (p.message ≠ q.message ↔ p.Distinguished q) ∧
    ∀ (P : Primitives) (signingKey publicKey : Key),
      UnforgeableOn P signingKey publicKey {p.message, q.message} →
      ({ q with signature := P.sign signingKey p.message }.verifySignature P publicKey ≠ .ok true ↔
        p.Distinguished q) := by
  have hmessage : p.message ≠ q.message ↔ p.Distinguished q := by
    rw [ne_eq, message_eq_iff, not_not]
  refine ⟨hmessage, fun P signingKey publicKey hunf => ?_⟩
  rw [ne_eq, verifySignature_transfer hunf]
  exact hmessage

/-- A profile with the header template of `webrtc_zoom_v3`. -/
def sample : MaskProfile where
  headerTemplate := [0, 1, 2, 3]
  ephPubOffset := 4
  ephPubLength := 32
  paddingStrategy := .randomUniform 0 64
  maskId := "webrtc_zoom_v3"
  version := 1
  createdAt := 0
  expiresAt := 0xFFFFFFFFFFFFFFFF
  spoofProtocol := .webRtcStun
  sizeDistribution := ⟨.parametric, [], some .bimodal, none⟩
  iatDistribution := ⟨.logNormal, [], (0, 0)⟩
  fsmStates := []
  fsmInitialState := 0
  signatureVector := List.replicate 64 0
  reverseProfile := none
  signature := default

/-- Signatures that are the first 64 bytes of their messages. -/
def prefixSigner : Primitives :=
  { samplePrimitives with
    sign := fun _ m => readArray 64 0 m
    verify := fun _ m signature => some (decide (signature = readArray 64 0 m)) }

/-- The signature of a profile is not valid for the profile with another version. -/
theorem signature_covers_version :
    { sample with version := 2, signature := prefixSigner.sign default sample.message }.verifySignature
      prefixSigner default ≠ .ok true := by
  have hunf : UnforgeableOn prefixSigner default default
      {sample.message, { sample with version := 2 }.message} := by
    constructor
    · rintro m -
      exact congrArg some (decide_eq_true rfl)
    · intro m hm m' hm' hvalid
      rcases hm with rfl | rfl <;> rcases hm' with rfl | rfl
      · rfl
      · revert hvalid
        decide +kernel
      · revert hvalid
        decide +kernel
      · rfl
  refine ((signature_covers_iff sample { sample with version := 2 }).2 prefixSigner default default
    hunf).2 ?_
  refine ((signature_covers_iff sample { sample with version := 2 }).1).1 ?_
  decide +kernel

/-- The message says nothing of `eph_pub_length`, with which every handshake header is built. -/
theorem signature_misses_ephPubLength :
    ¬ ∀ p q : MaskProfile, p.Differs q → p.message ≠ q.message := by
  intro hclaim
  refine hclaim sample { sample with ephPubLength := 16 } ?_ rfl
  intro h
  have hlength := congrArg (fun p : MaskProfile => p.ephPubLength) h
  revert hlength
  decide

end MaskProfile

end Mask

end Aivpn
