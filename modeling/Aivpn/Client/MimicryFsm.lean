import Aivpn.Client.Mimicry
import Aivpn.Lib.Runs
import Mathlib.Logic.Relation

/-!
# The state machine of a mask

`MaskProfile::process_transition`, with the two places that drive it: `MimicryEngine::update_fsm` after
each packet of a client and `Session::update_fsm` after each packet that the gateway accepts. A
transition of a state that leads back to the state has no effect but hides those behind it.

In every run the engine is in a state that the table leads to, and what it has in force instead of the
distributions and the padding of the mask is what stands in the transition by which it came
(`mimicry_fsm_run`). A session starts at state 0 whatever the mask says, so it is in step with the
engine exactly for the masks that start there (`session_in_step_iff`).
-/

set_option autoImplicit false

namespace Aivpn

open Aivpn.Lib

/-- The padding is not drawn from a range without elements. -/
def PaddingStrategy.Proper : PaddingStrategy → Prop
  | randomUniform min max => min ≤ max
  | matchDistribution => True
  | fixed _ => True

theorem PaddingStrategy.calcPadding_ne_panic {s : PaddingStrategy} (h : s.Proper)
    (r : PacketRandomness) (payloadSize : Nat) : s.calcPadding r payloadSize ≠ .error .panic := by
  intro hpanic
  cases s with
  | randomUniform min max =>
      have hrange : min ≤ max := h
      rw [calcPadding, if_pos hrange] at hpanic
      cases hpanic
  | matchDistribution => cases hpanic
  | fixed size => cases hpanic

namespace Mask

/-- The outcomes of the random conditions in one call, by the position of the transition. -/
abbrev Rolls := Nat → F32 → Bool

/-- `should_transition`. -/
def TransitionCondition.holds (roll : F32 → Bool) (packetsInState : UInt32)
    (durationInStateMs : UInt64) : TransitionCondition → Bool
  | afterPackets n => n ≤ packetsInState
  | afterDuration ms => ms ≤ durationInStateMs
  | random prob => roll prob
  | onPayloadType _ => false

/-- The first transition whose condition holds. -/
def firing (rolls : Rolls) (packetsInState : UInt32) (durationInStateMs : UInt64) :
    Nat → List FsmTransition → Option FsmTransition
  | _, [] => none
  | i, t :: ts =>
      if t.condition.holds (rolls i) packetsInState durationInStateMs then some t
      else firing rolls packetsInState durationInStateMs (i + 1) ts

/-- What is in force instead of the size distribution, the arrival times and the padding. -/
structure Overrides where
  size : Option SizeDistribution
  iat : Option IatDistribution
  padding : Option PaddingStrategy
deriving DecidableEq, Repr

/-- No override. -/
def Overrides.none : Overrides := ⟨.none, .none, .none⟩

/-- The overrides of a transition. -/
def FsmTransition.overrides (t : FsmTransition) : Overrides :=
  ⟨t.sizeOverride, t.iatOverride, t.paddingOverride⟩

namespace MaskProfile

/-- The transitions of a state, none if the table does not have it. -/
def transitionsOf (p : MaskProfile) (state : UInt16) : List FsmTransition :=
  match p.fsmStates.find? fun s => s.stateId = state with
  | some s => s.transitions
  | none => []

/-- `MaskProfile::process_transition`. -/
def processTransition (p : MaskProfile) (rolls : Rolls) (currentState : UInt16)
    (packetsInState : UInt32) (durationInStateMs : UInt64) : UInt16 × Overrides :=
  match firing rolls packetsInState durationInStateMs 0 (p.transitionsOf currentState) with
  | some t => (t.nextState, t.overrides)
  | none => (currentState, Overrides.none)

end MaskProfile

/-! ## The engine of a client -/

/-- `MimicryState`. The start is the reading of the clock in milliseconds. -/
structure MimicryState where
  currentState : UInt16
  packetsInState : UInt32
  stateStart : Nat
  overrides : Overrides

/-- `MimicryEngine` with the whole profile and its state. -/
structure MimicryEngine where
  mask : MaskProfile
  state : MimicryState

namespace MimicryEngine

/-- `MimicryEngine::new`. -/
def new (mask : MaskProfile) (now : Nat) : MimicryEngine :=
  ⟨mask, ⟨mask.fsmInitialState, 0, now, Overrides.none⟩⟩

/-- `MimicryEngine::update_mask`. -/
def updateMask (newMask : MaskProfile) (now : Nat) (_ : MimicryEngine) : MimicryEngine :=
  new newMask now

/-- `MimicryEngine::update_fsm`; the clock is read as `now` for the duration and as `later` for the
start of the next state. -/
def updateFsm (rolls : Rolls) (now later : Nat) (e : MimicryEngine) : MimicryEngine :=
  let durationMs := UInt64.ofNat (now - e.state.stateStart)
  let (newState, overrides) :=
    e.mask.processTransition rolls e.state.currentState e.state.packetsInState durationMs
  let state := if newState ≠ e.state.currentState then
    { currentState := newState, packetsInState := 0, stateStart := later, overrides := overrides }
    else e.state
  { e with state := { state with packetsInState := state.packetsInState + 1 } }

/-- The engine as the packet builders see it. -/
def toBuilder (e : MimicryEngine) : Aivpn.MimicryEngine :=
  ⟨e.mask.toMaskProfile, e.state.overrides.padding⟩

/-- A packet has been sent, or the mask is exchanged. -/
inductive Event where
  | updateFsm (rolls : Rolls) (now later : Nat)
  | updateMask (newMask : MaskProfile) (now : Nat)

/-- One event. -/
def step (e : MimicryEngine) : Event → MimicryEngine
  | .updateFsm rolls now later => e.updateFsm rolls now later
  | .updateMask newMask now => e.updateMask newMask now

end MimicryEngine

/-! ## The session of the gateway -/

/-- The fields of a session that `update_fsm` works on. -/
structure SessionFsm where
  mask : Option MaskProfile
  fsmState : UInt16
  fsmPackets : UInt32
  fsmStateStart : Nat

namespace SessionFsm

/-- The part of `update_session_mask` about these fields. -/
def updateSessionMask (newMask : MaskProfile) (now : Nat) (_ : SessionFsm) : SessionFsm :=
  ⟨some newMask, 0, 0, now⟩

/-- `Session::update_fsm`. -/
def updateFsm (rolls : Rolls) (now later : Nat) (s : SessionFsm) : SessionFsm :=
  let s := match s.mask with
    | some mask =>
        let durationMs := UInt64.ofNat (now - s.fsmStateStart)
        let (newState, _) := mask.processTransition rolls s.fsmState s.fsmPackets durationMs
        if newState ≠ s.fsmState then
          { s with fsmState := newState, fsmPackets := 0, fsmStateStart := later }
        else s
    | none => s
  { s with fsmPackets := s.fsmPackets + 1 }

/-- One packet, or the exchange of the mask. -/
def step (s : SessionFsm) : MimicryEngine.Event → SessionFsm
  | .updateFsm rolls now later => s.updateFsm rolls now later
  | .updateMask newMask now => s.updateSessionMask newMask now

end SessionFsm

/-! ## The table -/

namespace MaskProfile

variable (p : MaskProfile)

/-- The table has the transition, it leads away from its state, and its condition can hold. -/
def Moves (state : UInt16) (t : FsmTransition) : Prop :=
  t ∈ p.transitionsOf state ∧ t.nextState ≠ state ∧ ∀ payloadType, t.condition ≠ .onPayloadType payloadType

/-- The table leads from one state to the other. -/
def Reach : UInt16 → UInt16 → Prop :=
  Relation.ReflTransGen fun s s' => ∃ t, p.Moves s t ∧ t.nextState = s'

/-- After `n` packets a transition leads away from the state, and no transition that leads back to it
stands in front. -/
def LeavesAfter (state : UInt16) (n : UInt32) : Prop :=
  ∃ pre t post, p.transitionsOf state = pre ++ t :: post ∧ t.condition = .afterPackets n ∧
    t.nextState ≠ state ∧ ∀ u ∈ pre, u.nextState ≠ state

/-- The padding of the mask is proper, and that of every transition which the table leads to. -/
def ProperPadding : Prop :=
  p.paddingStrategy.Proper ∧ ∀ s t padding, p.Reach p.fsmInitialState s → p.Moves s t →
    t.paddingOverride = some padding → padding.Proper

end MaskProfile

/-! ## One call -/

section

variable {rolls : Rolls} {packetsInState : UInt32} {durationInStateMs : UInt64} {i : Nat}
  {ts : List FsmTransition} {t : FsmTransition}

theorem mem_of_firing (h : firing rolls packetsInState durationInStateMs i ts = some t) :
    t ∈ ts ∧ ∃ j, t.condition.holds (rolls j) packetsInState durationInStateMs = true := by
  induction ts generalizing i with
  | nil => cases h
  | cons u us ih =>
      rw [firing] at h
      split_ifs at h with hholds
      · obtain rfl := Option.some.inj h
        exact ⟨List.mem_cons_self, i, hholds⟩
      · obtain ⟨hmem, hj⟩ := ih h
        exact ⟨List.mem_cons_of_mem u hmem, hj⟩

/-- When the packets are enough for one transition, it fires or one in front of it does. -/
theorem firing_of_afterPackets {pre post : List FsmTransition} {n : UInt32}
    (hsplit : ts = pre ++ t :: post) (ht : t.condition = .afterPackets n) (hn : n ≤ packetsInState) :
    ∃ u, firing rolls packetsInState durationInStateMs i ts = some u ∧ (u = t ∨ u ∈ pre) := by
  subst hsplit
  induction pre generalizing i with
  | nil =>
      have hholds : t.condition.holds (rolls i) packetsInState durationInStateMs = true := by
        rw [ht]
        exact decide_eq_true hn
      exact ⟨t, if_pos hholds, Or.inl rfl⟩
  | cons v pre ih =>
      rw [List.cons_append, firing]
      split_ifs with hholds
      · exact ⟨v, rfl, Or.inr List.mem_cons_self⟩
      · obtain ⟨u, hu, hmem⟩ := ih (i := i + 1)
        exact ⟨u, hu, hmem.imp_right (List.mem_cons_of_mem v)⟩

theorem holds_ne_onPayloadType {roll : F32 → Bool} {c : TransitionCondition}
    (h : c.holds roll packetsInState durationInStateMs = true) (payloadType : UInt8) :
    c ≠ .onPayloadType payloadType := by
  rintro rfl
  cases h

end

namespace MaskProfile

variable {p : MaskProfile} {rolls : Rolls} {state : UInt16} {packetsInState : UInt32}
  {durationInStateMs : UInt64}

/-- A call moves along a transition of the table, or it stays. -/
theorem processTransition_cases (p : MaskProfile) (rolls : Rolls) (state : UInt16)
    (packetsInState : UInt32) (durationInStateMs : UInt64) :
    (∃ t, p.Moves state t ∧ p.processTransition rolls state packetsInState durationInStateMs =
      (t.nextState, t.overrides)) ∨
    (p.processTransition rolls state packetsInState durationInStateMs).1 = state := by
  unfold processTransition
  cases hfiring : firing rolls packetsInState durationInStateMs 0 (p.transitionsOf state) with
  | none => exact Or.inr rfl
  | some t =>
      obtain ⟨hmem, j, hholds⟩ := mem_of_firing hfiring
      by_cases hself : t.nextState = state
      · exact Or.inr hself
      · exact Or.inl ⟨t, ⟨hmem, hself, holds_ne_onPayloadType hholds⟩, rfl⟩

/-- A call does not stay once there were packets enough. -/
theorem processTransition_leaves {n : UInt32} (h : p.LeavesAfter state n) (hn : n ≤ packetsInState) :
    (p.processTransition rolls state packetsInState durationInStateMs).1 ≠ state := by
  obtain ⟨pre, t, post, hsplit, ht, hnext, hpre⟩ := h
  obtain ⟨u, hu, hmem⟩ := firing_of_afterPackets (i := 0) hsplit ht hn
  unfold processTransition
  rw [hu]
  rcases hmem with rfl | hmem
  · exact hnext
  · exact hpre u hmem

end MaskProfile

namespace MimicryEngine

/-- What an update does: it moves along a transition and counts the packet there, or it only counts
the packet. -/
theorem updateFsm_cases (rolls : Rolls) (now later : Nat) (e : MimicryEngine) :
    (∃ t, e.mask.Moves e.state.currentState t ∧
      e.updateFsm rolls now later = ⟨e.mask, ⟨t.nextState, 1, later, t.overrides⟩⟩) ∨
    (e.updateFsm rolls now later =
        ⟨e.mask, { e.state with packetsInState := e.state.packetsInState + 1 }⟩ ∧
      ∀ n, e.mask.LeavesAfter e.state.currentState n → ¬ n ≤ e.state.packetsInState) := by
  unfold updateFsm
  rcases e.mask.processTransition_cases rolls e.state.currentState e.state.packetsInState
    (UInt64.ofNat (now - e.state.stateStart)) with ⟨t, hmoves, ht⟩ | hstays
  · refine Or.inl ⟨t, hmoves, ?_⟩
    simp only [ht, ne_eq, hmoves.2.1, not_false_eq_true, if_true]
    rfl
  · refine Or.inr ⟨?_, fun n hleaves hn => MaskProfile.processTransition_leaves hleaves hn hstays⟩
    simp only [hstays, ne_eq, not_true_eq_false, if_false]

/-- What holds of the engine in every run. -/
structure Kept (e : MimicryEngine) : Prop where
  reach : e.mask.Reach e.mask.fsmInitialState e.state.currentState
  overrides : (e.state.currentState = e.mask.fsmInitialState ∧ e.state.overrides = Overrides.none) ∨
    ∃ s t, e.mask.Reach e.mask.fsmInitialState s ∧ e.mask.Moves s t ∧
      t.nextState = e.state.currentState ∧ e.state.overrides = t.overrides
  dwell : ∀ n, e.mask.LeavesAfter e.state.currentState n →
    e.state.packetsInState.toNat ≤ max 1 n.toNat

theorem kept_new (mask : MaskProfile) (now : Nat) : (new mask now).Kept where
  reach := Relation.ReflTransGen.refl
  overrides := Or.inl ⟨rfl, rfl⟩
  dwell := fun _ _ => Nat.zero_le _

theorem Kept.updateFsm {e : MimicryEngine} (h : e.Kept) (rolls : Rolls) (now later : Nat) :
    (e.updateFsm rolls now later).Kept := by
  rcases e.updateFsm_cases rolls now later with ⟨t, hmoves, hstep⟩ | ⟨hstep, hstays⟩
  · rw [hstep]
    constructor
    · exact h.reach.tail ⟨t, hmoves, rfl⟩
    · exact Or.inr ⟨e.state.currentState, t, h.reach, hmoves, rfl, rfl⟩
    · exact fun n _ => le_max_left 1 n.toNat
  · rw [hstep]
    constructor
    · exact h.reach
    · exact h.overrides
    · -- below `n`, so that the count does not wrap
      intro n hleaves
      have hlt : e.state.packetsInState.toNat < n.toNat :=
        Nat.lt_of_not_le fun hle => hstays n hleaves (UInt32.le_iff_toNat_le.2 hle)
      have hmax := n.toNat_lt
      have hnext : (e.state.packetsInState + 1).toNat = e.state.packetsInState.toNat + 1 := by
        rw [UInt32.toNat_add, UInt32.toNat_one]
        omega
      show (e.state.packetsInState + 1).toNat ≤ max 1 n.toNat
      omega

theorem Kept.step {e : MimicryEngine} (h : e.Kept) (event : Event) : (e.step event).Kept := by
  cases event with
  | updateFsm rolls now later => exact h.updateFsm rolls now later
  | updateMask newMask now => exact kept_new newMask now

theorem Kept.calcPadding_ne_panic {e : MimicryEngine} (h : e.Kept) (hproper : e.mask.ProperPadding)
    (r : PacketRandomness) (payloadSize : Nat) :
    e.toBuilder.calcPadding r payloadSize ≠ .error .panic := by
  apply PaddingStrategy.calcPadding_ne_panic
  show (e.state.overrides.padding.getD e.mask.paddingStrategy).Proper
  cases hpadding : e.state.overrides.padding with
  | none => exact hproper.1
  | some padding =>
      rcases h.overrides with ⟨-, hnone⟩ | ⟨s, t, hreach, hmoves, -, hoverrides⟩
      · rw [hnone] at hpadding
        cases hpadding
      · rw [hoverrides] at hpadding
        exact hproper.2 s t padding hreach hmoves hpadding

end MimicryEngine

/-- The engine in every run, with any masks one after the other. Its state is one that the table of its
mask leads to from the initial state. In force are the overrides of a transition that leads into that
state, or none while the mask has not moved. It sends at most `n` packets (and one at least) in a state
that is left after `n`. Where the mask has no empty range of paddings, no packet panics. -/
theorem mimicry_fsm_run (mask : MaskProfile) (start : Nat) (es : List MimicryEngine.Event) :
    let e := runFrom MimicryEngine.step (MimicryEngine.new mask start) es
    e.mask.Reach e.mask.fsmInitialState e.state.currentState ∧
    ((e.state.currentState = e.mask.fsmInitialState ∧ e.state.overrides = Overrides.none) ∨
      ∃ s t, e.mask.Reach e.mask.fsmInitialState s ∧ e.mask.Moves s t ∧
        t.nextState = e.state.currentState ∧ e.state.overrides = t.overrides) ∧
    (∀ n, e.mask.LeavesAfter e.state.currentState n →
      e.state.packetsInState.toNat ≤ max 1 n.toNat) ∧
    (e.mask.ProperPadding → ∀ r payloadSize,
      e.toBuilder.calcPadding r payloadSize ≠ .error .panic) := by
  intro e
  have hkept : e.Kept := runFrom_invariant (fun _ event h => h.step event)
    (MimicryEngine.kept_new mask start) es
  exact ⟨hkept.reach, hkept.overrides, hkept.dwell, hkept.calcPadding_ne_panic⟩

/-! ## The preset masks -/

/-- Sixty-four zeros, as bit patterns. -/
def zeroVector : List F32 := List.replicate 64 0

/-- `webrtc_zoom_v3`. -/
def webrtcZoomV3 : MaskProfile where
  headerTemplate := [0x00, 0x01, 0x02, 0x03]
  ephPubOffset := 4
  ephPubLength := 32
  paddingStrategy := .randomUniform 0 64
  maskId := "webrtc_zoom_v3"
  version := 1
  createdAt := 0
  expiresAt := 0xFFFFFFFFFFFFFFFF
  spoofProtocol := .webRtcStun
  sizeDistribution := ⟨.parametric, [], some .bimodal, some [0x4014000000000000, 0x3FE0000000000000]⟩
  iatDistribution := ⟨.logNormal, [0x4004000000000000, 0x3FD3333333333333],
    (0x4014000000000000, 0x4034000000000000)⟩
  fsmStates := [⟨0, [⟨.afterDuration 5000, 1, none, none, none⟩]⟩, ⟨1, []⟩]
  fsmInitialState := 0
  signatureVector := zeroVector
  reverseProfile := none
  signature := ByteArr.replicate 64 0

/-- `quic_https_v2`. -/
def quicHttpsV2 : MaskProfile where
  headerTemplate := [0xC0, 0xFF, 0xEE, 0x00]
  ephPubOffset := 4
  ephPubLength := 32
  paddingStrategy := .matchDistribution
  maskId := "quic_https_v2"
  version := 1
  createdAt := 0
  expiresAt := 0xFFFFFFFFFFFFFFFF
  spoofProtocol := .quic
  sizeDistribution := ⟨.histogram,
    [(64, 128, 0x3E99999A), (256, 512, 0x3ECCCCCD), (768, 1200, 0x3E99999A)], none, none⟩
  iatDistribution := ⟨.exponential, [0x3FB999999999999A], (0, 0x4024000000000000)⟩
  fsmStates := [⟨0, []⟩]
  fsmInitialState := 0
  signatureVector := zeroVector
  reverseProfile := none
  signature := ByteArr.replicate 64 0

/-- The masks of `preset_masks`. -/
def presetMasks : List MaskProfile := [webrtcZoomV3, quicHttpsV2]

/-- The only transition of a preset mask has no override, and is not taken after packets. -/
theorem transition_of_preset {p : MaskProfile} (hp : p ∈ presetMasks) {state : UInt16}
    {t : FsmTransition} (ht : t ∈ p.transitionsOf state) :
    t = ⟨.afterDuration 5000, 1, none, none, none⟩ := by
  unfold MaskProfile.transitionsOf at ht
  rcases List.mem_pair.1 hp with rfl | rfl
  · cases hfind : webrtcZoomV3.fsmStates.find? fun s => s.stateId = state with
    | none =>
        rw [hfind] at ht
        cases ht
    | some s =>
        rw [hfind] at ht
        rcases List.mem_pair.1 (List.mem_of_find?_eq_some hfind) with rfl | rfl
        · exact List.mem_singleton.1 ht
        · cases ht
  · cases hfind : quicHttpsV2.fsmStates.find? fun s => s.stateId = state with
    | none =>
        rw [hfind] at ht
        cases ht
    | some s =>
        rw [hfind] at ht
        obtain rfl := List.mem_singleton.1 (List.mem_of_find?_eq_some hfind)
        cases ht

theorem properPadding_of_preset {p : MaskProfile} (hp : p ∈ presetMasks) : p.ProperPadding := by
  refine ⟨?_, fun s t padding _ hmoves hpadding => ?_⟩
  · rcases List.mem_pair.1 hp with rfl | rfl
    · exact UInt16.zero_le
    · trivial
  · rw [transition_of_preset hp hmoves.1] at hpadding
    cases hpadding

/-- No state of a preset mask is left after a number of packets. -/
theorem not_leavesAfter_of_preset {p : MaskProfile} (hp : p ∈ presetMasks) (state : UInt16)
    (n : UInt32) : ¬ p.LeavesAfter state n := by
  rintro ⟨pre, t, post, htransitions, hcondition, -⟩
  have ht : t ∈ p.transitionsOf state := by
    rw [htransitions]
    exact List.mem_append_right _ List.mem_cons_self
  rw [transition_of_preset hp ht] at hcondition
  cases hcondition

/-- With preset masks only, no packet of a run panics and nothing is ever overridden. The packet
bound says nothing of them. -/
theorem preset_run {mask : MaskProfile} (hmask : mask ∈ presetMasks) (start : Nat)
    (es : List MimicryEngine.Event)
    (hes : ∀ newMask now, .updateMask newMask now ∈ es → newMask ∈ presetMasks) :
    let e := runFrom MimicryEngine.step (MimicryEngine.new mask start) es
    (∀ r payloadSize, e.toBuilder.calcPadding r payloadSize ≠ .error .panic) ∧
      e.state.overrides = Overrides.none ∧ ∀ n, ¬ e.mask.LeavesAfter e.state.currentState n := by
  intro e
  have hinv : e.Kept ∧ e.mask ∈ presetMasks := by
    have hpreset : Along MimicryEngine.step
        (fun _ event => ∀ newMask now, event = .updateMask newMask now → newMask ∈ presetMasks)
        (MimicryEngine.new mask start) es :=
      along_of_forall fun event hmem newMask now heq => hes newMask now (heq ▸ hmem)
    have hstep : ∀ (e : MimicryEngine) (event : MimicryEngine.Event), e.Kept ∧ e.mask ∈ presetMasks →
        (∀ newMask now, event = .updateMask newMask now → newMask ∈ presetMasks) →
        (e.step event).Kept ∧ (e.step event).mask ∈ presetMasks := by
      intro e event h hevent
      refine ⟨h.1.step event, ?_⟩
      cases event with
      | updateFsm rolls now later => exact h.2
      | updateMask newMask now => exact hevent newMask now rfl
    exact runFrom_invariant_of_along hstep ⟨MimicryEngine.kept_new mask start, hmask⟩ hpreset
  refine ⟨hinv.1.calcPadding_ne_panic (properPadding_of_preset hinv.2), ?_,
    not_leavesAfter_of_preset hinv.2 _⟩
  rcases hinv.1.overrides with ⟨-, hnone⟩ | ⟨s, t, -, hmoves, -, hoverrides⟩
  · exact hnone
  · rw [hoverrides, transition_of_preset hinv.2 hmoves.1]
    rfl

/-! ## The session beside the engine -/

/-- The session and the engine are at the same place of the same mask. -/
structure InStep (s : SessionFsm) (e : MimicryEngine) : Prop where
  mask : s.mask = some e.mask
  state : s.fsmState = e.state.currentState
  packets : s.fsmPackets = e.state.packetsInState
  start : s.fsmStateStart = e.state.stateStart

theorem InStep.updateFsm {s : SessionFsm} {e : MimicryEngine} (h : InStep s e) (rolls : Rolls)
    (now later : Nat) : InStep (s.updateFsm rolls now later) (e.updateFsm rolls now later) := by
  unfold SessionFsm.updateFsm MimicryEngine.updateFsm
  simp only [h.mask, h.state, h.packets, h.start]
  split_ifs with hmoves
  · exact ⟨rfl, rfl, rfl, rfl⟩
  · exact ⟨h.mask, h.state, congrArg (· + 1) h.packets, h.start⟩

/-- A session and an engine that are given a mask at the same time, and the same packets behind it,
are in step exactly for the masks whose initial state is 0. -/
theorem session_in_step_iff (s : SessionFsm) (e : MimicryEngine) (mask : MaskProfile) (start : Nat) :
    (∀ packets : List (Rolls × Nat × Nat),
      let es := MimicryEngine.Event.updateMask mask start ::
        packets.map fun x => .updateFsm x.1 x.2.1 x.2.2
      InStep (runFrom SessionFsm.step s es) (runFrom MimicryEngine.step e es)) ↔
    mask.fsmInitialState = 0 := by
  constructor
  · intro h
    exact (h []).state.symm
  · intro hinitial packets
    have hrun : ∀ {s : SessionFsm} {e : MimicryEngine}, InStep s e → InStep
        (runFrom SessionFsm.step s (packets.map fun x => .updateFsm x.1 x.2.1 x.2.2))
        (runFrom MimicryEngine.step e (packets.map fun x => .updateFsm x.1 x.2.1 x.2.2)) := by
      induction packets with
      | nil => exact fun h => h
      | cons x packets ih => exact fun h => ih (h.updateFsm x.1 x.2.1 x.2.2)
    exact hrun ⟨rfl, hinitial.symm, rfl, rfl⟩

end Mask

end Aivpn
