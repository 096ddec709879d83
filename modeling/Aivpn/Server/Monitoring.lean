import Aivpn.Server.MaskCatalog
import Aivpn.Server.Recovery

/-!
# Monitoring of masks

`Gateway::resonance_check_loop` with the neural module of `neural.rs`. The module has an encoder for
each mask that was in the catalog when the gateway was built; without one a check is skipped. A mask
that is found compromised is replaced in the session by a fallback of the catalog, which generates
variants when it runs low. Variants are not registered in the module, so the masks of all sessions
stay monitored exactly as long as every rotation picks a mask of the start (`monitored_iff`).

The measurements of the module are floating-point computations; what their comparisons with the
thresholds give comes with the environment, and so do the anomalies.
-/

set_option autoImplicit false

namespace Aivpn

open Aivpn.Lib

/-- `ResonanceStatus`. -/
inductive ResonanceStatus where
  | healthy
  | warning
  | compromised
  | skip
deriving DecidableEq, Repr

/-- `NeuralResonanceModule`: whether it is loaded, the masks with an encoder, and the sessions with
traffic statistics. -/
structure NeuralModule where
  loaded : Bool
  encoders : List String
  sessionStats : SessionId → Bool

namespace NeuralModule

/-- `FEAT_DIM`. -/
def featDim : Nat := 64

/-- `NeuralResonanceModule::new`. -/
def new : NeuralModule := ⟨false, [], fun _ => false⟩

/-- `load_model`. -/
def loadModel (n : NeuralModule) : NeuralModule := { n with loaded := true }

/-- `register_mask`. -/
def registerMask (mask : CatalogMask) (n : NeuralModule) : Except String NeuralModule :=
  let maskId := mask.maskId
  let len := mask.signatureLength
  if len < featDim then
    .error s!"Mask '{maskId}' signature_vector too short: {len} < {featDim}"
  else .ok { n with encoders := maskId :: n.encoders }

/-- `record_traffic`. -/
def recordTraffic (sid : SessionId) (n : NeuralModule) : NeuralModule :=
  { n with sessionStats := Function.update n.sessionStats sid true }

/-- `check_resonance`, for the outcomes of the comparisons with the two thresholds. -/
def checkResonance (n : NeuralModule) (exceedsCompromised exceedsWarning : Bool) (sid : SessionId)
    (maskId : String) : ResonanceStatus :=
  if !n.loaded then .skip
  else if !n.sessionStats sid then .skip
  else if maskId ∉ n.encoders then .skip
  else if exceedsCompromised then .compromised
  else if exceedsWarning then .warning
  else .healthy

end NeuralModule

/-- The gateway with its catalog, its neural module and the masks of its sessions. `assigned` lists
what `update_session_mask` has assigned, newest first; it is a history variable. -/
structure Monitor where
  gateway : Gateway
  catalog : MaskCatalog
  neural : NeuralModule
  sessionMask : SessionId → Option CatalogMask
  assigned : List (SessionId × String)

namespace Monitor

/-- What one iteration of the loop finds: the outcomes of the comparisons, the anomalous masks, the
bases of new variants, the order in which the catalog is iterated when a fallback is selected (for a
compromised and for an anomalous mask), and the serialized masks. -/
structure CheckEnv where
  clock : Env
  exceedsCompromised : SessionId → String → Bool
  exceedsWarning : SessionId → String → Bool
  anomalous : String → Bool
  base : UInt32 → Bool
  order : SessionId → Bool → List String
  serialize : CatalogMask → Option Bytes

/-- The encoders that `Gateway::new` registers. Errors are ignored. -/
def registerAll (masks : List CatalogMask) (n : NeuralModule) : NeuralModule :=
  masks.foldl (fun n mask => match n.registerMask mask with
    | .ok n => n
    | .error _ => n) n

/-- The monitor of a gateway with `enable_neural`, as `Gateway::new` sets it up. -/
def start (g : Gateway) : Monitor where
  gateway := g
  catalog := .new
  neural := (registerAll (MaskCatalog.new.masks.entries.map Sigma.snd) .new).loadModel
  sessionMask := fun _ => none
  assigned := []

variable (P : Primitives) (rng : Randomness) (cfg : GatewayConfig) (env : CheckEnv)

/-- `update_session_mask`: the session gets the mask, whatever becomes of the notification. -/
def updateSessionMask (sid : SessionId) (mask : CatalogMask) (m : Monitor) : Monitor :=
  if sid ∈ m.gateway.sessionManager.sessions then
    { m with
      sessionMask := Function.update m.sessionMask sid (some mask)
      assigned := (sid, mask.maskId) :: m.assigned }
  else m

/-- The notification of the client. Without a serialized mask `build_mask_update_packet` fails before
it takes anything from the session. -/
def notifyClient (sid : SessionId) (mask : CatalogMask) (m : Monitor) : Monitor :=
  match env.serialize mask with
  | some maskData =>
      { m with gateway := Gateway.step P rng cfg m.gateway (env.clock, .rotateMask sid maskData) }
  | none => m

/-- The rotation of a session's mask: the mask is marked, and a fallback is selected. -/
def rotate (sid : SessionId) (maskId : String) (order : List String) (m : Monitor) : Monitor :=
  let catalog := m.catalog.markCompromised env.clock.instant maskId
  match catalog.selectFallback env.clock.instant env.base order maskId with
  | (some mask, catalog) =>
      notifyClient P rng cfg env sid mask (updateSessionMask sid mask { m with catalog := catalog })
  | (none, catalog) => { m with catalog := catalog }

/-- The check of a session with the mask it had at the start of the iteration. -/
def statusOf (sid : SessionId) (maskId : String) (m : Monitor) : ResonanceStatus :=
  m.neural.checkResonance (env.exceedsCompromised sid maskId) (env.exceedsWarning sid maskId) sid
    maskId

/-- The first part of the loop's body for one session. -/
def checkResonance (sid : SessionId) (maskId : String) (m : Monitor) : Monitor :=
  if statusOf env sid maskId m = .compromised then
    rotate P rng cfg env sid maskId (env.order sid false) m
  else m

/-- The second part: the anomaly detection. -/
def checkAnomaly (sid : SessionId) (maskId : String) (m : Monitor) : Monitor :=
  if env.anomalous maskId then rotate P rng cfg env sid maskId (env.order sid true) m else m

/-- The loop over the sessions. -/
def checkSessions : List (SessionId × String) → Monitor → Monitor
  | [], m => m
  | (sid, maskId) :: checks, m =>
      checkSessions checks
        (checkAnomaly P rng cfg env sid maskId (checkResonance P rng cfg env sid maskId m))

/-- The sessions with the ids of their masks. -/
def sessionChecks (m : Monitor) : List (SessionId × String) :=
  m.gateway.sessionManager.sessions.map fun sid =>
    (sid, ((m.sessionMask sid).map CatalogMask.maskId).getD "webrtc_zoom_v3")

/-- What can happen: a step of the gateway, a traffic sample of a session, an iteration of the
loop. -/
inductive Event where
  | gateway (e : Env × Gateway.Event)
  | recordTraffic (sid : SessionId)
  | check (env : CheckEnv)

/-- A session that is removed or new has no mask of its own. -/
def stepGateway (e : Env × Gateway.Event) (m : Monitor) : Monitor :=
  let g := Gateway.step P rng cfg m.gateway e
  { m with
    gateway := g
    sessionMask := fun sid =>
      if sid ∈ m.gateway.sessionManager.sessions ∧ sid ∈ g.sessionManager.sessions then
        m.sessionMask sid
      else none }

/-- One step. -/
def step (m : Monitor) : Event → Monitor
  | .gateway e => stepGateway P rng cfg e m
  | .recordTraffic sid => { m with neural := m.neural.recordTraffic sid }
  | .check env => checkSessions P rng cfg env m.sessionChecks m

/-! ## Which masks are monitored -/

/-- Every mask that was assigned to a session has an encoder, and the check of a session with enough
traffic is not skipped. -/
def Monitored (m : Monitor) : Prop :=
  (∀ a ∈ m.assigned, a.2 ∈ m.neural.encoders) ∧
    ∀ sid mask, m.sessionMask sid = some mask → m.neural.sessionStats sid = true →
      ∀ c w, m.neural.checkResonance c w sid mask.maskId ≠ .skip

/-- The masks of the start. -/
def startIds : List String := ["webrtc_zoom_v3", "quic_https_v2"]

/-- In the order of iteration, the first mask other than the compromised one is a mask of the
start. -/
def StartMaskFirst (maskId : String) (order : List String) (m : Monitor) : Prop :=
  let catalog := m.catalog.markCompromised env.clock.instant maskId
  let catalog := (catalog.recycleExpired env.clock.instant env.base).refill env.base
  ∀ first, (catalog.iterate order).find? (fun id => id != maskId) = some first → first ∈ startIds

/-- The rotations of an iteration come upon masks of the start. -/
def RotationsClear : List (SessionId × String) → Monitor → Prop
  | [], _ => True
  | (sid, maskId) :: checks, m =>
      let m' := checkResonance P rng cfg env sid maskId m
      (statusOf env sid maskId m = .compromised → sid ∈ m.gateway.sessionManager.sessions →
        StartMaskFirst env maskId (env.order sid false) m) ∧
      (env.anomalous maskId = true → sid ∈ m'.gateway.sessionManager.sessions →
        StartMaskFirst env maskId (env.order sid true) m') ∧
      RotationsClear checks (checkAnomaly P rng cfg env sid maskId m')

/-- Where the step is an iteration, its rotations come upon masks of the start. -/
def StepClear (m : Monitor) : Event → Prop
  | .check env => RotationsClear P rng cfg env m.sessionChecks m
  | _ => True

/-! ## Rotations -/

/-- What holds between steps: the module has the encoders of the start, and the masks of the sessions
were assigned. -/
structure Inv (m : Monitor) : Prop where
  loaded : m.neural.loaded = true
  encoders : ∀ id, id ∈ m.neural.encoders ↔ id ∈ startIds
  keyed : m.catalog.Keyed
  assigned : ∀ sid mask, m.sessionMask sid = some mask → (sid, mask.maskId) ∈ m.assigned

/-- All masks that were assigned are masks of the start. -/
def OnStartMasks (m : Monitor) : Prop := ∀ a ∈ m.assigned, a.2 ∈ startIds

theorem Inv.onStartMasks_iff {m : Monitor} (hm : m.Inv) : m.Monitored ↔ m.OnStartMasks := by
  constructor
  · exact fun h a ha => (hm.encoders a.2).1 (h.1 a ha)
  · intro h
    refine ⟨fun a ha => (hm.encoders a.2).2 (h a ha), ?_⟩
    intro sid mask hmask hstats c w
    have hencoder : mask.maskId ∈ m.neural.encoders :=
      (hm.encoders _).2 (h _ (hm.assigned sid mask hmask))
    unfold NeuralModule.checkResonance
    rw [hm.loaded, hstats]
    cases c <;> cases w <;> simp [hencoder]

theorem updateSessionMask_spec {m : Monitor} (hm : m.Inv) (sid : SessionId) (mask : CatalogMask) :
    (updateSessionMask sid mask m).Inv ∧
      ((updateSessionMask sid mask m).OnStartMasks ↔ m.OnStartMasks ∧
        (sid ∈ m.gateway.sessionManager.sessions → mask.maskId ∈ startIds)) := by
  unfold updateSessionMask
  split_ifs with hlive
  · refine ⟨⟨hm.loaded, hm.encoders, hm.keyed, ?_⟩, ?_⟩
    · intro sid' mask' hmask
      simp only at hmask ⊢
      by_cases heq : sid' = sid
      · subst heq
        rw [Function.update_self] at hmask
        cases hmask
        exact List.mem_cons_self
      · rw [Function.update_of_ne heq] at hmask
        exact List.mem_cons_of_mem _ (hm.assigned sid' mask' hmask)
    · unfold OnStartMasks
      simp only [List.forall_mem_cons, hlive, true_implies]
      exact and_comm
  · exact ⟨hm, by simp [hlive]⟩

/-- The notification leaves the masks alone. -/
theorem notifyClient_spec {m : Monitor} (hm : m.Inv) (sid : SessionId) (mask : CatalogMask) :
    (notifyClient P rng cfg env sid mask m).Inv ∧
      ((notifyClient P rng cfg env sid mask m).OnStartMasks ↔ m.OnStartMasks) := by
  unfold notifyClient
  split
  · exact ⟨⟨hm.loaded, hm.encoders, hm.keyed, hm.assigned⟩, Iff.rfl⟩
  · exact ⟨hm, Iff.rfl⟩

/-- A rotation keeps the sessions on masks of the start if and only if it comes upon one. -/
theorem rotate_spec {m : Monitor} (hm : m.Inv) (sid : SessionId) (maskId : String)
    (order : List String) :
    (rotate P rng cfg env sid maskId order m).Inv ∧
      ((rotate P rng cfg env sid maskId order m).OnStartMasks ↔ m.OnStartMasks ∧
        (sid ∈ m.gateway.sessionManager.sessions → StartMaskFirst env maskId order m)) := by
  have hkeyed := hm.keyed.markCompromised env.clock.instant maskId
  have hfirst := MaskCatalog.selectFallback_eq hkeyed env.clock.instant env.base order maskId
  have hkeyed' := (hkeyed.recycle env.base
    ((m.catalog.markCompromised env.clock.instant maskId).expired env.clock.instant)).refill
    env.base
  unfold rotate StartMaskFirst
  simp only
  rw [← hfirst]
  cases hselect : (m.catalog.markCompromised env.clock.instant maskId).selectFallback
      env.clock.instant env.base order maskId with
  | mk fallback catalog =>
      -- the catalog behind the choice is the one refilled, whatever was chosen
      have hcatalog : catalog.Keyed := by
        have hsnd := congrArg Prod.snd hselect
        change _ = catalog at hsnd
        rw [← hsnd]
        exact hkeyed'
      have hm' : ({ m with catalog := catalog } : Monitor).Inv :=
        ⟨hm.loaded, hm.encoders, hcatalog, hm.assigned⟩
      cases fallback with
      | none => exact ⟨hm', by simp [OnStartMasks]⟩
      | some mask =>
          obtain ⟨hinv, hiff⟩ := updateSessionMask_spec hm' sid mask
          obtain ⟨hinv', hiff'⟩ := notifyClient_spec P rng cfg env hinv sid mask
          refine ⟨hinv', hiff'.trans (hiff.trans
            (and_congr_right fun _ => imp_congr_right fun _ => ?_))⟩
          simp

theorem checkResonance_spec {m : Monitor} (hm : m.Inv) (sid : SessionId) (maskId : String) :
    (checkResonance P rng cfg env sid maskId m).Inv ∧
      ((checkResonance P rng cfg env sid maskId m).OnStartMasks ↔ m.OnStartMasks ∧
        (statusOf env sid maskId m = .compromised → sid ∈ m.gateway.sessionManager.sessions →
          StartMaskFirst env maskId (env.order sid false) m)) := by
  unfold checkResonance
  split_ifs with hstatus
  · obtain ⟨hinv, hiff⟩ := rotate_spec P rng cfg env hm sid maskId (env.order sid false)
    exact ⟨hinv, by rw [hiff, forall_prop_of_true hstatus]⟩
  · exact ⟨hm, by simp [hstatus]⟩

theorem checkAnomaly_spec {m : Monitor} (hm : m.Inv) (sid : SessionId) (maskId : String) :
    (checkAnomaly P rng cfg env sid maskId m).Inv ∧
      ((checkAnomaly P rng cfg env sid maskId m).OnStartMasks ↔ m.OnStartMasks ∧
        (env.anomalous maskId = true → sid ∈ m.gateway.sessionManager.sessions →
          StartMaskFirst env maskId (env.order sid true) m)) := by
  unfold checkAnomaly
  split_ifs with hanomalous
  · obtain ⟨hinv, hiff⟩ := rotate_spec P rng cfg env hm sid maskId (env.order sid true)
    exact ⟨hinv, by rw [hiff, forall_prop_of_true hanomalous]⟩
  · exact ⟨hm, by simp [hanomalous]⟩

/-- An iteration keeps the sessions on masks of the start if and only if all its rotations come upon
them. -/
theorem checkSessions_spec {m : Monitor} (hm : m.Inv) (checks : List (SessionId × String)) :
    (checkSessions P rng cfg env checks m).Inv ∧
      ((checkSessions P rng cfg env checks m).OnStartMasks ↔ m.OnStartMasks ∧
        RotationsClear P rng cfg env checks m) := by
  induction checks generalizing m with
  | nil => exact ⟨hm, (and_iff_left trivial).symm⟩
  | cons check checks ih =>
      obtain ⟨sid, maskId⟩ := check
      obtain ⟨hinv, hiff⟩ := checkResonance_spec P rng cfg env hm sid maskId
      obtain ⟨hinv', hiff'⟩ := checkAnomaly_spec P rng cfg env hinv sid maskId
      obtain ⟨hrest, hrestIff⟩ := ih hinv'
      refine ⟨hrest, ?_⟩
      unfold checkSessions RotationsClear
      rw [hrestIff, hiff', hiff, and_assoc, and_assoc]

/-! ## Runs -/

theorem Inv.step {m : Monitor} (hm : m.Inv) (e : Event) :
    (step P rng cfg m e).Inv ∧
      ((step P rng cfg m e).OnStartMasks ↔ m.OnStartMasks ∧ StepClear P rng cfg m e) := by
  cases e with
  | gateway e =>
      refine ⟨⟨hm.loaded, hm.encoders, hm.keyed, ?_⟩, (and_iff_left trivial).symm⟩
      intro sid mask hmask
      simp only [Monitor.step, stepGateway] at hmask ⊢
      split_ifs at hmask
      exact hm.assigned sid mask hmask
  | recordTraffic sid =>
      exact ⟨⟨hm.loaded, hm.encoders, hm.keyed, hm.assigned⟩, (and_iff_left trivial).symm⟩
  | check env => exact checkSessions_spec P rng cfg env hm m.sessionChecks

theorem encoders_start :
    (registerAll (MaskCatalog.new.masks.entries.map Sigma.snd) .new).encoders = startIds := by
  decide +kernel

theorem inv_start (g : Gateway) : (start g).Inv where
  loaded := rfl
  encoders := by
    intro id
    rw [← encoders_start]
    exact Iff.rfl
  keyed := CatalogRun.inv_start.keyed
  assigned := fun _ _ h => by cases h

/-- In every run of the gateway with the neural module: all masks that were assigned to sessions are
monitored, behind every step, if and only if every rotation comes upon a mask of the start before it
comes upon a generated variant. -/
theorem monitored_iff (g : Gateway) (es : List Event) :
    Along (step P rng cfg) (fun m e => (step P rng cfg m e).Monitored) (start g) es ↔
      Along (step P rng cfg) (StepClear P rng cfg) (start g) es := by
  have hstart : (start g).Inv ∧ (start g).OnStartMasks :=
    ⟨inv_start g, fun _ ha => absurd ha List.not_mem_nil⟩
  have hiff : ∀ (m : Monitor) (e : Event), m.Inv ∧ m.OnStartMasks → True →
      ((step P rng cfg m e).Monitored ↔ StepClear P rng cfg m e) := by
    intro m e hm _
    obtain ⟨hinv, hstep⟩ := hm.1.step P rng cfg e
    rw [hinv.onStartMasks_iff, hstep, and_iff_right hm.2]
  have hkeep : ∀ (m : Monitor) (e : Event), m.Inv ∧ m.OnStartMasks → True →
      StepClear P rng cfg m e → (step P rng cfg m e).Inv ∧ (step P rng cfg m e).OnStartMasks := by
    intro m e hm _ hclear
    obtain ⟨hinv, hstep⟩ := hm.1.step P rng cfg e
    exact ⟨hinv, hstep.2 ⟨hm.2, hclear⟩⟩
  exact along_iff_of_invariant hkeep hiff hstart (along_of_forall fun _ _ => trivial)

/-- An iteration that finds the mask of the first session compromised. The new variant is iterated
before the mask of the start that is left. -/
def sampleCheck : CheckEnv where
  clock := sampleEnv 101
  exceedsCompromised _ _ := true
  exceedsWarning _ _ := true
  anomalous _ := false
  base _ := true
  order _ _ := ["webrtc_v3_r1", "quic_https_v2"]
  serialize mask := some mask.maskId.toUTF8.data.toList

/-- A client connects, sends traffic, and its mask is found compromised. -/
def sampleRotation : List Event :=
  [.gateway (sampleEnv 100, .packet (sampleInit none 101) sampleAddr), .recordTraffic 0,
    .check sampleCheck]

/-- The session has got a variant, and from now on its checks are skipped. -/
theorem rotated_mask_unmonitored :
    let m := runFrom (step samplePrimitives sampleRandomness sampleConfig)
      (start (Gateway.new sampleServerKeys default none)) sampleRotation
    0 ∈ m.gateway.sessionManager.sessions ∧ m.assigned = [(0, "webrtc_v3_r1")] ∧
      ¬ m.Monitored := by
  intro m
  have hassigned : m.assigned = [(0, "webrtc_v3_r1")] := by decide +kernel
  refine ⟨by decide +kernel, hassigned, ?_⟩
  rintro ⟨hencoders, -⟩
  have hencoder := hencoders (0, "webrtc_v3_r1") (by rw [hassigned]; exact List.mem_cons_self)
  revert hencoder
  decide +kernel

end Monitor

end Aivpn
