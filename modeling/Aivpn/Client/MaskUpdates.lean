import Aivpn.Client.Delivery
import Aivpn.Client.SentPackets

/-!
# Mask updates and the shutdown message

`run` moves the packet builder out of the client and into the upload task. From then on the client
has no builder of its own: `update_mask` finds none to update, and `send_control`, through which
`disconnect` sends its Shutdown message, fails. `step_upload` says what is left: only the upload task
sends, and it does so under the mask of the configuration.

`watch` runs a client together with the mask of the last MaskUpdate that it has handled. With the
upload task running, the datagrams have the header template of that mask and a disconnect says
goodbye exactly along the runs in which the template never changes and no disconnect happens
(`meetsMasks_iff_of_run`).
-/

set_option autoImplicit false

namespace Aivpn

open Aivpn.Lib

namespace AivpnClient

open Action

section

variable (P : Primitives)

/-- The mask of the MaskUpdate that the client handles in a step. -/
def maskUpdated (c : AivpnClient) (e : ClientEnv × Event) : Option MaskProfile :=
  match e.2 with
  | .receive packet =>
      if c.stage = .running then
        match (decodePacket P e.1 packet (expireTransition e.1 c)).1 with
        | .ok decoded => match decoded.header.innerType, ControlPayload.decode decoded.payload with
            | .control, .ok (.maskUpdate maskData _) =>
                (e.1.fromSlice maskData).map Mask.MaskProfile.toMaskProfile
            | _, _ => none
        | .error _ => none
      else none
  | _ => none

/-- The client and the mask of the last MaskUpdate it has handled. -/
def watch (x : AivpnClient × Option MaskProfile) (e : ClientEnv × Event) :
    AivpnClient × Option MaskProfile :=
  (step P x.1 e, (maskUpdated P x.1 e).or x.2)

/-- The inner packet that the upload task makes of an event. -/
def uploadInner (task : UploadTask) : Event → Option Bytes
  | .data payload => some (buildInnerPacket .data task.state.seq payload)
  | .keepalive =>
      some (buildInnerPacket .control task.state.seq ControlPayload.keepalive.encode)
  | _ => none

/-- The upload task has a datagram to send, and the socket takes it. -/
def UploadSends (c : AivpnClient) (e : ClientEnv × Event) : Prop :=
  ∃ task inner prepared, c.upload = some task ∧ uploadInner task e.2 = some inner ∧
    task.engine.preparePacket e.1.draw inner none = .ok prepared ∧ e.1.sendOk = true

/-- The client disconnects while it is connected. -/
def Disconnects (c : AivpnClient) (e : ClientEnv × Event) : Prop :=
  c.state = .connected ∧ (step P c e).state = .disconnected

/-- A datagram sent in this step has the header template of the mask. -/
def SendsUnder (c : AivpnClient) (e : ClientEnv × Event) (mask : MaskProfile) : Prop :=
  ∀ packet call, (step P c e).sent = packet :: c.sent →
    (step P c e).log.calls = call :: c.log.calls →
    ∃ tag : Tag, packet =
      tag.toList ++ mask.headerTemplate ++ P.encrypt call.key call.nonce call.plaintext

/-- A Shutdown message is encrypted with the keys, the counter and the sequence number of the upload
state, and sent as far as the socket takes it. -/
def EmitsShutdown (c : AivpnClient) (e : ClientEnv × Event) : Prop :=
  ∃ task padding, c.upload = some task ∧
    (step P c e).log.calls = ⟨task.state.keys.sessionKey, counterToNonce task.state.counter,
      padPlaintext (buildInnerPacket .control task.state.seq (ControlPayload.shutdown 0).encode)
        padding⟩ :: c.log.calls ∧
    (e.1.sendOk = true → ∃ packet, (step P c e).sent = packet :: c.sent)

/-- With the upload task running, what is sent has the template of the last mask that was received,
and a disconnect of the connected client emits a Shutdown message. -/
def MeetsMasks (x : AivpnClient × Option MaskProfile) (e : ClientEnv × Event) : Prop :=
  x.1.upload ≠ none →
    (∀ mask, x.2 = some mask → SendsUnder P x.1 e mask) ∧
    (Disconnects P x.1 e → EmitsShutdown P x.1 e)

/-- The last mask received has the template of the configuration whenever the upload task sends, and
the connected client does not disconnect. -/
def KeepsTemplate (x : AivpnClient × Option MaskProfile) (e : ClientEnv × Event) : Prop :=
  x.1.upload ≠ none →
    (∀ mask, x.2 = some mask → x.1.UploadSends e →
      mask.headerTemplate = x.1.config.initialMask.headerTemplate) ∧
    ¬ Disconnects P x.1 e

end

variable {P : Primitives} {env : ClientEnv} {c : AivpnClient}

/-! ## A client without a packet builder -/

/-- From one state to the other nothing is sent, and nothing is encrypted. -/
def SendsNothing (c c' : AivpnClient) : Prop := c'.sent = c.sent ∧ c'.log.calls = c.log.calls

theorem SendsNothing.trans {c₁ c₂ : AivpnClient} (h : SendsNothing c c₁)
    (h' : SendsNothing c₁ c₂) : SendsNothing c c₂ :=
  ⟨h'.1.trans h.1, h'.2.trans h.2⟩

theorem sendControl_of_none (hnone : c.mimicryEngine = none) (payload : ControlPayload) :
    (sendControl P env payload c).2 = c := by
  unfold sendControl
  rw [bind_of_ok (gets_apply _ _)]
  simp only [id_eq, hnone]
  rfl

theorem disconnect_of_none (hnone : c.mimicryEngine = none) : disconnect P env c = c.clearKeys := by
  unfold disconnect
  rw [sendControl_of_none hnone, ite_self]

theorem sendsNothing_finish (hnone : c.mimicryEngine = none) :
    SendsNothing c (finish P env c) := by
  unfold finish
  rw [disconnect_of_none hnone]
  exact ⟨rfl, rfl⟩

theorem sendsNothing_of_wireView {c' : AivpnClient} (h : c'.wireView = c.wireView) :
    SendsNothing c c' := by
  simp only [wireView, Prod.mk.injEq] at h
  exact ⟨h.2.1, h.2.2.1⟩

theorem sendsNothing_afterReceive {x : Outcome Unit × AivpnClient}
    (hnone : x.2.mimicryEngine = none) : SendsNothing x.2 (afterReceive P env x) := by
  unfold afterReceive
  split
  · exact ⟨rfl, rfl⟩
  · exact ⟨rfl, rfl⟩
  · exact sendsNothing_finish hnone
  · exact ⟨rfl, rfl⟩

/-- A datagram from the server makes the client send nothing. -/
theorem sendsNothing_receive (hnone : c.mimicryEngine = none) (packet : Bytes) :
    SendsNothing c (afterReceive P env (receiveAndWritePacketWithMdh P env packet c)) := by
  have hexpired : (expireTransition env c).wireView = c.wireView := by
    rcases expireTransition_cases env c with heq | heq
    · rw [heq]
    · rw [heq]
      rfl
  have hkeeps := keeps_wireView_decodePacket P env packet (expireTransition env c)
  obtain ⟨r, c₁, hdec, hcases⟩ := receive_cases P env packet c
  rw [hdec] at hkeeps
  have hview : c₁.wireView = c.wireView := hkeeps.trans hexpired
  have hnone₁ : c₁.mimicryEngine = none := by
    simp only [wireView, Prod.mk.injEq] at hview
    rw [← Option.map_eq_none_iff (f := MimicryEngine.mask), hview.2.2.2.1, hnone, Option.map_none]
  have hreceived : SendsNothing c (receiveAndWritePacketWithMdh P env packet c).2 ∧
      (receiveAndWritePacketWithMdh P env packet c).2.mimicryEngine = none := by
    rcases hcases with heq | ⟨newMask, heq⟩ | heq | ⟨_, _, _, dh2, current, -, -, -, -, -, -, heq⟩
    · rw [heq]
      exact ⟨sendsNothing_of_wireView hview, hnone₁⟩
    · rw [heq, updateMask_of_none hnone₁]
      exact ⟨sendsNothing_of_wireView hview, hnone₁⟩
    · rw [heq, disconnect_of_none hnone₁]
      exact ⟨(sendsNothing_of_wireView hview).trans ⟨rfl, rfl⟩, hnone₁⟩
    · rw [heq]
      exact ⟨(sendsNothing_of_wireView hview).trans ⟨rfl, rfl⟩, hnone₁⟩
  exact hreceived.1.trans (sendsNothing_afterReceive hreceived.2)

/-! ## One step -/

/-- What the upload task makes of an event. -/
inductive UploadOutcome (P : Primitives) (c : AivpnClient) (e : ClientEnv × Event)
    (c' : AivpnClient) : Prop where
  /-- It sends a datagram under the mask of the configuration. -/
  | sends (hsends : c.UploadSends e) (tag : Tag) (call : ClientCall)
      (hsent : c'.sent = (tag.toList ++ c.config.initialMask.headerTemplate ++
        P.encrypt call.key call.nonce call.plaintext) :: c.sent)
      (hcalls : c'.log.calls = call :: c.log.calls) (hstate : c'.state = c.state)
  /-- It encrypts a datagram that the socket does not take. -/
  | drops (hnot : ¬ c.UploadSends e) (hsent : c'.sent = c.sent) (hstate : c'.state = c.state)
  /-- Nothing is encrypted. -/
  | nothing (hnot : ¬ c.UploadSends e) (hnothing : SendsNothing c c')

theorem encryptUpload_outcome (h : c.WireInv P) {e : ClientEnv × Event} {innerType : InnerType}
    {payload : Bytes} {task : UploadTask} (htask : c.upload = some task)
    (hinner : uploadInner task e.2 = some (buildInnerPacket innerType task.state.seq payload)) :
    UploadOutcome P c e (afterUpload P e.1 (encryptUpload P e.1 innerType payload c)) := by
  have hnone := (h.taken (by simp [htask])).1
  have hiff : c.UploadSends e ↔ (∃ prepared, task.engine.preparePacket e.1.draw
      (buildInnerPacket innerType task.state.seq payload) none = .ok prepared) ∧
      e.1.sendOk = true := by
    constructor
    · rintro ⟨task', inner', prepared, htask', hinner', hprep, hok⟩
      obtain rfl := Option.some.inj (htask.symm.trans htask')
      obtain rfl := Option.some.inj (hinner.symm.trans hinner')
      exact ⟨⟨prepared, hprep⟩, hok⟩
    · rintro ⟨⟨prepared, hprep⟩, hok⟩
      exact ⟨task, _, prepared, htask, hinner, hprep, hok⟩
  unfold encryptUpload
  rw [bind_of_ok (gets_apply _ _)]
  simp only [id_eq, htask]
  rcases buildPacket_cases P e.1 task.engine (buildInnerPacket innerType task.state.seq payload)
      task.state.keys task.state.counter none c with ⟨err, herr⟩ | ⟨mdh, padded, hprep, hok⟩
  · rw [bind_of_error herr]
    refine .nothing ?_ (sendsNothing_finish hnone)
    -- a packet that was prepared would have been built
    rw [hiff]
    rintro ⟨⟨prepared, hprep⟩, -⟩
    unfold buildPacket MimicryEngine.buildPacket at herr
    rw [hprep] at herr
    cases herr
  · rw [bind_of_ok hok]
    simp only
    rw [bind_of_ok (modify_apply _ _)]
    by_cases hsend : e.1.sendOk = true
    · rw [if_pos hsend]
      obtain ⟨hmdh, -⟩ := MimicryEngine.preparePacket_ok hprep
      have htemplate : mdh = c.config.initialMask.headerTemplate := by
        rw [← h.upload task htask]
        exact (Except.ok.inj hmdh).symm
      refine .sends (hiff.2 ⟨⟨_, hprep⟩, hsend⟩)
        (P.generateResonanceTag task.state.keys.tagSecret task.state.counter e.1.timeWindow)
        ⟨task.state.keys.sessionKey, counterToNonce task.state.counter, padded⟩ ?_ rfl rfl
      rw [← htemplate]
      rfl
    · rw [if_neg hsend]
      exact .drops (fun hsends => hsend (hiff.1 hsends).2) rfl rfl

/-- With the upload task running, the upload task is all that sends. -/
theorem step_upload (h : c.WireInv P) (hupload : c.upload ≠ none) (e : ClientEnv × Event) :
    UploadOutcome P c e (step P c e) := by
  -- with the upload started the engine is the task's, so that the client itself sends nothing
  obtain ⟨hnone, hstart⟩ := h.taken hupload
  obtain ⟨task, htask⟩ := Option.ne_none_iff_exists'.1 hupload
  have hidle : ∀ event, (∀ task, uploadInner task event = none) → ¬ c.UploadSends (e.1, event) := by
    rintro event hevent ⟨task, inner, prepared, -, hinner, -⟩
    rw [hevent] at hinner
    cases hinner
  obtain ⟨env, event⟩ := e
  cases event with
  | connect =>
      refine .nothing (hidle _ fun _ => rfl) ?_
      rw [step, if_neg hstart]
      exact ⟨rfl, rfl⟩
  | sendInit =>
      refine .nothing (hidle _ fun _ => rfl) ?_
      simp only [step]
      split_ifs
      · have hsame : (sendInit P env c).2 = c := by
          unfold sendInit
          rw [bind_of_ok (gets_apply _ _)]
          simp only [id_eq, hnone]
          cases c.sessionKeys <;> rfl
        rcases hinit : sendInit P env c with ⟨r, c'⟩
        rw [hinit] at hsame
        obtain rfl : c' = c := hsame
        cases r <;> exact ⟨rfl, rfl⟩
      · exact ⟨rfl, rfl⟩
  | startUpload =>
      refine .nothing (hidle _ fun _ => rfl) ?_
      simp only [step]
      -- a second start finds no engine and changes nothing
      split_ifs
      · unfold startUpload
        rw [bind_of_ok (gets_apply _ _)]
        simp only [id_eq, hnone]
        cases c.sessionKeys <;> exact ⟨rfl, rfl⟩
      · exact ⟨rfl, rfl⟩
  | data payload => exact encryptUpload_outcome h htask rfl
  | keepalive => exact encryptUpload_outcome h htask rfl
  | updateFsm padding => exact .nothing (hidle _ fun _ => rfl) ⟨rfl, rfl⟩
  | receive packet =>
      refine .nothing (hidle _ fun _ => rfl) ?_
      simp only [step]
      split_ifs
      · exact sendsNothing_receive hnone packet
      · exact ⟨rfl, rfl⟩
  | shutdown =>
      refine .nothing (hidle _ fun _ => rfl) ?_
      simp only [step]
      split_ifs
      · exact sendsNothing_finish hnone
      · exact ⟨rfl, rfl⟩

/-- What is sent has the template of a mask exactly if nothing is sent, or the mask has the template
of the configuration. -/
theorem UploadOutcome.sendsUnder_iff {e : ClientEnv × Event}
    (h : UploadOutcome P c e (step P c e)) (mask : MaskProfile) :
    SendsUnder P c e mask ↔
      (c.UploadSends e → mask.headerTemplate = c.config.initialMask.headerTemplate) := by
  have hvacuous : (step P c e).sent = c.sent → SendsUnder P c e mask := by
    intro hsame packet call hsent
    rw [hsame] at hsent
    exact absurd hsent.symm (List.cons_ne_self _ _)
  cases h with
  | sends hsends tag call hsent hcalls hstate =>
      constructor
      · intro hunder _
        obtain ⟨tag', heq⟩ := hunder _ call hsent hcalls
        rw [List.append_assoc, List.append_assoc] at heq
        have hrest := (List.append_inj heq (by simp)).2
        exact (List.append_cancel_right hrest).symm
      · intro htemplate packet call' hsent' hcalls'
        obtain rfl : _ = packet := (List.cons.inj (hsent.symm.trans hsent')).1
        obtain rfl : call = call' := (List.cons.inj (hcalls.symm.trans hcalls')).1
        exact ⟨tag, by rw [htemplate hsends]⟩
  | drops hnot hsent hstate => exact iff_of_true (hvacuous hsent) fun hs => absurd hs hnot
  | nothing hnot hnothing => exact iff_of_true (hvacuous hnothing.1) fun hs => absurd hs hnot

/-- The client says nothing when it disconnects. -/
theorem UploadOutcome.not_emitsShutdown {e : ClientEnv × Event}
    (h : UploadOutcome P c e (step P c e)) (hdisconnect : Disconnects P c e) :
    ¬ EmitsShutdown P c e := by
  obtain ⟨hconnected, hdisconnected⟩ := hdisconnect
  have hne : (step P c e).state ≠ c.state := by simp [hconnected, hdisconnected]
  rintro ⟨task, padding, -, hcalls, -⟩
  cases h with
  | sends hsends tag call hsent hcalls hstate => exact hne hstate
  | drops hnot hsent hstate => exact hne hstate
  | nothing hnot hnothing =>
      rw [hnothing.2] at hcalls
      exact List.cons_ne_self _ _ hcalls.symm

theorem meetsMasks_iff {x : AivpnClient × Option MaskProfile} (h : x.1.WireInv P)
    (e : ClientEnv × Event) : MeetsMasks P x e ↔ KeepsTemplate P x e := by
  refine imp_congr_right fun hupload => ?_
  have houtcome := step_upload h hupload e
  apply and_congr
  · exact forall_congr' fun mask => imp_congr_right fun _ => houtcome.sendsUnder_iff mask
  · exact ⟨fun hshutdown hdisconnect =>
      houtcome.not_emitsShutdown hdisconnect (hshutdown hdisconnect),
      fun hnot hdisconnect => absurd hdisconnect hnot⟩

/-! ## Runs -/

/-- Mask updates and the shutdown message reach the wire exactly along the runs in which no mask
update changes the header template and no disconnect happens. -/
theorem meetsMasks_iff_of_run (P : Primitives) (config : Config) (keypair : KeyPair)
    (es : List (ClientEnv × Event)) :
    Along (watch P) (MeetsMasks P) (new config keypair, none) es ↔
      Along (watch P) (KeepsTemplate P) (new config keypair, none) es := by
  have hkeep : ∀ (x : AivpnClient × Option MaskProfile) (e : ClientEnv × Event), x.1.WireInv P →
      True → KeepsTemplate P x e → (watch P x e).1.WireInv P := fun x e h _ _ => (h.step e).inv
  have hiff : ∀ (x : AivpnClient × Option MaskProfile) (e : ClientEnv × Event), x.1.WireInv P →
      True → (MeetsMasks P x e ↔ KeepsTemplate P x e) := fun x e h _ => meetsMasks_iff h e
  exact along_iff_of_invariant hkeep hiff (wireInv_new config keypair)
    (along_of_forall fun _ _ => trivial)

/-! ## A mask update with another template -/

/-- Every mask is one with the template `9 9 9 9`. -/
def sampleMaskEnv : ClientEnv :=
  { sampleClientEnv with
    fromSlice := fun _ => some { Mask.MaskProfile.sample with headerTemplate := [9, 9, 9, 9] } }

/-- A MaskUpdate from the server. -/
def sampleMaskUpdate : Bytes :=
  assemble samplePrimitives 100 ((sampleClient.initialInput samplePrimitives).keys samplePrimitives)
    0 [0, 0, 0, 0] (padPlaintext ((InnerHeader.mk .control 0).encode ++
      (ControlPayload.maskUpdate [1] default).encode) [])

/-- The client connects and handles the MaskUpdate. -/
def sampleMaskRun : List (ClientEnv × Event) :=
  sampleKeepalives 0 ++ [(sampleMaskEnv, .receive sampleMaskUpdate)]

/-- The client behind the MaskUpdate, and the mask it was sent. -/
def sampleMasked : AivpnClient × Option MaskProfile :=
  runFrom (watch samplePrimitives) (sampleClient, none) sampleMaskRun

/-- The next keepalive has the template of the configuration, and the disconnect at the end of the main
loop sends nothing. -/
theorem meetsMasks_violated :
    ¬ Along (watch samplePrimitives) (MeetsMasks samplePrimitives) (sampleClient, none)
        (sampleMaskRun ++ [(sampleMaskEnv, .keepalive)]) ∧
    ¬ Along (watch samplePrimitives) (MeetsMasks samplePrimitives) (sampleClient, none)
        (sampleMaskRun ++ [(sampleMaskEnv, .shutdown)]) := by
  have hupload : sampleMasked.1.upload ≠ none := by decide +kernel
  constructor
  · rw [along_append]
    rintro ⟨-, hlast, -⟩
    have hmask : sampleMasked.2.map MaskProfile.headerTemplate = some [9, 9, 9, 9] := by
      decide +kernel
    obtain ⟨mask, hsome, htemplate⟩ := Option.map_eq_some_iff.1 hmask
    -- the packet after the update still has the header of the initial mask
    have hsent : let c := step samplePrimitives sampleMasked.1 (sampleMaskEnv, .keepalive)
        c.sent = c.sent.headD [] :: sampleMasked.1.sent ∧
        ((c.sent.headD []).drop 8).take 4 = [0, 0, 0, 0] ∧
        c.log.calls.drop 1 = sampleMasked.1.log.calls ∧ c.log.calls ≠ [] := by
      decide +kernel
    obtain ⟨hsent, hheader, hdrop, hne⟩ := hsent
    obtain ⟨call, rest, hcalls⟩ := List.exists_cons_of_ne_nil hne
    rw [hcalls, List.drop_succ_cons, List.drop_zero] at hdrop
    obtain ⟨tag, heq⟩ := (hlast hupload).1 mask hsome _ call hsent (hdrop ▸ hcalls)
    rw [heq, htemplate, List.append_assoc, List.drop_left' (by simp)] at hheader
    simp at hheader
  · rw [along_append]
    rintro ⟨-, hlast, -⟩
    have hdisconnect : sampleMasked.1.state = .connected ∧
        (step samplePrimitives sampleMasked.1 (sampleMaskEnv, .shutdown)).state = .disconnected ∧
        (step samplePrimitives sampleMasked.1 (sampleMaskEnv, .shutdown)).log.calls =
          sampleMasked.1.log.calls := by
      decide +kernel
    -- a shutdown sends nothing, so that its call is missing
    obtain ⟨task, padding, -, hcalls, -⟩ := (hlast hupload).2 ⟨hdisconnect.1, hdisconnect.2.1⟩
    exact List.cons_ne_self _ _ (hcalls.symm.trans hdisconnect.2.2)

end AivpnClient

end Aivpn
