import Aivpn.Client.ReceiveSteps

/-!
# What the client has sent

A datagram that has left the client carries one of its recorded encryptions, behind a header that
the mask of the configuration gives. The plaintexts of these encryptions are data packets and control
messages, but never a ServerHello. Both are parts of `WireInv`, which every step keeps
(`WireInv.step`); what was sent or encrypted stays recorded (`Extends`).
-/

set_option autoImplicit false

namespace Aivpn

open Aivpn.Lib

/-- The header depends on the mask alone. -/
theorem MimicryEngine.buildMdh_congr {engine engine' : MimicryEngine}
    (h : engine.mask = engine'.mask) (ephPub : Option Key) :
    engine.buildMdh ephPub = engine'.buildMdh ephPub := by
  cases ephPub with
  | none => simp only [buildMdh, h]
  | some eph => simp only [buildMdh, h]

/-- The inner packets the client sends. -/
inductive ClientInner : Bytes → Prop where
  | control (seqNum : UInt16) {payload : ControlPayload}
      (hne : ∀ key signature, payload ≠ .serverHello key signature) :
      ClientInner (buildInnerPacket .control seqNum payload.encode)
  | data (seqNum : UInt16) (payload : Bytes) :
      ClientInner (buildInnerPacket .data seqNum payload)

namespace AivpnClient

open Action

/-- The datagram carries an encryption of the client, behind the header with the embedded key. -/
def Carries (P : Primitives) (c : AivpnClient) (ephPub : Option Key) (packet : Bytes) : Prop :=
  ∃ call ∈ c.log.calls, ∃ (tag : Tag) (mdh : Bytes),
    (MimicryEngine.mk c.config.initialMask none).buildMdh ephPub = .ok mdh ∧
    packet = tag.toList ++ mdh ++ P.encrypt call.key call.nonce call.plaintext

/-- The invariant of the sending side. The upload task keeps the mask of the configuration, and `run`
stores the length of its header template; where there is an upload task, the client has no engine of
its own any more. -/
structure WireInv (P : Primitives) (c : AivpnClient) : Prop where
  engine : ∀ engine, c.mimicryEngine = some engine → engine.mask = c.config.initialMask
  upload : ∀ task, c.upload = some task → task.engine.mask = c.config.initialMask
  sent : ∀ packet ∈ c.sent, ∃ ephPub, c.Carries P ephPub packet
  calls : ∀ call ∈ c.log.calls, ∃ inner padding, ClientInner inner ∧ padding.length < 65536 ∧
    call.plaintext = padPlaintext inner padding
  taken : c.upload ≠ none → c.mimicryEngine = none ∧ c.stage ≠ .start
  running : c.stage = .running →
    c.upload ≠ none ∧ c.mdhLen = c.config.initialMask.headerTemplate.length

/-- A later state of the same client. -/
structure Extends (P : Primitives) (c c' : AivpnClient) : Prop where
  inv : c'.WireInv P
  config : c'.config = c.config
  sent : c.sent ⊆ c'.sent
  calls : c.log.calls ⊆ c'.log.calls

variable {P : Primitives} {env : ClientEnv} {c c' c'' : AivpnClient}

theorem Carries.mono {ephPub : Option Key} {packet : Bytes} (h : c.Carries P ephPub packet)
    (hconfig : c'.config = c.config) (hcalls : c.log.calls ⊆ c'.log.calls) :
    c'.Carries P ephPub packet := by
  obtain ⟨call, hcall, tag, mdh, hmdh, heq⟩ := h
  exact ⟨call, hcalls hcall, tag, mdh, by rw [hconfig]; exact hmdh, heq⟩

theorem WireInv.extends (h : c.WireInv P) : c.Extends P c :=
  ⟨h, rfl, List.Subset.refl _, List.Subset.refl _⟩

theorem Extends.trans (h : c.Extends P c') (h' : c'.Extends P c'') : c.Extends P c'' :=
  ⟨h'.inv, h'.config.trans h.config, List.Subset.trans h.sent h'.sent,
    List.Subset.trans h.calls h'.calls⟩

/-- The fields that the invariant reads. -/
def wireView (c : AivpnClient) :=
  (c.config, c.sent, c.log.calls, c.mimicryEngine.map MimicryEngine.mask,
    c.upload.map fun task => task.engine.mask, c.mdhLen, c.stage)

/-- A state in which at most the stage differs, and `run` does not go on. -/
theorem WireInv.congr (h : c.WireInv P) (hconfig : c'.config = c.config) (hsent : c'.sent = c.sent)
    (hcalls : c'.log.calls = c.log.calls)
    (hengine : ∀ mask, c'.mimicryEngine.map MimicryEngine.mask = some mask →
      mask = c.config.initialMask)
    (hupload : ∀ mask, (c'.upload.map fun task => task.engine.mask) = some mask →
      mask = c.config.initialMask)
    (htaken : c'.upload ≠ none → c'.mimicryEngine = none ∧ c'.stage ≠ .start)
    (hrunning : c'.stage = .running →
      c'.upload ≠ none ∧ c'.mdhLen = c.config.initialMask.headerTemplate.length) :
    c.Extends P c' := by
  refine ⟨⟨?_, ?_, ?_, ?_, htaken, ?_⟩, hconfig, ?_, ?_⟩
  · intro engine hsome
    rw [hconfig]
    exact hengine _ (by rw [hsome, Option.map_some])
  · intro task hsome
    rw [hconfig]
    exact hupload _ (by rw [hsome, Option.map_some])
  · intro packet hmem
    rw [hsent] at hmem
    obtain ⟨ephPub, hcarries⟩ := h.sent packet hmem
    -- the packets are judged by the calls recorded in the log, which are the same
    exact ⟨ephPub, hcarries.mono hconfig (by rw [hcalls]; exact List.Subset.refl _)⟩
  · rw [hcalls]
    exact h.calls
  · rw [hconfig]
    exact hrunning
  · rw [hsent]
    exact List.Subset.refl _
  · rw [hcalls]
    exact List.Subset.refl _

theorem WireInv.engine_map (h : c.WireInv P) :
    ∀ mask, c.mimicryEngine.map MimicryEngine.mask = some mask → mask = c.config.initialMask := by
  intro mask hmask
  obtain ⟨engine, hsome, rfl⟩ := Option.map_eq_some_iff.1 hmask
  exact h.engine engine hsome

theorem WireInv.upload_map (h : c.WireInv P) :
    ∀ mask, (c.upload.map fun task => task.engine.mask) = some mask →
      mask = c.config.initialMask := by
  intro mask hmask
  obtain ⟨task, hsome, rfl⟩ := Option.map_eq_some_iff.1 hmask
  exact h.upload task hsome

/-- What leaves these fields alone leaves the invariant. -/
theorem WireInv.of_view (h : c.WireInv P) (heq : c'.wireView = c.wireView) : c.Extends P c' := by
  simp only [wireView, Prod.mk.injEq] at heq
  obtain ⟨hconfig, hsent, hcalls, hengine, hupload, hmdh, hstage⟩ := heq
  apply h.congr hconfig hsent hcalls
  · rw [hengine]
    exact h.engine_map
  · rw [hupload]
    exact h.upload_map
  · rw [hstage, ← Option.map_eq_none_iff (f := MimicryEngine.mask), hengine,
      Option.map_eq_none_iff]
    intro hsome
    refine h.taken fun hnone => hsome ?_
    rw [hnone, Option.map_none, Option.map_eq_none_iff] at hupload
    exact hupload
  · rw [hmdh, hstage]
    intro hrunning
    obtain ⟨hsome, hlength⟩ := h.running hrunning
    refine ⟨fun hnone => hsome ?_, hlength⟩
    rw [hnone, Option.map_none, eq_comm, Option.map_eq_none_iff] at hupload
    exact hupload

/-- The end of `run`. -/
theorem WireInv.toFinished (h : c.WireInv P) : c.Extends P { c with stage := .finished } :=
  h.congr rfl rfl rfl h.engine_map h.upload_map
    (fun hsome => ⟨(h.taken hsome).1, by simp⟩) (fun hs => by cases hs)

/-! ## Sending -/

/-- A datagram is carried once its encryption is recorded. -/
theorem carries_assemble {engine : MimicryEngine} (hmask : engine.mask = c.config.initialMask)
    {r : PacketRandomness} {inner mdh padded : Bytes} {ephPub : Option Key}
    (hprep : engine.preparePacket r inner ephPub = .ok (mdh, padded)) (tw counter : Nat)
    (keys : SessionKeys) :
    Carries P { c with log := c.log.record keys.sessionKey counter padded } ephPub
      (assemble P tw keys counter mdh padded) := by
  obtain ⟨hmdh, -⟩ := MimicryEngine.preparePacket_ok hprep
  refine ⟨_, List.mem_cons_self, _, mdh, ?_, rfl⟩
  rw [← hmdh]
  exact MimicryEngine.buildMdh_congr hmask.symm ephPub

theorem WireInv.record (h : c.WireInv P) {engine : MimicryEngine} {r : PacketRandomness}
    {inner mdh padded : Bytes} {ephPub : Option Key} (hinner : ClientInner inner)
    (hprep : engine.preparePacket r inner ephPub = .ok (mdh, padded)) (key : Key) (counter : Nat) :
    c.Extends P { c with log := c.log.record key counter padded } := by
  obtain ⟨-, padding, hpad, rfl⟩ := MimicryEngine.preparePacket_ok hprep
  refine ⟨⟨h.engine, h.upload, ?_, ?_, h.taken, h.running⟩, rfl, List.Subset.refl _, ?_⟩
  · intro packet hmem
    obtain ⟨eph, hcarries⟩ := h.sent packet hmem
    exact ⟨eph, hcarries.mono rfl (List.subset_cons_self _ _)⟩
  · intro call hcall
    rcases List.mem_cons.1 hcall with rfl | hold
    · exact ⟨inner, padding, hinner, hpad, rfl⟩
    · exact h.calls call hold
  · exact List.subset_cons_self _ _

theorem WireInv.send (h : c.WireInv P) {packet : Bytes}
    (hcarries : ∃ ephPub, c.Carries P ephPub packet) :
    c.Extends P { c with sent := packet :: c.sent } := by
  refine ⟨⟨h.engine, h.upload, ?_, h.calls, h.taken, h.running⟩, rfl, List.subset_cons_self _ _,
    List.Subset.refl _⟩
  intro packet' hmem
  rcases List.mem_cons.1 hmem with rfl | hold
  · exact hcarries
  · exact h.sent packet' hold

theorem WireInv.sendPacket (h : c.WireInv P) {packet : Bytes}
    (hcarries : ∃ ephPub, c.Carries P ephPub packet) : c.Extends P (sendPacket env packet c).2 := by
  unfold AivpnClient.sendPacket
  split_ifs
  · exact h.send hcarries
  · exact h.extends

theorem WireInv.sendOwn (h : c.WireInv P) {engine : MimicryEngine}
    (hmask : engine.mask = c.config.initialMask) {payload : ControlPayload}
    (hne : ∀ key signature, payload ≠ .serverHello key signature) (keys : SessionKeys)
    (ephPub : Option Key) : c.Extends P (sendOwn P env engine payload keys ephPub c).2 := by
  unfold AivpnClient.sendOwn
  rw [bind_of_ok (gets_apply _ _), bind_of_ok (modify_apply _ _)]
  simp only [id_eq]
  have hseq : c.Extends P { c with sendSeq := (c.sendSeq + 1) % 2 ^ 32 } := h.of_view rfl
  rcases buildPacket_cases P env engine
      (buildInnerPacket .control (UInt16.ofNat c.sendSeq) payload.encode) keys c.counter ephPub
      { c with sendSeq := (c.sendSeq + 1) % 2 ^ 32 }
    with ⟨e, he⟩ | ⟨mdh, padded, hprep, hok⟩
  · rw [bind_of_error he]
    exact hseq
  · rw [bind_of_ok hok]
    simp only
    rw [bind_of_ok (modify_apply _ _)]
    have hrecord := hseq.trans (hseq.inv.record (.control _ hne) hprep keys.sessionKey c.counter)
    have hcounter : c.Extends P { c with
        sendSeq := (c.sendSeq + 1) % 2 ^ 32
        log := c.log.record keys.sessionKey c.counter padded
        counter := wrappingAdd c.counter 1 } := hrecord.trans (hrecord.inv.of_view rfl)
    have hcarries : Carries P { c with log := c.log.record keys.sessionKey c.counter padded }
        ephPub (assemble P env.timeWindow keys c.counter mdh padded) :=
      carries_assemble hmask hprep env.timeWindow c.counter keys
    exact hcounter.trans (hcounter.inv.sendPacket ⟨ephPub, hcarries⟩)

/-- A packet through the upload state. -/
theorem WireInv.upload_sentOne (h : c.WireInv P) {task : UploadTask}
    (htask : c.upload = some task) (counter sendSeq own : Nat) :
    c.Extends P { c with
      upload := some (task.sentOne counter), sendSeq := sendSeq, counter := own } := by
  have hsome : c.upload ≠ none := by simp [htask]
  refine h.congr rfl rfl rfl h.engine_map ?_ (fun _ => h.taken hsome)
    (fun hs => ⟨by simp, (h.running hs).2⟩)
  intro mask hmask
  exact h.upload_map mask (by rw [htask]; exact hmask)

theorem WireInv.sendShared (h : c.WireInv P) {engine : MimicryEngine}
    (hmask : engine.mask = c.config.initialMask) {payload : ControlPayload}
    (hne : ∀ key signature, payload ≠ .serverHello key signature) {task : UploadTask}
    (htask : c.upload = some task) :
    c.Extends P (sendShared P env engine payload task c).2 := by
  unfold AivpnClient.sendShared
  simp only
  rcases buildPacket_cases P env engine
      (buildInnerPacket .control task.state.seq payload.encode) task.state.keys
      task.state.counter none c with ⟨e, he⟩ | ⟨mdh, padded, hprep, hok⟩
  · rw [bind_of_error he]
    exact h.extends
  · rw [bind_of_ok hok]
    simp only
    rw [bind_of_ok (modify_apply _ _)]
    have hrecord := h.record (.control _ hne) hprep task.state.keys.sessionKey task.state.counter
    have hupload := hrecord.trans (hrecord.inv.upload_sentOne htask
      (wrappingAdd task.state.counter 1) (task.state.seq + 1).toNat
      (wrappingAdd task.state.counter 1))
    have hcarries : Carries P
        { c with log := c.log.record task.state.keys.sessionKey task.state.counter padded } none
        (assemble P env.timeWindow task.state.keys task.state.counter mdh padded) :=
      carries_assemble hmask hprep env.timeWindow task.state.counter task.state.keys
    exact hupload.trans (hupload.inv.sendPacket ⟨none, hcarries⟩)

theorem WireInv.sendControl (h : c.WireInv P) {payload : ControlPayload}
    (hne : ∀ key signature, payload ≠ .serverHello key signature) :
    c.Extends P (sendControl P env payload c).2 := by
  unfold AivpnClient.sendControl
  rw [bind_of_ok (gets_apply _ _)]
  simp only [id_eq]
  cases hengine : c.mimicryEngine with
  | none => exact h.extends
  | some engine =>
      simp only
      cases hshared : c.sharedUpload with
      | some task =>
          have htask : c.upload = some task := by
            unfold sharedUpload at hshared
            split_ifs at hshared
            exact hshared
          exact h.sendShared (h.engine engine hengine) hne htask
      | none =>
          simp only
          cases c.sessionKeys with
          | none => exact h.extends
          | some keys => exact h.sendOwn (h.engine engine hengine) hne keys none

theorem WireInv.clearKeys (h : c.WireInv P) : c.Extends P c.clearKeys := h.of_view rfl

theorem WireInv.disconnect (h : c.WireInv P) : c.Extends P (disconnect P env c) := by
  unfold AivpnClient.disconnect
  split_ifs
  · have hshutdown : c.Extends P (AivpnClient.sendControl P env (.shutdown 0) c).2 :=
      h.sendControl (by simp)
    exact hshutdown.trans hshutdown.inv.clearKeys
  · exact h.clearKeys

theorem WireInv.finish (h : c.WireInv P) : c.Extends P (finish P env c) :=
  h.disconnect.trans (h.disconnect.inv.toFinished)

theorem WireInv.encryptUpload (h : c.WireInv P) {innerType : InnerType} {payload : Bytes}
    (hinner : ∀ seqNum, ClientInner (buildInnerPacket innerType seqNum payload)) :
    c.Extends P (encryptUpload P env innerType payload c).2 := by
  unfold AivpnClient.encryptUpload
  rw [bind_of_ok (gets_apply _ _)]
  simp only [id_eq]
  cases htask : c.upload with
  | none => exact h.extends
  | some task =>
      simp only
      rcases buildPacket_cases P env task.engine
          (buildInnerPacket innerType task.state.seq payload) task.state.keys task.state.counter
          none c with ⟨e, he⟩ | ⟨mdh, padded, hprep, hok⟩
      · rw [bind_of_error he]
        exact h.extends
      · rw [bind_of_ok hok]
        simp only
        rw [bind_of_ok (modify_apply _ _)]
        -- the call is recorded before the packet is sent
        have hrecord := h.record (hinner _) hprep task.state.keys.sessionKey task.state.counter
        have hupload := hrecord.trans (hrecord.inv.upload_sentOne htask
          (wrappingAdd task.state.counter 1) c.sendSeq c.counter)
        have hcarries : Carries P
            { c with log := c.log.record task.state.keys.sessionKey task.state.counter padded }
            none (assemble P env.timeWindow task.state.keys task.state.counter mdh padded) :=
          carries_assemble (h.upload task htask) hprep env.timeWindow task.state.counter
            task.state.keys
        -- the packet is given to the transport only where there is one
        split_ifs
        · exact hupload.trans (hupload.inv.send ⟨none, hcarries⟩)
        · exact hupload

theorem WireInv.afterUpload {x : Outcome Unit × AivpnClient} (h : x.2.WireInv P) :
    x.2.Extends P (afterUpload P env x) := by
  rcases x with ⟨r, c'⟩
  cases r with
  | ok a => exact h.extends
  | error e =>
      have hfinish : c'.Extends P (AivpnClient.finish P env c') := WireInv.finish h
      refine hfinish.trans (hfinish.inv.congr rfl rfl rfl hfinish.inv.engine_map ?_
        (fun hsome => absurd rfl hsome) (fun hs => by cases hs))
      intro mask hmask
      cases hmask

/-! ## The stages of a run -/

theorem WireInv.advance {x : Outcome Unit × AivpnClient} (h : x.2.WireInv P) {next : Stage}
    (hstart : next ≠ .start) (hrunning : next ≠ .running) : x.2.Extends P (advance next x) := by
  rcases x with ⟨r, c'⟩
  cases r with
  | ok a =>
      exact h.congr rfl rfl rfl h.engine_map h.upload_map
        (fun hsome => ⟨(h.taken hsome).1, hstart⟩) (fun hs => absurd hs hrunning)
  | error e => exact h.toFinished

theorem WireInv.connect (h : c.WireInv P) (hstage : c.stage = .start) :
    c.Extends P (connect P env c).2 := by
  unfold AivpnClient.connect
  rw [bind_of_ok (modify_apply _ _)]
  split_ifs
  · rw [bind_of_ok (modify_apply _ _), bind_of_ok (gets_apply _ _)]
    simp only [id_eq]
    have hengine : c.Extends P { c with
        state := .connecting, mimicryEngine := some ⟨c.config.initialMask, none⟩ } := by
      refine h.congr rfl rfl rfl ?_ h.upload_map (fun hsome => absurd hstage (h.taken hsome).2) ?_
      · intro mask hmask
        exact (Option.some.inj hmask).symm
      · intro hrunning
        cases hstage.symm.trans hrunning
    cases P.computeShared c.keypair c.config.serverPublicKey with
    | error e => exact hengine
    | ok dh => exact hengine.trans (hengine.inv.of_view rfl)
  · exact h.of_view rfl

theorem WireInv.sendInit (h : c.WireInv P) : c.Extends P (sendInit P env c).2 := by
  unfold AivpnClient.sendInit
  rw [bind_of_ok (gets_apply _ _)]
  simp only [id_eq]
  cases c.sessionKeys with
  | none => exact h.extends
  | some keys =>
      simp only
      cases hengine : c.mimicryEngine with
      | none => exact h.extends
      | some engine => exact h.sendOwn (h.engine engine hengine) (by simp) keys _

/-- The upload task takes over the engine, and the receive path the length of its header. -/
theorem WireInv.startUpload (h : c.WireInv P) :
    c.Extends P (AivpnClient.advance .running (startUpload c)) := by
  unfold AivpnClient.startUpload
  rw [bind_of_ok (gets_apply _ _)]
  simp only [id_eq]
  cases c.sessionKeys with
  | none => exact h.toFinished
  | some keys =>
      simp only
      cases hengine : c.mimicryEngine with
      | none => exact h.toFinished
      | some engine =>
          have hmask := h.engine engine hengine
          refine h.congr rfl rfl rfl ?_ ?_ (fun _ => ⟨rfl, fun hs => by cases hs⟩) ?_
          · intro mask hnone
            cases hnone
          · intro mask hsome
            exact (Option.some.inj hsome).symm.trans hmask
          · intro _
            exact ⟨Option.some_ne_none _,
              congrArg (fun mask => mask.headerTemplate.length) hmask⟩

/-! ## Receiving -/

/-- The decoder moves the receive windows only. -/
theorem keeps_wireView_decodePacket (P : Primitives) (env : ClientEnv) (packet : Bytes) :
    Keeps wireView (decodePacket P env packet) := by
  refine Keeps.bind (keeps_gets _) fun c => ?_
  cases c.sessionKeys with
  | none => exact keeps_throw _
  | some keys =>
      refine Keeps.bind (keeps_update fun _ => rfl) fun primary => ?_
      rcases primary with (e | _) | decoded
      · cases c.transitionRecvKeys with
        | none => exact keeps_throw _
        | some fallbackKeys =>
            refine Keeps.bind (keeps_update fun _ => rfl) fun fallback => ?_
            rcases fallback with (e' | _) | decoded
            · exact keeps_throw _
            · exact keeps_ofExec _
            · exact keeps_pure _
      · exact keeps_ofExec _
      · exact keeps_pure _

theorem ratchet_wireView (P : Primitives) (env : ClientEnv) (input : KdfInput) (c : AivpnClient) :
    (ratchet P env input c).wireView = c.wireView := by
  have hupload : ((ratchet P env input c).upload.map fun task => task.engine.mask) =
      c.upload.map fun task => task.engine.mask := by
    unfold ratchet
    simp only
    split_ifs
    · cases c.upload <;> rfl
    · rfl
  unfold wireView
  rw [hupload]
  rfl

/-- A client without an engine has no mask to update. -/
theorem updateMask_of_none (hnone : c.mimicryEngine = none) (newMask : MaskProfile) :
    updateMask newMask c = c := by
  unfold updateMask
  rw [hnone, Option.map_none, ← hnone]

theorem WireInv.receive (h : c.WireInv P) (hstage : c.stage = .running) (packet : Bytes) :
    c.Extends P (receiveAndWritePacketWithMdh P env packet c).2 := by
  have hexpired : (expireTransition env c).wireView = c.wireView := by
    rcases expireTransition_cases env c with heq | heq
    · rw [heq]
    · rw [heq]
      rfl
  have hkeeps := keeps_wireView_decodePacket P env packet (expireTransition env c)
  obtain ⟨r, c₁, hdec, hcases⟩ := receive_cases P env packet c
  rw [hdec] at hkeeps
  have h₁ : c.Extends P c₁ := h.of_view (hkeeps.trans hexpired)
  have hstage₁ : c₁.stage = .running := by
    have hview := hkeeps.trans hexpired
    simp only [wireView, Prod.mk.injEq] at hview
    exact hview.2.2.2.2.2.2.trans hstage
  rcases hcases with heq | ⟨newMask, heq⟩ | heq | ⟨_, _, _, dh2, current, -, -, -, -, -, -, heq⟩
  · rw [heq]
    exact h₁
  · rw [heq, updateMask_of_none (h₁.inv.taken (h₁.inv.running hstage₁).1).1]
    exact h₁
  · rw [heq]
    exact h₁.trans h₁.inv.disconnect
  · rw [heq]
    exact h₁.trans (h₁.inv.of_view (ratchet_wireView P env _ c₁))

theorem WireInv.afterReceive {x : Outcome Unit × AivpnClient} (h : x.2.WireInv P) :
    x.2.Extends P (afterReceive P env x) := by
  unfold AivpnClient.afterReceive
  split
  · exact h.extends
  · exact h.extends
  · exact WireInv.finish h
  · exact h.toFinished

/-- Every step keeps the invariant and the record. -/
theorem WireInv.step (h : c.WireInv P) (e : ClientEnv × Event) : c.Extends P (step P c e) := by
  obtain ⟨env, event⟩ := e
  cases event with
  | connect =>
      simp only [AivpnClient.step]
      split_ifs with hstage
      · have hconnect : c.Extends P (AivpnClient.connect P env c).2 := h.connect hstage
        exact hconnect.trans (hconnect.inv.advance (by simp) (by simp))
      · exact h.extends
  | sendInit =>
      simp only [AivpnClient.step]
      split_ifs
      · have hinit : c.Extends P (AivpnClient.sendInit P env c).2 := h.sendInit
        exact hinit.trans (hinit.inv.advance (by simp) (by simp))
      · exact h.extends
  | startUpload =>
      simp only [AivpnClient.step]
      split_ifs
      · exact h.startUpload
      · exact h.extends
  | data payload =>
      have hdata : c.Extends P (AivpnClient.encryptUpload P env .data payload c).2 :=
        h.encryptUpload fun seqNum => .data seqNum payload
      exact hdata.trans hdata.inv.afterUpload
  | keepalive =>
      have hkeepalive : c.Extends P
          (AivpnClient.encryptUpload P env .control ControlPayload.keepalive.encode c).2 :=
        h.encryptUpload fun seqNum => .control seqNum (by simp)
      exact hkeepalive.trans hkeepalive.inv.afterUpload
  -- the mask's state changes, the mask does not
  | updateFsm padding =>
      have hsome : (AivpnClient.step P c (env, .updateFsm padding)).upload ≠ none ↔
          c.upload ≠ none := by
        simp only [AivpnClient.step, ne_eq, Option.map_eq_none_iff]
      refine h.congr rfl rfl rfl h.engine_map ?_ (fun hup => h.taken (hsome.1 hup))
        (fun hs => ⟨hsome.2 (h.running hs).1, (h.running hs).2⟩)
      intro mask hmask
      apply h.upload_map mask
      rw [← hmask]
      simp only [AivpnClient.step, Option.map_map]
      rfl
  | receive packet =>
      simp only [AivpnClient.step]
      split_ifs with hstage
      · have hreceive : c.Extends P (receiveAndWritePacketWithMdh P env packet c).2 :=
          h.receive hstage packet
        exact hreceive.trans hreceive.inv.afterReceive
      · exact h.extends
  | shutdown =>
      simp only [AivpnClient.step]
      split_ifs
      · exact h.finish
      · exact h.extends

theorem wireInv_new (config : Config) (keypair : KeyPair) : (new config keypair).WireInv P := by
  refine ⟨?_, ?_, ?_, ?_, ?_, ?_⟩
  · intro engine hsome
    cases hsome
  · intro task hsome
    cases hsome
  · intro packet hmem
    cases hmem
  · intro call hmem
    cases hmem
  · intro hsome
    exact absurd rfl hsome
  · intro hstage
    cases hstage

end AivpnClient

end Aivpn
