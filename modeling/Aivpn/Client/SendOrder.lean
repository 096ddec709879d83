import Aivpn.Client.AndroidTunnel
import Aivpn.Lib.KeyLine

/-!
# The clients count their packets

Both clients number the packets under each of their keys from zero. In the command line client the
counter lives in two places, the client itself and the state of the upload task, and a ServerHello
sets both back together with the key. `SendInv` says which of the two is the one that counts;
`inOrder_of_run` says that the encryptions of every run are in order, and so do those of the Android
tunnel (`AndroidTunnel.inOrder_of_run`).
-/

set_option autoImplicit false

namespace Aivpn

open Aivpn.Lib

namespace SendLog

variable (P : Primitives)

/-- The encryptions are in order. -/
def Ordered (log : SendLog) : Prop :=
  ∃ n, InOrder counterToNonce (log.keyHistory P) n log.usedPairs

/-- The encryptions are in order, the last keys are `keys`, and the next packet is number
`counter`. -/
def OrderedAt (log : SendLog) (keys : SessionKeys) (counter : Nat) : Prop :=
  ∃ n, InOrder counterToNonce (log.keyHistory P) n log.usedPairs ∧
    (log.keyHistory P).head? = some keys.sessionKey ∧ counter = n % 2 ^ 64

variable {P} {log : SendLog}

theorem OrderedAt.ordered {keys : SessionKeys} {counter : Nat} (h : log.OrderedAt P keys counter) :
    log.Ordered P := by
  obtain ⟨n, horder, -⟩ := h
  exact ⟨n, horder⟩

theorem ordered_empty : empty.Ordered P := ⟨0, InOrder.start⟩

/-- New keys start at zero. -/
theorem Ordered.rekey (h : log.Ordered P) (input : KdfInput) :
    (log.rekey input).OrderedAt P (input.keys P) 0 := by
  obtain ⟨n, horder⟩ := h
  exact ⟨0, horder.rekey _, rfl, rfl⟩

/-- An encryption with the next number keeps the order. -/
theorem OrderedAt.record {keys : SessionKeys} {counter : Nat} (h : log.OrderedAt P keys counter)
    (plaintext : Bytes) :
    (log.record keys.sessionKey counter plaintext).OrderedAt P keys (wrappingAdd counter 1) := by
  obtain ⟨n, horder, hhead, rfl⟩ := h
  refine ⟨n + 1, ?_, hhead, wrappingAdd_mod n⟩
  have hhist : (log.record keys.sessionKey (n % 2 ^ 64) plaintext).keyHistory P =
      log.keyHistory P := rfl
  have hused : (log.record keys.sessionKey (n % 2 ^ 64) plaintext).usedPairs =
      (keys.sessionKey, counterToNonce n) :: log.usedPairs := by
    rw [← counterToNonce_mod]
    rfl
  rw [hhist, hused]
  revert horder hhead
  cases log.keyHistory P with
  | nil =>
      intro _ hhead
      cases hhead
  | cons key rest =>
      -- the key in use is the last of the history, so that the counter goes on from its calls
      intro horder hhead
      obtain rfl : key = keys.sessionKey := Option.some.inj hhead
      exact horder.send

end SendLog

/-! ## The command line client -/

namespace AivpnClient

open Action SendLog

variable (P : Primitives)

/-- Where the next number of the client is: in the upload state once there is one, and before that in
the client's own counter. A client with keys still has its reference to the upload state. -/
structure SendInv (c : AivpnClient) : Prop where
  ordered : c.log.Ordered P
  upload : ∀ task, c.upload = some task →
    c.log.OrderedAt P task.state.keys task.state.counter
  own : ∀ keys, c.upload = none → c.sessionKeys = some keys → c.log.OrderedAt P keys c.counter
  shared : c.sessionKeys ≠ none → c.upload ≠ none → c.uploadState = true
  early : c.stage = .start ∨ c.stage = .connected ∨ c.stage = .initSent → c.upload = none
  start : c.stage = .start → c.counter = 0 ∧ c.sessionKeys = none

variable {P} {env : ClientEnv} {c : AivpnClient}

theorem buildPacket_cases (P : Primitives) (env : ClientEnv) (engine : MimicryEngine)
    (inner : Bytes) (keys : SessionKeys) (counter : Nat) (ephPub : Option Key) (c : AivpnClient) :
    (∃ e, buildPacket P env engine inner keys counter ephPub c = (.error e, c)) ∨
    ∃ mdh padded, engine.preparePacket env.draw inner ephPub = .ok (mdh, padded) ∧
      buildPacket P env engine inner keys counter ephPub c =
        (.ok (assemble P env.timeWindow keys counter mdh padded, wrappingAdd counter 1),
          { c with log := c.log.record keys.sessionKey counter padded }) := by
  unfold buildPacket MimicryEngine.buildPacket
  cases hprep : engine.preparePacket env.draw inner ephPub with
  | error e => exact Or.inl ⟨e, rfl⟩
  | ok prepared => exact Or.inr ⟨prepared.1, prepared.2, rfl, rfl⟩

/-- A packet with the client's own counter. -/
theorem SendInv.sendOwn (h : c.SendInv P) {keys : SessionKeys} (hkeys : c.sessionKeys = some keys)
    (hnone : c.upload = none) (padded : Bytes) : SendInv P { c with
      log := c.log.record keys.sessionKey c.counter padded
      counter := wrappingAdd c.counter 1 } := by
  have hnext := (h.own keys hnone hkeys).record padded
  refine ⟨hnext.ordered, ?_, ?_, h.shared, h.early, ?_⟩
  · intro task htask
    rw [hnone] at htask
    cases htask
  · intro keys' _ hkeys'
    obtain rfl : keys = keys' := Option.some.inj (hkeys.symm.trans hkeys')
    exact hnext
  · intro hs
    rw [(h.start hs).2] at hkeys
    cases hkeys

/-- A packet with the counter of the upload state. -/
theorem SendInv.sendUpload (h : c.SendInv P) {task : UploadTask} (htask : c.upload = some task)
    (padded : Bytes) : SendInv P { c with
      log := c.log.record task.state.keys.sessionKey task.state.counter padded
      upload := some (task.sentOne (wrappingAdd task.state.counter 1)) } := by
  have hnext := (h.upload task htask).record padded
  refine ⟨hnext.ordered, ?_, ?_, ?_, ?_, h.start⟩
  · intro task' htask'
    cases htask'
    exact hnext
  · intro keys hnone
    cases hnone
  · intro hkeys _
    exact h.shared hkeys (by simp [htask])
  · intro hstage
    exact absurd (h.early hstage) (by simp [htask])

/-- The fields that the invariant reads. -/
def sendView (c : AivpnClient) :=
  (c.log, c.sessionKeys, c.upload.map UploadTask.state, c.uploadState, c.counter, c.stage)

theorem SendInv.congr {c' : AivpnClient} (h : c.SendInv P) (heq : c'.sendView = c.sendView) :
    c'.SendInv P := by
  simp only [sendView, Prod.mk.injEq] at heq
  obtain ⟨hlog, hkeys, hupload, hstate, hcounter, hstage⟩ := heq
  have hnone : c'.upload = none ↔ c.upload = none := by
    rw [← Option.map_eq_none_iff (f := UploadTask.state), hupload, Option.map_eq_none_iff]
  refine ⟨hlog ▸ h.ordered, ?_, ?_, ?_, ?_, ?_⟩
  · intro task htask
    rw [htask, Option.map_some] at hupload
    obtain ⟨task', htask', heq⟩ := Option.map_eq_some_iff.1 hupload.symm
    rw [hlog, ← heq]
    exact h.upload task' htask'
  · intro keys hup hsession
    rw [hlog, hcounter]
    exact h.own keys (hnone.1 hup) (hkeys ▸ hsession)
  · intro hsession hup
    rw [hstate]
    exact h.shared (hkeys ▸ hsession) (fun hn => hup (hnone.2 hn))
  · intro hs
    exact hnone.2 (h.early (hstage ▸ hs))
  · intro hs
    rw [hcounter, hkeys]
    exact h.start (hstage ▸ hs)

/-- A later stage. -/
theorem SendInv.toStage (h : c.SendInv P) (stage : Stage) (hstart : stage ≠ .start)
    (hearly : stage = .connected ∨ stage = .initSent → c.upload = none) :
    SendInv P { c with stage := stage } := by
  refine ⟨h.ordered, h.upload, h.own, h.shared, ?_, ?_⟩
  · rintro (hs | hs)
    · exact absurd hs hstart
    · exact hearly hs
  · intro hs
    exact absurd hs hstart

/-- Without keys nothing is counted for the client itself. -/
theorem SendInv.clearKeys (h : c.SendInv P) : c.clearKeys.SendInv P := by
  refine ⟨h.ordered, h.upload, ?_, ?_, h.early, fun hs => ⟨(h.start hs).1, rfl⟩⟩
  · intro keys _ hkeys
    cases hkeys
  · intro hkeys
    exact absurd rfl hkeys

theorem SendInv.sendPacket (h : c.SendInv P) (packet : Bytes) :
    ((sendPacket env packet) c).2.SendInv P := by
  unfold AivpnClient.sendPacket
  split_ifs
  · exact h.congr rfl
  · exact h

/-- The client's own counter is used only while there is no upload task. -/
theorem SendInv.sendOwnPacket (h : c.SendInv P) {keys : SessionKeys}
    (hkeys : c.sessionKeys = some keys) (hnone : c.upload = none) (engine : MimicryEngine)
    (payload : ControlPayload) (ephPub : Option Key) :
    (AivpnClient.sendOwn P env engine payload keys ephPub c).2.SendInv P := by
  unfold AivpnClient.sendOwn
  rw [bind_of_ok (gets_apply _ _), bind_of_ok (modify_apply _ _)]
  simp only [id_eq]
  rcases buildPacket_cases P env engine
      (buildInnerPacket .control (UInt16.ofNat c.sendSeq) payload.encode) keys c.counter ephPub
      { c with sendSeq := (c.sendSeq + 1) % 2 ^ 32 }
    with ⟨e, he⟩ | ⟨mdh, padded, -, hok⟩
  · rw [bind_of_error he]
    exact h.congr rfl
  · rw [bind_of_ok hok]
    simp only
    rw [bind_of_ok (modify_apply _ _)]
    apply SendInv.sendPacket
    exact (h.sendOwn hkeys hnone padded).congr rfl

theorem SendInv.sendSharedPacket (h : c.SendInv P) {task : UploadTask}
    (htask : c.upload = some task) (engine : MimicryEngine) (payload : ControlPayload) :
    (AivpnClient.sendShared P env engine payload task c).2.SendInv P := by
  unfold AivpnClient.sendShared
  rcases buildPacket_cases P env engine
      (buildInnerPacket .control task.state.seq payload.encode) task.state.keys
      task.state.counter none c with ⟨e, he⟩ | ⟨mdh, padded, -, hok⟩
  · simp only
    rw [bind_of_error he]
    exact h
  · simp only
    rw [bind_of_ok hok]
    simp only
    rw [bind_of_ok (modify_apply _ _)]
    apply SendInv.sendPacket
    have hsent := h.sendUpload htask padded
    refine ⟨hsent.ordered, hsent.upload, ?_, hsent.shared, hsent.early, ?_⟩
    · intro keys hnone
      cases hnone
    · intro hs
      exact absurd (h.early (Or.inl hs)) (by simp [htask])

theorem SendInv.sendControl (h : c.SendInv P) (payload : ControlPayload) :
    (sendControl P env payload c).2.SendInv P := by
  unfold AivpnClient.sendControl
  rw [bind_of_ok (gets_apply _ _)]
  simp only [id_eq]
  cases c.mimicryEngine with
  | none => exact h
  | some engine =>
      simp only
      cases hshared : c.sharedUpload with
      | some task =>
          have htask : c.upload = some task := by
            unfold sharedUpload at hshared
            split_ifs at hshared
            exact hshared
          exact h.sendSharedPacket htask engine payload
      | none =>
          simp only
          cases hkeys : c.sessionKeys with
          | none => exact h
          | some keys =>
              have hnone : c.upload = none := by
                by_contra hne
                rw [sharedUpload, if_pos (h.shared (by simp [hkeys]) hne)] at hshared
                exact hne hshared
              exact h.sendOwnPacket hkeys hnone engine payload none

theorem SendInv.disconnect (h : c.SendInv P) : (disconnect P env c).SendInv P := by
  unfold AivpnClient.disconnect
  split_ifs
  · exact (h.sendControl (.shutdown 0)).clearKeys
  · exact h.clearKeys

theorem SendInv.finish (h : c.SendInv P) : (finish P env c).SendInv P :=
  h.disconnect.toStage .finished (by simp) (by simp)

/-! ## The stages of a run -/

theorem SendInv.connect (h : c.SendInv P) (hstage : c.stage = .start) :
    SendInv P (advance .connected (connect P env c)) := by
  have hnone := h.early (Or.inl hstage)
  obtain ⟨hcounter, -⟩ := h.start hstage
  unfold AivpnClient.connect
  rw [bind_of_ok (modify_apply _ _)]
  split_ifs
  · rw [bind_of_ok (modify_apply _ _), bind_of_ok (gets_apply _ _)]
    simp only [id_eq]
    cases P.computeShared c.keypair c.config.serverPublicKey with
    | error e =>
        rw [bind_of_error (ofExcept_error _ _)]
        exact (h.toStage .finished (by simp) (by simp)).congr rfl
    | ok dh =>
        rw [bind_of_ok (ofExcept_ok _ _)]
        -- keys that no packet was sent under yet: their log is empty, and the counter starts at 0
        have hrekey := h.ordered.rekey ⟨dh, c.config.presharedKey, c.keypair.publicKeyBytes⟩
        refine ⟨hrekey.ordered, ?_, ?_, ?_, fun _ => hnone, ?_⟩
        -- no upload task runs before the first `connect`
        · intro task htask
          exact absurd (hnone.symm.trans htask) (by simp)
        · intro keys _ hkeys
          obtain rfl := Option.some.inj hkeys
          show SendLog.OrderedAt P _ _ c.counter
          rw [hcounter]
          exact hrekey
        · intro _ hne
          exact absurd hnone hne
        · intro hs
          cases hs
  · exact (h.toStage .finished (by simp) (by simp)).congr rfl

theorem SendInv.advance {x : Outcome Unit × AivpnClient} (h : x.2.SendInv P) {next : Stage}
    (hstart : next ≠ .start) (hearly : next = .connected ∨ next = .initSent → x.2.upload = none) :
    SendInv P (advance next x) := by
  rcases x with ⟨r, c'⟩
  cases r with
  | ok a => exact h.toStage next hstart hearly
  | error e => exact h.toStage .finished (by simp) (by simp)

/-- The client's own packets leave the upload task alone. -/
theorem keeps_upload_sendOwn (engine : MimicryEngine) (payload : ControlPayload)
    (keys : SessionKeys) (ephPub : Option Key) :
    Keeps upload (sendOwn P env engine payload keys ephPub) := by
  refine Keeps.bind (keeps_gets _) fun c => ?_
  refine Keeps.bind (keeps_modify fun _ => rfl) fun _ => ?_
  refine Keeps.bind ?_ fun _ => ?_
  · refine Keeps.bind (keeps_ofExec _) fun _ => ?_
    exact Keeps.bind (keeps_modify fun _ => rfl) fun _ => keeps_ofExec _
  · refine Keeps.bind (keeps_modify fun _ => rfl) fun _ => ?_
    unfold sendPacket
    split_ifs
    · exact keeps_modify fun _ => rfl
    · exact keeps_throw _

theorem SendInv.sendInit (h : c.SendInv P) (env : ClientEnv) (hnone : c.upload = none) :
    (sendInit P env c).2.SendInv P ∧ (sendInit P env c).2.upload = none := by
  unfold AivpnClient.sendInit
  rw [bind_of_ok (gets_apply _ _)]
  simp only [id_eq]
  cases hkeys : c.sessionKeys with
  | none => exact ⟨h, hnone⟩
  | some keys =>
      simp only
      cases c.mimicryEngine with
      | none => exact ⟨h, hnone⟩
      | some engine =>
          refine ⟨h.sendOwnPacket hkeys hnone engine _ _, ?_⟩
          exact (keeps_upload_sendOwn engine _ keys _ c).trans hnone

/-- The upload task takes over the client's keys and counter. -/
theorem SendInv.startUpload (h : c.SendInv P) (hstage : c.stage = .initSent) :
    SendInv P (AivpnClient.advance .running (startUpload c)) := by
  have hnone := h.early (Or.inr (Or.inr hstage))
  unfold AivpnClient.startUpload
  rw [bind_of_ok (gets_apply _ _)]
  simp only [id_eq]
  cases hkeys : c.sessionKeys with
  | none => exact h.toStage .finished (by simp) (by simp)
  | some keys =>
      simp only
      cases c.mimicryEngine with
      | none => exact h.toStage .finished (by simp) (by simp)
      | some engine =>
          refine ⟨h.ordered, ?_, ?_, fun _ _ => rfl, ?_, ?_⟩
          · intro task htask
            cases htask
            exact h.own keys hnone hkeys
          · intro keys' hnone'
            cases hnone'
          · rintro (hs | hs | hs) <;> cases hs
          · intro hs
            cases hs

theorem SendInv.encryptUpload (h : c.SendInv P) (innerType : InnerType) (payload : Bytes) :
    (encryptUpload P env innerType payload c).2.SendInv P := by
  unfold AivpnClient.encryptUpload
  rw [bind_of_ok (gets_apply _ _)]
  simp only [id_eq]
  cases htask : c.upload with
  | none => exact h
  | some task =>
      simp only
      rcases buildPacket_cases P env task.engine (buildInnerPacket innerType task.state.seq payload)
          task.state.keys task.state.counter none c with ⟨e, he⟩ | ⟨mdh, padded, -, hok⟩
      · rw [bind_of_error he]
        exact h
      · rw [bind_of_ok hok]
        simp only
        rw [bind_of_ok (modify_apply _ _)]
        split_ifs
        · exact (h.sendUpload htask padded).congr rfl
        · exact (h.sendUpload htask padded).congr rfl

theorem SendInv.afterUpload {x : Outcome Unit × AivpnClient} (h : x.2.SendInv P) :
    SendInv P (afterUpload P env x) := by
  rcases x with ⟨r, c'⟩
  cases r with
  | ok a => exact h
  | error e =>
      have hfin : (AivpnClient.finish P env c').SendInv P := SendInv.finish h
      have hkeys : (AivpnClient.finish P env c').sessionKeys = none := by
        unfold AivpnClient.finish AivpnClient.disconnect
        split_ifs <;> rfl
      refine ⟨hfin.ordered, ?_, ?_, ?_, fun _ => rfl, hfin.start⟩
      · intro task htask
        cases htask
      · intro keys _ hsome
        exact absurd (hkeys.symm.trans hsome) (by simp)
      · intro _ hne
        exact absurd rfl hne

/-! ## The ServerHello -/

/-- A ServerHello sets the counter of the client and that of the upload state back, with the key. -/
theorem SendInv.ratchet (h : c.SendInv P) {keys : SessionKeys} (hkeys : c.sessionKeys = some keys)
    (input : KdfInput) : (ratchet P env input c).SendInv P := by
  have hrekey := h.ordered.rekey input
  have hupload : ∀ task, (AivpnClient.ratchet P env input c).upload = some task →
      ∃ old, c.upload = some old ∧ task.state.keys = input.keys P ∧ task.state.counter = 0 := by
    intro task htask
    -- a task after the ratchet was there before it, and has the new keys and the counter 0
    have hne : c.upload ≠ none := by
      intro hnone
      simp [AivpnClient.ratchet, hnone] at htask
    obtain ⟨old, hold⟩ := Option.ne_none_iff_exists'.1 hne
    have hshared := h.shared (by simp [hkeys]) hne
    simp only [AivpnClient.ratchet, hshared, if_true, hold, Option.map_some,
      Option.some.injEq] at htask
    subst htask
    exact ⟨old, hold, rfl, rfl⟩
  refine ⟨hrekey.ordered, ?_, ?_, ?_, ?_, ?_⟩
  · intro task htask
    obtain ⟨-, -, hk, hc⟩ := hupload task htask
    rw [hk, hc]
    exact hrekey
  · intro keys' _ hkeys'
    obtain rfl : input.keys P = keys' := Option.some.inj hkeys'
    exact hrekey
  · intro _ hne
    obtain ⟨task, htask⟩ := Option.ne_none_iff_exists'.1 hne
    obtain ⟨old, hold, -⟩ := hupload task htask
    exact h.shared (by simp [hkeys]) (by simp [hold])
  · intro hs
    have hnone := h.early hs
    simp [AivpnClient.ratchet, hnone]
  · intro hs
    rw [(h.start hs).2] at hkeys
    cases hkeys

theorem handleMaskUpdate_cases (env : ClientEnv) (maskData : Bytes) (c : AivpnClient) :
    (handleMaskUpdate env maskData c).2 = c ∨
      ∃ newMask, (handleMaskUpdate env maskData c).2 = updateMask newMask c := by
  unfold handleMaskUpdate
  cases env.fromSlice maskData with
  | none => exact Or.inl rfl
  | some newMask => exact Or.inr ⟨_, rfl⟩

theorem SendInv.handleServerControl (h : c.SendInv P) (control : ControlPayload) :
    (handleServerControl P env control c).2.SendInv P := by
  cases control with
  | serverHello serverEphPub signature =>
      -- only `ServerHello` replaces keys; the other controls leave what is sent alone
      show (handleServerHello P env serverEphPub signature c).2.SendInv P
      unfold handleServerHello
      rw [bind_of_ok (gets_apply _ _)]
      simp only [id_eq]
      cases verifyHello P c serverEphPub signature with
      | error e => exact h
      | ok _ =>
          rw [bind_of_ok (ofExcept_ok _ _)]
          cases P.computeShared c.keypair serverEphPub with
          | error e => exact h
          | ok dh2 =>
              rw [bind_of_ok (ofExcept_ok _ _)]
              cases hkeys : c.sessionKeys with
              | none => exact h
              | some current => exact h.ratchet hkeys _
  | shutdown reason => exact h.disconnect
  | maskUpdate maskData signature =>
      show (handleMaskUpdate env maskData c).2.SendInv P
      rcases handleMaskUpdate_cases env maskData c with heq | ⟨newMask, heq⟩
      · rw [heq]
        exact h
      · rw [heq]
        exact h.congr rfl
  | keyRotate newEphPub => exact h
  | keepalive => exact h
  | timeSync serverTsMs => exact h
  | telemetryRequest metricFlags => exact h
  | telemetryResponse packetLoss rttMs jitterMs bufferPct => exact h
  | controlAck ackSeq ackForSubtype => exact h

/-! ## Receiving -/

theorem expireTransition_sendView (c : AivpnClient) :
    (expireTransition env c).sendView = c.sendView := by
  unfold expireTransition
  split
  · rfl
  · split_ifs <;> rfl

/-- The decoder moves the receive windows only. -/
theorem keeps_sendView_decodePacket (P : Primitives) (env : ClientEnv) (packet : Bytes) :
    Keeps sendView (decodePacket P env packet) := by
  refine Keeps.bind (keeps_gets _) fun c => ?_
  cases c.sessionKeys with
  | none => exact keeps_throw _
  | some keys =>
      refine Keeps.bind (keeps_update fun _ => rfl) fun primary => ?_
      rcases primary with (e | _) | decoded
      · cases c.transitionRecvKeys with
        | none => exact keeps_throw _
        | some fallbackKeys =>
            refine Keeps.bind (keeps_update fun _ => rfl) fun fallback => ?_
            rcases fallback with (e' | _) | decoded
            · exact keeps_throw _
            · exact keeps_ofExec _
            · exact keeps_pure _
      · exact keeps_ofExec _
      · exact keeps_pure _

theorem SendInv.receive (h : c.SendInv P) (packet : Bytes) :
    (receiveAndWritePacketWithMdh P env packet c).2.SendInv P := by
  -- decoding a packet changes nothing that the sending side reads
  have hexpired : (expireTransition env c).SendInv P := h.congr (expireTransition_sendView c)
  have hkeeps := keeps_sendView_decodePacket P env packet (expireTransition env c)
  unfold receiveAndWritePacketWithMdh
  rw [bind_of_ok (modify_apply _ _)]
  rcases hdec : decodePacket P env packet (expireTransition env c) with ⟨r, c'⟩
  rw [hdec] at hkeeps
  have hinv : c'.SendInv P := hexpired.congr hkeeps
  cases r with
  | error e =>
      rw [bind_of_error hdec]
      exact hinv
  | ok decoded =>
      rw [bind_of_ok hdec]
      cases decoded.header.innerType with
      | data =>
          simp only
          split_ifs <;> exact hinv
      | control =>
          simp only
          cases hctl : ControlPayload.decode decoded.payload with
          | error e => exact hinv
          | ok control =>
              rw [bind_of_ok (ofExec_apply _ _)]
              exact hinv.handleServerControl control
      | fragment => exact hinv
      | ack => exact hinv

theorem SendInv.afterReceive {x : Outcome Unit × AivpnClient} (h : x.2.SendInv P) :
    SendInv P (afterReceive P env x) := by
  rcases x with ⟨r, c'⟩
  unfold AivpnClient.afterReceive
  split
  · next heq =>
      cases heq
      exact h
  · next heq =>
      cases heq
      exact h
  · next heq =>
      cases heq
      exact SendInv.finish h
  · next heq =>
      cases heq
      exact h.toStage .finished (by simp) (by simp)

/-! ## Runs -/

theorem SendInv.step (h : c.SendInv P) (e : ClientEnv × Event) : (step P c e).SendInv P := by
  rcases e with ⟨env, event⟩
  cases event with
  | connect =>
      simp only [AivpnClient.step]
      split_ifs with hstage
      · exact h.connect hstage
      · exact h
  | sendInit =>
      simp only [AivpnClient.step]
      split_ifs with hstage
      · obtain ⟨hinv, hnone⟩ := h.sendInit env (h.early (Or.inr (Or.inl hstage)))
        exact SendInv.advance hinv (by simp) fun _ => hnone
      · exact h
  | startUpload =>
      simp only [AivpnClient.step]
      split_ifs with hstage
      · exact h.startUpload hstage
      · exact h
  | data payload => exact SendInv.afterUpload (h.encryptUpload .data payload)
  | keepalive => exact SendInv.afterUpload (h.encryptUpload .control _)
  | updateFsm padding =>
      refine h.congr ?_
      simp [AivpnClient.step, sendView, Function.comp_def]
  | receive packet =>
      simp only [AivpnClient.step]
      split_ifs
      · exact SendInv.afterReceive (h.receive packet)
      · exact h
  | shutdown =>
      simp only [AivpnClient.step]
      split_ifs
      · exact h.finish
      · exact h

theorem sendInv_new (config : Config) (keypair : KeyPair) : (new config keypair).SendInv P := by
  refine ⟨ordered_empty, ?_, ?_, ?_, fun _ => rfl, fun _ => ⟨rfl, rfl⟩⟩
  · intro task htask
    cases htask
  · intro keys _ hkeys
    cases hkeys
  · intro hne
    exact absurd rfl hne

/-- In every run of the command line client the encryptions are in order. -/
theorem inOrder_of_run (config : Config) (keypair : KeyPair) (es : List (ClientEnv × Event)) :
    (runFrom (AivpnClient.step P) (new config keypair) es).log.Ordered P := by
  have hinv := runFrom_invariant (fun c e (hc : SendInv P c) => hc.step e)
    (sendInv_new config keypair) es
  exact hinv.ordered

end AivpnClient

/-! ## The Android tunnel -/

namespace AndroidTunnel

open SendLog

variable (P : Primitives)

/-- Where the next number of the tunnel is: in the local variable until the upload task starts, and
then in its encryptor. -/
structure SendInv (c : AndroidTunnel) : Prop where
  ordered : c.log.Ordered P
  handshake : c.stage = .handshake → c.log.OrderedAt P c.keys c.sendCounter
  forwarding : ∀ enc, c.stage = .forwarding → c.encryptor = some enc →
    c.log.OrderedAt P enc.keys enc.counter
  start : c.stage = .start → c.sendCounter = 0

variable {P} {env : ClientEnv} {c : AndroidTunnel}

theorem transmit_cases (env : ClientEnv) (packet : Bytes) (c : AndroidTunnel) :
    (transmit env packet c).log = c.log ∧ (transmit env packet c).stage = c.stage ∧
      (transmit env packet c).keys = c.keys ∧ (transmit env packet c).sendCounter = c.sendCounter ∧
      (transmit env packet c).encryptor = c.encryptor := by
  unfold transmit
  split_ifs
  · exact ⟨rfl, rfl, rfl, rfl, rfl⟩
  · exact ⟨rfl, rfl, rfl, rfl, rfl⟩

theorem SendInv.transmit (h : c.SendInv P) (packet : Bytes) :
    (transmit env packet c).SendInv P := by
  obtain ⟨hlog, hstage, hkeys, hcounter, henc⟩ := transmit_cases env packet c
  refine ⟨hlog ▸ h.ordered, ?_, ?_, ?_⟩
  · rw [hlog, hstage, hkeys, hcounter]
    exact h.handshake
  · rw [hlog, hstage, henc]
    exact h.forwarding
  · rw [hstage, hcounter]
    exact h.start

/-- A handshake datagram takes the next number of the local variable. -/
theorem sendInv_sendHandshake (h : c.log.OrderedAt P c.keys c.sendCounter) :
    (sendHandshake P env c).SendInv P := by
  apply SendInv.transmit
  have hnext := h.record (zeroMdhPlaintext env.draw
    (buildInnerPacket .control c.sendSeq ControlPayload.keepalive.encode))
  refine ⟨hnext.ordered, fun _ => hnext, ?_, ?_⟩
  · intro enc hs
    simp only at hs
    split_ifs at hs
  · intro hs
    simp only at hs
    split_ifs at hs

theorem SendInv.begin (h : c.SendInv P) (hstage : c.stage = .start) :
    (begin P env c).SendInv P := by
  have hcounter := h.start hstage
  unfold AndroidTunnel.begin
  split
  · refine ⟨h.ordered, ?_, ?_, ?_⟩
    · intro hs
      cases hs
    · intro enc hs
      cases hs
    · intro hs
      cases hs
  · next dh _ =>
      apply sendInv_sendHandshake
      show SendLog.OrderedAt P _ _ c.sendCounter
      rw [hcounter]
      exact h.ordered.rekey _

/-- Behind the ServerHello the encryptor starts at zero. -/
theorem SendInv.receiveHello (h : c.SendInv P) (packet : Bytes) :
    (receiveHello P env packet c).SendInv P := by
  unfold AndroidTunnel.receiveHello
  split
  · refine ⟨h.ordered, ?_, ?_, ?_⟩
    · intro hs
      cases hs
    · intro enc hs
      cases hs
    · intro hs
      cases hs
  · next keys w counter hok =>
      -- the packet is the `ServerHello` that was awaited, and its ephemeral key gives the new keys
      obtain ⟨decoded, serverEphPub, signature, hdec, hctl, rfl, rfl, rfl⟩ :=
        processServerHelloWithMdhLen_ok hok
      have hinput : helloInput P env c packet = some ⟨P.x25519 c.keypair.privateKeyBytes
          serverEphPub, some c.keys.sessionKey, c.keypair.publicKeyBytes⟩ := by
        unfold helloInput
        rw [hdec]
        simp only [hctl]
      rw [hinput]
      have hrekey := h.ordered.rekey ⟨P.x25519 c.keypair.privateKeyBytes serverEphPub,
        some c.keys.sessionKey, c.keypair.publicKeyBytes⟩
      refine ⟨hrekey.ordered, ?_, ?_, ?_⟩
      · intro hs
        cases hs
      · intro enc _ henc
        cases henc
        exact hrekey
      · intro hs
        cases hs

theorem SendInv.encryptUpload (h : c.SendInv P) (hstage : c.stage = .forwarding)
    (innerType : InnerType) (payload : Bytes) :
    (encryptUpload P env innerType payload c).SendInv P := by
  unfold AndroidTunnel.encryptUpload
  split
  · exact h
  · next enc henc =>
      apply SendInv.transmit
      have hnext := (h.forwarding enc hstage henc).record
        (zeroMdhPlaintext env.draw (buildInnerPacket innerType enc.seq payload))
      refine ⟨hnext.ordered, ?_, ?_, ?_⟩
      · intro hs
        exact absurd (hstage.symm.trans hs) (by simp)
      · intro enc' _ henc'
        cases henc'
        exact hnext
      · intro hs
        exact absurd (hstage.symm.trans hs) (by simp)

/-- Received datagrams leave the sending side alone. -/
theorem SendInv.receive (h : c.SendInv P) (packet : Bytes) : (receive P env packet c).SendInv P := by
  unfold AndroidTunnel.receive
  simp only
  split
  · exact ⟨h.ordered, h.handshake, h.forwarding, h.start⟩
  · split
    · exact ⟨h.ordered, h.handshake, h.forwarding, h.start⟩
    · exact ⟨h.ordered, h.handshake, h.forwarding, h.start⟩

theorem SendInv.step (h : c.SendInv P) (e : ClientEnv × Event) : (step P c e).SendInv P := by
  rcases e with ⟨env, event⟩
  cases event with
  | begin =>
      simp only [AndroidTunnel.step]
      split_ifs with hstage
      · exact h.begin hstage
      · exact h
  | retry =>
      simp only [AndroidTunnel.step]
      split_ifs with hstage
      · exact sendInv_sendHandshake (h.handshake hstage)
      · exact h
  | data payload =>
      simp only [AndroidTunnel.step]
      split_ifs with hstage
      · exact h.encryptUpload hstage .data payload
      · exact h
  | keepalive =>
      simp only [AndroidTunnel.step]
      split_ifs with hstage
      · exact h.encryptUpload hstage .control _
      · exact h
  | receive packet =>
      simp only [AndroidTunnel.step]
      split_ifs
      · exact h.receiveHello packet
      · exact h.receive packet
      · exact h
  | stop =>
      refine ⟨h.ordered, ?_, ?_, ?_⟩
      · intro hs
        cases hs
      · intro enc hs
        cases hs
      · intro hs
        cases hs

/-- In every run of the Android tunnel the encryptions are in order. -/
theorem inOrder_of_run (serverKey : Key) (psk : Option Key) (keypair : KeyPair)
    (es : List (ClientEnv × Event)) :
    (runFrom (AndroidTunnel.step P) (new serverKey psk keypair) es).log.Ordered P := by
  have hnew : (new serverKey psk keypair).SendInv P := by
    refine ⟨ordered_empty, ?_, ?_, fun _ => rfl⟩
    · intro hs
      cases hs
    · intro enc hs
      cases hs
  have hinv := runFrom_invariant (fun c e (hc : SendInv P c) => hc.step e) hnew es
  exact hinv.ordered

end AndroidTunnel

end Aivpn
