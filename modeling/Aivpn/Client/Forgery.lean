import Aivpn.Client.Delivery

/-!
# Datagrams that decrypt under no key

The main loop goes on after an `InvalidPacket` error and ends after any other one. A datagram that is
not authentic fails in the decoder, and which error it leaves is decided by its tag: where the tag is
not found the packet is invalid, but where it is the tag of a counter to come, the failed decryption
is a `Crypto` error. So an unauthentic datagram leaves the client running exactly if it is too short
or carries no such tag (`survives_iff_of_run`).
-/

set_option autoImplicit false

namespace Aivpn

open Aivpn.Lib

/-- The datagram does not decrypt for the counter that its tag stands for. A datagram that decrypts
for no counter at all is of this kind, whatever its tag. -/
def Unauthentic (P : Primitives) (tw : Nat) (keys : SessionKeys) (w : RecvWindow) (mdhLen : Nat)
    (packet : Bytes) : Prop :=
  ∀ counter, w.findCounter P tw (readArray 8 0 packet) keys = some counter →
    P.decrypt keys.sessionKey (counterToNonce counter) (packet.drop (tagSize + mdhLen)) = none

/-- The tag of the datagram is that of a counter the window has yet to see, in the time window or in
one beside it. -/
def HasNewTag (P : Primitives) (tw : Nat) (keys : SessionKeys) (w : RecvWindow) (packet : Bytes) :
    Prop :=
  ∃ counter t, w.isNew counter = true ∧ (keys.tagSecret, counter, t) ∈ w.searched tw keys.tagSecret ∧
    P.generateResonanceTag keys.tagSecret counter t = readArray 8 0 packet

section

variable {P : Primitives} {tw : Nat} {keys : SessionKeys} {w : RecvWindow} {mdhLen : Nat}
  {packet : Bytes}

theorem hasNewTag_iff :
    HasNewTag P tw keys w packet ↔
      ∃ counter, w.findCounter P tw (readArray 8 0 packet) keys = some counter := by
  constructor
  · rintro ⟨counter, t, hnew, ht, htag⟩
    have hfound := RecvWindow.findCounter_isSome (P := P) hnew ht
    rw [htag] at hfound
    exact Option.isSome_iff_exists.1 hfound
  · rintro ⟨counter, hfind⟩
    obtain ⟨hnew, t, ht, htag⟩ := RecvWindow.searched_of_findCounter hfind
    exact ⟨counter, t, hnew, ht, htag⟩

/-- The error of the decoder depends on the length and the tag alone. -/
theorem decode_unauthentic (h : Unauthentic P tw keys w mdhLen packet) :
    (∃ text, decodePacketWithMdhLen P tw packet keys w mdhLen = (err (.invalidPacket text), w) ∧
      ¬ (tagSize + mdhLen + 16 ≤ packet.length ∧ HasNewTag P tw keys w packet)) ∨
    (∃ text, decodePacketWithMdhLen P tw packet keys w mdhLen = (err (.crypto text), w) ∧
      tagSize + mdhLen + 16 ≤ packet.length ∧ HasNewTag P tw keys w packet) := by
  unfold decodePacketWithMdhLen
  split_ifs with hshort
  · exact Or.inl ⟨_, rfl, fun hlong => absurd hlong.1 (Nat.not_le.2 hshort)⟩
  · rw [hasNewTag_iff]
    cases hfind : w.findCounter P tw (readArray 8 0 packet) keys with
    | none => exact Or.inl ⟨_, rfl, by simp⟩
    | some counter =>
        simp only [Primitives.decryptPayload, h counter hfind]
        exact Or.inr ⟨_, rfl, Nat.not_lt.1 hshort, counter, rfl⟩

end

namespace AivpnClient

open Action

section

variable (P : Primitives)

/-- The datagram is unauthentic under the session keys and under the transition keys. -/
structure Forged (env : ClientEnv) (c : AivpnClient) (packet : Bytes) : Prop where
  session : ∀ keys, c.sessionKeys = some keys →
    Unauthentic P env.timeWindow keys c.recvWindow c.mdhLen packet
  transition : ∀ keys, (expireTransition env c).transitionRecvKeys = some keys →
    Unauthentic P env.timeWindow keys (expireTransition env c).transitionRecvWindow c.mdhLen packet

/-- A forged datagram is received without harm: the result is no error or `InvalidPacket`, and the
main loop goes on. -/
def SurvivesForgery (c : AivpnClient) (e : ClientEnv × Event) : Prop :=
  ∀ packet, e.2 = .receive packet → c.stage = .running → c.sessionKeys ≠ none →
    c.Forged P e.1 packet →
    ((receiveAndWritePacketWithMdh P e.1 packet c).1 = .ok .unit ∨
      ∃ text, (receiveAndWritePacketWithMdh P e.1 packet c).1 = err (.invalidPacket text)) ∧
    (step P c e).stage = .running

/-- A forged datagram is too short, or its tag is not one that the session keys wait for. -/
def NoNewTag (c : AivpnClient) (e : ClientEnv × Event) : Prop :=
  ∀ packet keys, e.2 = .receive packet → c.stage = .running → c.sessionKeys = some keys →
    c.Forged P e.1 packet →
    packet.length < tagSize + c.mdhLen + 16 ∨
      ¬ HasNewTag P e.1.timeWindow keys c.recvWindow packet

end

variable {P : Primitives} {env : ClientEnv} {c : AivpnClient}

theorem expireTransition_frame (env : ClientEnv) (c : AivpnClient) :
    (expireTransition env c).sessionKeys = c.sessionKeys ∧
      (expireTransition env c).recvWindow = c.recvWindow ∧
      (expireTransition env c).mdhLen = c.mdhLen ∧ (expireTransition env c).stage = c.stage := by
  rcases expireTransition_cases env c with heq | heq
  · rw [heq]
    exact ⟨rfl, rfl, rfl, rfl⟩
  · rw [heq]
    exact ⟨rfl, rfl, rfl, rfl⟩

/-- The error is that of the session keys, also where the transition keys are tried. -/
theorem decodePacket_forged {packet : Bytes} {keys : SessionKeys}
    (hkeys : c.sessionKeys = some keys) {e : Error}
    (hprimary : decodePacketWithMdhLen P env.timeWindow packet keys c.recvWindow c.mdhLen =
      (err e, c.recvWindow))
    (hfallback : ∀ fallbackKeys, c.transitionRecvKeys = some fallbackKeys →
      Unauthentic P env.timeWindow fallbackKeys c.transitionRecvWindow c.mdhLen packet) :
    decodePacket P env packet c = (err e, c) := by
  have hdecodePrimary : decodePrimary P env keys packet c = (err e, c) := by
    unfold decodePrimary
    rw [hprimary]
    rfl
  unfold decodePacket
  rw [bind_of_ok (gets_apply _ _)]
  simp only [id_eq, hkeys]
  rw [bind_of_ok (update_apply _ _), hdecodePrimary]
  simp only [err]
  cases htransition : c.transitionRecvKeys with
  | none => rfl
  | some fallbackKeys =>
      have hdecodeFallback : ∃ e', decodeFallback P env fallbackKeys packet c = (err e', c) := by
        unfold decodeFallback
        rcases decode_unauthentic (hfallback fallbackKeys htransition) with
          ⟨text, heq, -⟩ | ⟨text, heq, -⟩
        · rw [heq]
          exact ⟨_, rfl⟩
        · rw [heq]
          exact ⟨_, rfl⟩
      obtain ⟨e', heq⟩ := hdecodeFallback
      simp only
      rw [bind_of_ok (update_apply _ _), heq]
      rfl

/-- What a forged datagram does depends on its length and its tag alone. -/
theorem receive_forged {packet : Bytes} {keys : SessionKeys} (hkeys : c.sessionKeys = some keys)
    (h : c.Forged P env packet) :
    (∃ text, receiveAndWritePacketWithMdh P env packet c =
        (err (.invalidPacket text), expireTransition env c) ∧
      ¬ (tagSize + c.mdhLen + 16 ≤ packet.length ∧
        HasNewTag P env.timeWindow keys c.recvWindow packet)) ∨
    (∃ text, receiveAndWritePacketWithMdh P env packet c =
        (err (.crypto text), expireTransition env c) ∧
      tagSize + c.mdhLen + 16 ≤ packet.length ∧
        HasNewTag P env.timeWindow keys c.recvWindow packet) := by
  -- the expiry of the fallback keys leaves the window and the header length as they are
  obtain ⟨hsession, hwindow, hmdhLen, -⟩ := expireTransition_frame env c
  have hdecode : ∀ e, decodePacketWithMdhLen P env.timeWindow packet keys c.recvWindow c.mdhLen =
      (err e, c.recvWindow) →
      receiveAndWritePacketWithMdh P env packet c = (err e, expireTransition env c) := by
    intro e he
    unfold receiveAndWritePacketWithMdh
    rw [bind_of_ok (modify_apply _ _)]
    refine bind_of_error (decodePacket_forged (hsession.trans hkeys) ?_ ?_) _
    · rw [hwindow, hmdhLen]
      exact he
    · rw [hmdhLen]
      exact h.transition
  rcases decode_unauthentic (h.session keys hkeys) with ⟨text, heq, hnot⟩ | ⟨text, heq, hnew⟩
  · exact Or.inl ⟨text, hdecode _ heq, hnot⟩
  · exact Or.inr ⟨text, hdecode _ heq, hnew⟩

theorem survivesForgery_iff (c : AivpnClient) (e : ClientEnv × Event) :
    SurvivesForgery P c e ↔ NoNewTag P c e := by
  have hdichotomy : ∀ packet keys, ¬ (tagSize + c.mdhLen + 16 ≤ packet.length ∧
      HasNewTag P e.1.timeWindow keys c.recvWindow packet) ↔
      (packet.length < tagSize + c.mdhLen + 16 ∨
        ¬ HasNewTag P e.1.timeWindow keys c.recvWindow packet) := by
    intro packet keys
    rw [not_and_or, Nat.not_le]
  constructor
  · intro h packet keys hevent hstage hkeys hforged
    rw [← hdichotomy]
    obtain ⟨hresult, -⟩ := h packet hevent hstage (by simp [hkeys]) hforged
    rcases receive_forged hkeys hforged with ⟨text, -, hnot⟩ | ⟨text, heq, -⟩
    · exact hnot
    · simp [heq, err] at hresult
  · intro h packet hevent hstage hne hforged
    obtain ⟨keys, hkeys⟩ := Option.ne_none_iff_exists'.1 hne
    have hnot := (hdichotomy packet keys).2 (h packet keys hevent hstage hkeys hforged)
    rcases receive_forged hkeys hforged with ⟨text, heq, -⟩ | ⟨text, -, hnew⟩
    · obtain ⟨env, event⟩ := e
      obtain rfl : event = .receive packet := hevent
      refine ⟨Or.inr ⟨text, by rw [heq]⟩, ?_⟩
      simp only [step, if_pos hstage, heq]
      exact (expireTransition_frame env c).2.2.2.trans hstage
    · exact absurd hnew hnot

/-- In every run of the client, the datagrams that are not authentic leave it running exactly if none
that is long enough carries the tag of a counter to come. -/
theorem survives_iff_of_run (P : Primitives) (config : Config) (keypair : KeyPair)
    (es : List (ClientEnv × Event)) :
    Along (step P) (SurvivesForgery P) (new config keypair) es ↔
      Along (step P) (NoNewTag P) (new config keypair) es := by
  have hkeep : ∀ (c : AivpnClient) (e : ClientEnv × Event), True → True → NoNewTag P c e → True :=
    fun _ _ _ _ _ => trivial
  exact along_iff_of_invariant hkeep (fun c e _ _ => survivesForgery_iff c e) trivial
    (along_of_forall fun _ _ => trivial)

/-- The ServerHello of the sample connection with another last byte. -/
def sampleForgery : Bytes := (sampleHello (ByteArr.replicate 32 9)).dropLast ++ [255]

/-- The tag of that datagram is the one the client waits for, and the failed decryption ends the main
loop. -/
theorem survives_violated :
    ¬ Along (step samplePrimitives) (SurvivesForgery samplePrimitives) sampleClient
      (sampleKeepalives 0 ++ [(sampleClientEnv, .receive sampleForgery)]) := by
  rw [along_append]
  rintro ⟨-, hlast, -⟩
  have hstate : sampleUploading.stage = .running ∧ sampleUploading.sessionKeys =
      some ((sampleClient.initialInput samplePrimitives).keys samplePrimitives) ∧
      (expireTransition sampleClientEnv sampleUploading).transitionRecvKeys = none ∧
      (step samplePrimitives sampleUploading (sampleClientEnv, .receive sampleForgery)).stage =
        .finished := by
    decide +kernel
  obtain ⟨hstage, hkeys, hnone, hfinished⟩ := hstate
  -- the forgery has a genuine tag, and nothing behind it that opens
  have hforged : sampleUploading.Forged samplePrimitives sampleClientEnv sampleForgery := by
    constructor
    · intro keys hsome
      obtain rfl := Option.some.inj (hkeys.symm.trans hsome)
      have hfind : sampleUploading.recvWindow.findCounter samplePrimitives
          sampleClientEnv.timeWindow (readArray 8 0 sampleForgery)
          ((sampleClient.initialInput samplePrimitives).keys samplePrimitives) = some 0 := by
        decide +kernel
      intro counter hcounter
      obtain rfl := Option.some.inj (hfind.symm.trans hcounter)
      decide +kernel
    · intro keys hsome
      rw [hnone] at hsome
      cases hsome
  have hne : sampleUploading.sessionKeys ≠ none := by simp [hkeys]
  have hsurvives := hlast sampleForgery rfl hstage hne hforged
  cases hfinished.symm.trans hsurvives.2

end AivpnClient

end Aivpn
