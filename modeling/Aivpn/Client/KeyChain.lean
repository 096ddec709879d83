import Aivpn.Client.ReceiveSteps

/-!
# The keys of a connection

The keys of the command line client form a chain: `connect` derives the first ones with the
configured PSK, and every ServerHello derives the next ones with the session key before. So no
derivation repeats an earlier one (`kdfInputs_nodup_of_run`), as long as the derivation is as fresh as
`KeysFresh` says.

The client numbers its packets under each key from zero, whichever of its two counters is in use
(`inOrder_of_run`). With distinct keys the pairs of key and nonce are distinct exactly as long as no
key has more than `2 ^ 64` packets (`usedPairs_nodup_iff`): the counter is a `u64` that starts over.
-/

set_option autoImplicit false

namespace Aivpn

open Aivpn.Lib

namespace AivpnClient

/-- The derivations of a client are fresh: distinct inputs give distinct session keys and distinct
tag secrets, and no session key is the configured PSK. -/
structure KeysFresh (P : Primitives) (c : AivpnClient) : Prop where
  sessionKey : ∀ i ∈ c.log.kdfInputs, ∀ j ∈ c.log.kdfInputs,
    i.sessionKey P = j.sessionKey P → i = j
  tagSecret : ∀ i ∈ c.log.kdfInputs, ∀ j ∈ c.log.kdfInputs,
    (i.keys P).tagSecret = (j.keys P).tagSecret → i = j
  psk : ∀ i ∈ c.log.kdfInputs, c.config.presharedKey ≠ some (i.sessionKey P)

/-- The keys of the client are the newest ones of a chain that starts with the PSK, and the transition
keys are those before. -/
structure ChainInv (P : Primitives) (c : AivpnClient) : Prop where
  linked : Linked (KdfInput.sessionKey P) KdfInput.presharedKey c.config.presharedKey
    c.log.kdfInputs
  current : ∀ keys, c.sessionKeys = some keys →
    c.log.kdfInputs.head?.map (KdfInput.keys P) = some keys
  transition : ∀ keys, c.transitionRecvKeys = some keys →
    c.log.kdfInputs.tail.head?.map (KdfInput.keys P) = some keys

variable {P : Primitives} {H : Nat → SessionKeys → RecvWindow → Bytes → Prop}

theorem ChainInv.congr {c c' : AivpnClient} (h : c.ChainInv P) (hconfig : c'.config = c.config)
    (hinputs : c'.log.kdfInputs = c.log.kdfInputs)
    (hkeys : c'.sessionKeys = c.sessionKeys ∨ c'.sessionKeys = none)
    (htransition : c'.transitionRecvKeys = c.transitionRecvKeys ∨ c'.transitionRecvKeys = none) :
    c'.ChainInv P where
  linked := by
    rw [hconfig, hinputs]
    exact h.linked
  current := by
    intro keys hsome
    rw [hinputs]
    rcases hkeys with heq | heq
    · exact h.current keys (heq ▸ hsome)
    · rw [heq] at hsome
      cases hsome
  transition := by
    intro keys hsome
    rw [hinputs]
    rcases htransition with heq | heq
    · exact h.transition keys (heq ▸ hsome)
    · rw [heq] at hsome
      cases hsome

theorem ChainInv.ratchet {c : AivpnClient} (h : c.ChainInv P) {current : SessionKeys}
    (hkeys : c.sessionKeys = some current) (dh2 : Key) (env : ClientEnv) :
    (ratchet P env ⟨dh2, some current.sessionKey, c.keypair.publicKeyBytes⟩ c).ChainInv P where
  linked := by
    apply linked_cons h.linked
    have hhead := h.current current hkeys
    obtain ⟨i, hi, rfl⟩ := Option.map_eq_some_iff.1 hhead
    rw [hi]
    rfl
  current := fun keys hsome => hsome
  transition := fun keys hsome => h.current keys hsome

theorem ChainInv.change {c c' : AivpnClient} (h : c.ChainInv P) (hch : RecvChange P H c c') :
    c'.ChainInv P := by
  cases hch with
  | same hview =>
      simp only [recvView, Prod.mk.injEq] at hview
      exact h.congr hview.1 hview.2.2.1 (Or.inl hview.2.2.2.1) (Or.inl hview.2.2.2.2.1)
  | clear => exact h.congr rfl rfl (Or.inr rfl) (Or.inr rfl)
  | connect huntouched =>
      simp only [Untouched, recvView, new, SendLog.empty, Prod.mk.injEq] at huntouched
      obtain ⟨-, -, hinputs, -, htransition, -⟩ := huntouched
      refine ⟨?_, fun keys hsome => hsome, fun keys hsome => ?_⟩
      · apply linked_cons h.linked
        rw [hinputs]
        rfl
      · cases htransition.symm.trans hsome
  | mdh n => exact h.congr rfl rfl (Or.inl rfl) (Or.inl rfl)
  | expire env =>
      rcases expireTransition_cases env c with hsame | hexpired
      · rw [hsame]
        exact h
      · rw [hexpired]
        exact h.congr rfl rfl (Or.inl rfl) (Or.inr rfl)
  | primary env packet hkeys hH => exact h.congr rfl rfl (Or.inl rfl) (Or.inl rfl)
  | fallback env packet hkeys hH => exact h.congr rfl rfl (Or.inl rfl) (Or.inl rfl)
  | ratchet env hkeys => exact h.ratchet hkeys _ env

theorem chainInv_new (config : Config) (keypair : KeyPair) : (new config keypair).ChainInv P where
  linked := trivial
  current := fun _ hsome => nomatch hsome
  transition := fun _ hsome => nomatch hsome

/-- The keys of every run form a chain. -/
theorem chainInv_of_run (config : Config) (keypair : KeyPair) (es : List (ClientEnv × Event)) :
    (runFrom (step P) (new config keypair) es).ChainInv P := by
  apply runFrom_of_recvChange (H := fun _ _ _ _ => True) (fun c c' h hch => h.change hch)
    (chainInv_new config keypair)
  -- nothing is asked of the searches
  have htrivial : ∀ c e, Searches (fun _ _ _ _ => True) c e :=
    fun _ _ _ _ _ => ⟨fun _ => trivial, fun _ => trivial⟩
  generalize new config keypair = c
  induction es generalizing c with
  | nil => trivial
  | cons e es ih => exact ⟨htrivial c e, ih _⟩

/-- No derivation repeats an earlier one. -/
theorem ChainInv.nodup {c : AivpnClient} (h : c.ChainInv P) (hfresh : c.KeysFresh P) :
    c.log.kdfInputs.Nodup :=
  h.linked.nodup hfresh.sessionKey hfresh.psk

theorem keyHistory_nodup {c : AivpnClient} (h : c.ChainInv P) (hfresh : c.KeysFresh P) :
    (c.log.keyHistory P).Nodup := by
  refine List.Nodup.map_on ?_ (h.nodup hfresh)
  exact fun i hi j hj heq => hfresh.sessionKey i hi j hj heq

theorem counterToNonce_eq_iff (i j : Nat) :
    counterToNonce i = counterToNonce j ↔ i % 2 ^ 64 = j % 2 ^ 64 := by
  constructor
  · intro h
    rw [← counterToNonce_mod i, ← counterToNonce_mod j] at h
    exact counterToNonce_inj (Nat.mod_lt _ (by decide)) (Nat.mod_lt _ (by decide)) h
  · intro h
    rw [← counterToNonce_mod i, ← counterToNonce_mod j, h]

/-- In every run of the client, no pair of key and nonce is used for two encryptions exactly when no
key is used for more than `2 ^ 64` of them. -/
theorem usedPairs_nodup_iff (P : Primitives) (config : Config) (keypair : KeyPair)
    (es : List (ClientEnv × Event)) {c : AivpnClient}
    (hc : c = runFrom (step P) (new config keypair) es) (hfresh : c.KeysFresh P) :
    c.log.usedPairs.Nodup ↔ ∀ key, usedUnder key c.log.usedPairs ≤ 2 ^ 64 := by
  have hchain : c.ChainInv P := hc ▸ chainInv_of_run config keypair es
  obtain ⟨n, horder⟩ : c.log.Ordered P := hc ▸ inOrder_of_run config keypair es
  exact horder.nodup_iff (by decide) counterToNonce_eq_iff (keyHistory_nodup hchain hfresh)

/-! ## A counter that starts over -/

/-- A mask with a header of four bytes, the embedded key behind it and no padding. -/
def sampleMask : MaskProfile := ⟨[0, 0, 0, 0], 4, 32, .fixed 0⟩

/-- A client of the server with the given key. -/
def sampleClientConfig (serverPublicKey : Key) (psk : Option Key) : Config :=
  ⟨serverPublicKey, psk, sampleMask, none⟩

/-- The client has derived its keys from `input` and has made `n` encryptions with them. -/
structure SentUnder (P : Primitives) (input : KdfInput) (n : Nat) (c : AivpnClient) : Prop where
  psk : c.config.presharedKey = none
  inputs : c.log.kdfInputs = [input]
  used : usedUnder (input.sessionKey P) c.log.usedPairs = n
  upload : ∃ task, c.upload = some task ∧ task.engine = ⟨sampleMask, none⟩ ∧
    task.state.keys = input.keys P

theorem preparePacket_sampleMask (r : PacketRandomness) (plaintext : Bytes) :
    ∃ mdh padded, (MimicryEngine.mk sampleMask none).preparePacket r plaintext none =
      .ok (mdh, padded) :=
  ⟨_, _, rfl⟩

theorem SentUnder.keepalive {input : KdfInput} {n : Nat} {c : AivpnClient}
    (h : c.SentUnder P input n) (env : ClientEnv) :
    (step P c (env, .keepalive)).SentUnder P input (n + 1) := by
  -- the task still has the sample mask, which prepares a packet whatever is drawn
  obtain ⟨task, htask, hengine, hkeys⟩ := h.upload
  obtain ⟨mdh, padded, hprepare⟩ := preparePacket_sampleMask env.draw
    (buildInnerPacket .control task.state.seq ControlPayload.keepalive.encode)
  rw [← hengine] at hprepare
  have hbuild : buildPacket P env task.engine
      (buildInnerPacket .control task.state.seq ControlPayload.keepalive.encode) task.state.keys
      task.state.counter none c =
      (.ok (assemble P env.timeWindow task.state.keys task.state.counter mdh padded,
        wrappingAdd task.state.counter 1),
        { c with log := c.log.record task.state.keys.sessionKey task.state.counter padded }) := by
    unfold buildPacket MimicryEngine.buildPacket
    rw [hprepare]
    rfl
  have hused : usedUnder (input.sessionKey P)
      (c.log.record task.state.keys.sessionKey task.state.counter padded).usedPairs = n + 1 := by
    rw [hkeys, ← h.used]
    exact usedUnder_cons_self _ _ _
  simp only [step, encryptKeepalive, encryptUpload]
  rw [Action.bind_of_ok (Action.gets_apply _ _)]
  simp only [id_eq, htask]
  rw [Action.bind_of_ok hbuild, Action.bind_of_ok (Action.modify_apply _ _)]
  cases env.sendOk with
  | true => exact ⟨h.psk, h.inputs, hused, ⟨_, rfl, hengine, hkeys⟩⟩
  | false => exact ⟨h.psk, h.inputs, hused, ⟨_, rfl, hengine, hkeys⟩⟩

theorem SentUnder.keepalives {input : KdfInput} {n : Nat} {c : AivpnClient}
    (h : c.SentUnder P input n) (env : ClientEnv) (k : Nat) :
    (runFrom (step P) c (List.replicate k (env, .keepalive))).SentUnder P input (n + k) := by
  induction k generalizing c n with
  | zero => exact h
  | succ k ih =>
      have hstep := ih (h.keepalive env)
      rw [Nat.add_right_comm] at hstep
      exact hstep

/-- The environment of these examples. -/
def sampleClientEnv : ClientEnv := ⟨⟨1000000, 0, true⟩, ⟨0, 0, fun _ => 0⟩, fun _ => none⟩

/-- A connection with the init and `k` keepalives. -/
def sampleKeepalives (k : Nat) : List (ClientEnv × Event) :=
  [(sampleClientEnv, .connect), (sampleClientEnv, .sendInit), (sampleClientEnv, .startUpload)] ++
    List.replicate k (sampleClientEnv, .keepalive)

/-- The client of these examples. -/
def sampleClient : AivpnClient :=
  new (sampleClientConfig (ByteArr.replicate 32 7) none)
    (samplePrimitives.fromPrivateKey (ByteArr.replicate 32 5))

theorem sampleKeepalives_sentUnder (k : Nat) :
    (runFrom (step samplePrimitives) sampleClient (sampleKeepalives k)).SentUnder samplePrimitives
      (sampleClient.initialInput samplePrimitives) (1 + k) := by
  unfold sampleKeepalives
  rw [runFrom_append]
  apply SentUnder.keepalives
  refine ⟨rfl, by decide +kernel, by decide +kernel, ?_⟩
  exact ⟨⟨⟨sampleMask, none⟩, ⟨(sampleClient.initialInput samplePrimitives).keys samplePrimitives,
    1, 1⟩⟩, by decide +kernel, rfl, rfl⟩

theorem SentUnder.keysFresh {input : KdfInput} {n : Nat} {c : AivpnClient}
    (h : c.SentUnder P input n) : c.KeysFresh P where
  sessionKey := by
    intro i hi j hj _
    rw [h.inputs, List.mem_singleton] at hi hj
    rw [hi, hj]
  tagSecret := by
    intro i hi j hj _
    rw [h.inputs, List.mem_singleton] at hi hj
    rw [hi, hj]
  psk := by
    intro i _
    rw [h.psk]
    exact nofun

/-- After `2 ^ 64` keepalives under the first keys, the nonce of the init is used again. -/
theorem keepalives_reuse_nonce :
    ∃ es c, c = runFrom (step samplePrimitives) sampleClient es ∧
      c.KeysFresh samplePrimitives ∧ ¬ c.log.usedPairs.Nodup := by
  have hsent := sampleKeepalives_sentUnder (2 ^ 64)
  refine ⟨_, _, rfl, hsent.keysFresh, fun hnodup => ?_⟩
  have hchain : ChainInv samplePrimitives (runFrom (step samplePrimitives) sampleClient
      (sampleKeepalives (2 ^ 64))) := chainInv_of_run _ _ _
  obtain ⟨n, horder⟩ : SendLog.Ordered samplePrimitives (runFrom (step samplePrimitives)
      sampleClient (sampleKeepalives (2 ^ 64))).log := inOrder_of_run _ _ _
  have hcount := (horder.nodup_iff (by decide) counterToNonce_eq_iff
    (keyHistory_nodup hchain hsent.keysFresh)).1 hnodup
  have hle := hcount ((sampleClient.initialInput samplePrimitives).sessionKey samplePrimitives)
  rw [hsent.used] at hle
  omega

/-- With the init and one keepalive the pairs are distinct. -/
theorem keepalive_keeps_nonces_distinct :
    (runFrom (step samplePrimitives) sampleClient (sampleKeepalives 1)).log.usedPairs.Nodup := by
  have hfresh := (sampleKeepalives_sentUnder 1).keysFresh
  refine (usedPairs_nodup_iff samplePrimitives sampleClient.config sampleClient.keypair
    (sampleKeepalives 1) rfl hfresh).2 fun key => ?_
  refine (List.countP_le_length).trans ?_
  decide +kernel

end AivpnClient

end Aivpn
