import Aivpn.Client.KeyChain
import Aivpn.Common.RecvWindow

/-!
# Every datagram is delivered at most once

The command line client receives under two generations of keys at a time: its session keys, and for
two seconds after a ServerHello the keys before. Each generation has a receive window of its own; a
ServerHello moves the window along with its keys, and the deadline drops both.

`Spent` ties a datagram that has been decoded to the generation and the counter under which that
happened: as long as the generation is in use, its window has marked the counter. Every change of the
receiving side keeps this (`DeliveryInv.change`), so no datagram is decoded a second time
(`decoded_nodup_of_run`).
-/

set_option autoImplicit false

namespace Aivpn

open Aivpn.Lib

namespace AivpnClient

section

variable (P : Primitives) (D : Set (Key × Nat × Nat))

/-- What a search finds is a counter below `2 ^ 63`, and the triple it stands for is in `D`. -/
def HitIn (tw : Nat) (keys : SessionKeys) (w : RecvWindow) (packet : Bytes) : Prop :=
  ∀ counter, w.findCounter P tw (readArray 8 0 packet) keys = some counter → counter < 2 ^ 63 ∧
    ∀ t ∈ [tw, wrappingPred tw, wrappingAdd tw 1],
      P.generateResonanceTag keys.tagSecret counter t = readArray 8 0 packet →
        (keys.tagSecret, counter, t) ∈ D

/-- The datagram was decoded under the keys of an input and a counter, which is marked in the window
of these keys: in `seen` while they are the session keys, in `old` while they are in transition. -/
def Spent (c : AivpnClient) (seen old : Set Nat) (packet : Bytes) : Prop :=
  ∃ i ∈ c.log.kdfInputs, ∃ n t, ((i.keys P).tagSecret, n, t) ∈ D ∧
    P.generateResonanceTag (i.keys P).tagSecret n t = readArray 8 0 packet ∧
    (c.sessionKeys = some (i.keys P) → n ∈ seen) ∧
    (c.transitionRecvKeys = some (i.keys P) → n ∈ old)

/-- The datagrams decoded so far are distinct, and all of them are spent. -/
def DeliveryInv (c : AivpnClient) : Prop :=
  ∃ seen old, c.recvWindow.Holds seen ∧ c.transitionRecvWindow.Holds old ∧
    (∀ packet ∈ c.decoded, c.Spent P D seen old packet) ∧ c.decoded.Nodup

end

variable {P : Primitives} {D : Set (Key × Nat × Nat)} {c c' : AivpnClient} {seen old : Set Nat}

theorem KeysFresh.mono (h : c'.KeysFresh P) (hconfig : c'.config = c.config)
    (hsub : c.log.kdfInputs ⊆ c'.log.kdfInputs) : c.KeysFresh P where
  sessionKey i hi j hj := h.sessionKey i (hsub hi) j (hsub hj)
  tagSecret i hi j hj := h.tagSecret i (hsub hi) j (hsub hj)
  psk i hi := hconfig ▸ h.psk i (hsub hi)

/-- Keys are only added. -/
theorem RecvChange.kdfInputs_subset {H : Nat → SessionKeys → RecvWindow → Bytes → Prop}
    (h : RecvChange P H c c') : c'.config = c.config ∧ c.log.kdfInputs ⊆ c'.log.kdfInputs := by
  cases h with
  | same hview =>
      simp only [recvView, Prod.mk.injEq] at hview
      exact ⟨hview.1, hview.2.2.1 ▸ List.Subset.refl _⟩
  | clear => exact ⟨rfl, List.Subset.refl _⟩
  | connect _ => exact ⟨rfl, List.subset_cons_self _ _⟩
  | mdh n => exact ⟨rfl, List.Subset.refl _⟩
  | expire env =>
      rcases expireTransition_cases env c with hsame | hexpired
      · rw [hsame]
        exact ⟨rfl, List.Subset.refl _⟩
      · rw [hexpired]
        exact ⟨rfl, List.Subset.refl _⟩
  | primary env packet hkeys hH => exact ⟨rfl, List.Subset.refl _⟩
  | fallback env packet hkeys hH => exact ⟨rfl, List.Subset.refl _⟩
  | ratchet env hkeys => exact ⟨rfl, List.subset_cons_self _ _⟩

/-- The session keys are never those in transition. -/
theorem ChainInv.transition_ne (h : c.ChainInv P) (hfresh : c.KeysFresh P) {keys : SessionKeys}
    (hkeys : c.sessionKeys = some keys) : c.transitionRecvKeys ≠ some keys := by
  intro htransition
  have hcurrent := h.current keys hkeys
  have hbefore := h.transition keys htransition
  have hnodup := h.nodup hfresh
  have hinj := hfresh.tagSecret
  cases hinputs : c.log.kdfInputs with
  | nil =>
      rw [hinputs] at hcurrent
      cases hcurrent
  | cons i rest =>
      cases rest with
      | nil =>
          rw [hinputs] at hbefore
          cases hbefore
      | cons j rest =>
          rw [hinputs] at hcurrent hbefore hnodup hinj
          -- the newest input and the one before would give the same keys
          have hsame : i.keys P = j.keys P := by
            simp only [List.head?_cons, List.tail_cons, Option.map_some, Option.some.injEq] at *
            exact hcurrent.trans hbefore.symm
          have hij := hinj i (by simp) j (by simp) (congrArg SessionKeys.tagSecret hsame)
          rw [hij] at hnodup
          exact (List.nodup_cons.1 hnodup).1 List.mem_cons_self

/-- A datagram with the tag of a triple is spent for this triple only. -/
theorem Spent.of_tag {packet : Bytes} (h : c.Spent P D seen old packet) (hD : P.CollisionFree D)
    (hfresh : c.KeysFresh P) {i : KdfInput} (hi : i ∈ c.log.kdfInputs) {n t : Nat}
    (hmem : ((i.keys P).tagSecret, n, t) ∈ D)
    (htag : P.generateResonanceTag (i.keys P).tagSecret n t = readArray 8 0 packet) :
    (c.sessionKeys = some (i.keys P) → n ∈ seen) ∧
      (c.transitionRecvKeys = some (i.keys P) → n ∈ old) := by
  obtain ⟨j, hj, n', t', hmem', htag', hseen, hold⟩ := h
  have htriple := hD hmem hmem' (htag.trans htag'.symm)
  simp only [Prod.mk.injEq] at htriple
  obtain ⟨hsecret, rfl, -⟩ := htriple
  obtain rfl := hfresh.tagSecret i hi j hj hsecret
  exact ⟨hseen, hold⟩

theorem Spent.mono {seen' old' : Set Nat} {packet : Bytes} (h : c.Spent P D seen old packet)
    (hlog : c.log.kdfInputs ⊆ c'.log.kdfInputs)
    (hkeys : ∀ keys n, c'.sessionKeys = some keys → (c.sessionKeys = some keys → n ∈ seen) →
      n ∈ seen')
    (hold : ∀ keys n, c'.transitionRecvKeys = some keys →
      (c.transitionRecvKeys = some keys → n ∈ old) → n ∈ old') :
    c'.Spent P D seen' old' packet := by
  obtain ⟨i, hi, n, t, hmem, htag, hs, ho⟩ := h
  exact ⟨i, hlog hi, n, t, hmem, htag, fun h => hkeys _ n h hs, fun h => hold _ n h ho⟩

/-- A datagram is refused, or it is for a counter that the window has not marked before and marks
now. -/
theorem decode_marks {tw : Nat} {keys : SessionKeys} {w : RecvWindow} {packet : Bytes}
    (mdhLen : Nat) (hw : w.Holds seen) (hhit : HitIn P D tw keys w packet) :
    ((decodePacketWithMdhLen P tw packet keys w mdhLen).1.isOk = false ∧
      (decodePacketWithMdhLen P tw packet keys w mdhLen).2 = w) ∨
    ∃ n t, n ∉ seen ∧ (keys.tagSecret, n, t) ∈ D ∧
      P.generateResonanceTag keys.tagSecret n t = readArray 8 0 packet ∧
      (decodePacketWithMdhLen P tw packet keys w mdhLen).2.Holds (insert n seen) := by
  rcases decodePacketWithMdhLen_cases P tw packet keys w mdhLen with
    ⟨e, heq⟩ | ⟨n, padded, hfind, -, heq⟩
  · rw [heq]
    exact Or.inl ⟨rfl, rfl⟩
  · obtain ⟨hnew, t, ht, htag⟩ := RecvWindow.searched_of_findCounter hfind
    obtain ⟨hbound, hin⟩ := hhit n hfind
    rw [heq]
    exact Or.inr ⟨n, t, ((hw.isNew_iff n).1 hnew).1, hin t ht.2.2.2 htag, htag, hw.mark hbound⟩

/-- A datagram that is decoded for the first time. -/
theorem deliveryInv_decoded {packet : Bytes} {ok : Bool}
    (hw : c'.recvWindow.Holds seen) (hwold : c'.transitionRecvWindow.Holds old)
    (hspent : ∀ packet' ∈ c.decoded, c'.Spent P D seen old packet') (hnodup : c.decoded.Nodup)
    (hnew : c'.Spent P D seen old packet) (hfirst : packet ∉ c.decoded)
    (hdecoded : c'.decoded = if ok then packet :: c.decoded else c.decoded) :
    c'.DeliveryInv P D := by
  refine ⟨seen, old, hw, hwold, ?_⟩
  rw [hdecoded]
  cases ok with
  | false => exact ⟨hspent, hnodup⟩
  | true =>
      refine ⟨fun packet' hp => ?_, List.nodup_cons.2 ⟨hfirst, hnodup⟩⟩
      rcases List.mem_cons.1 hp with rfl | hp
      · exact hnew
      · exact hspent packet' hp

theorem DeliveryInv.congr (h : c.DeliveryInv P D) (hw : c'.recvWindow = c.recvWindow)
    (hwold : c'.transitionRecvWindow = c.transitionRecvWindow)
    (hinputs : c'.log.kdfInputs = c.log.kdfInputs) (hdecoded : c'.decoded = c.decoded)
    (hkeys : c'.sessionKeys = c.sessionKeys ∨ c'.sessionKeys = none)
    (hold : c'.transitionRecvKeys = c.transitionRecvKeys ∨ c'.transitionRecvKeys = none) :
    c'.DeliveryInv P D := by
  obtain ⟨seen, old, hseen, hseenold, hspent, hnodup⟩ := h
  refine ⟨seen, old, hw ▸ hseen, hwold ▸ hseenold, fun packet hp => ?_, hdecoded ▸ hnodup⟩
  rw [hdecoded] at hp
  refine (hspent packet hp).mono (hinputs ▸ List.Subset.refl _) ?_ ?_
  · intro keys n hsome hs
    rcases hkeys with heq | heq
    · exact hs (heq ▸ hsome)
    · cases heq.symm.trans hsome
  · intro keys n hsome ho
    rcases hold with heq | heq
    · exact ho (heq ▸ hsome)
    · cases heq.symm.trans hsome

theorem DeliveryInv.primary (h : c.DeliveryInv P D) (hchain : c.ChainInv P)
    (hfresh : c.KeysFresh P) (hD : P.CollisionFree D) {keys : SessionKeys} (env : ClientEnv)
    (packet : Bytes) (hkeys : c.sessionKeys = some keys)
    (hhit : HitIn P D env.timeWindow keys c.recvWindow packet) :
    (decodePrimary P env keys packet c).2.DeliveryInv P D := by
  have h' := h
  obtain ⟨seen, old, hw, hwold, hspent, hnodup⟩ := h
  rcases decode_marks c.mdhLen hw hhit with ⟨hfail, hsame⟩ | ⟨n, t, hnot, hmem, htag, hw'⟩
  · refine h'.congr hsame rfl rfl ?_ (Or.inl rfl) (Or.inl rfl)
    simp only [decodePrimary, hfail, Bool.false_eq_true, if_false]
  · obtain ⟨i, hi, rfl⟩ := Option.map_eq_some_iff.1 (hchain.current keys hkeys)
    have hmem' : i ∈ c.log.kdfInputs := List.mem_of_mem_head? hi
    refine deliveryInv_decoded hw' hwold (fun packet' hp => ?_) hnodup ?_ ?_ rfl
    · exact (hspent packet' hp).mono (List.Subset.refl _)
        (fun _ _ hk hs => Set.mem_insert_of_mem _ (hs hk)) fun _ _ hk ho => ho hk
    · exact ⟨i, hmem', n, t, hmem, htag, fun _ => Set.mem_insert n seen,
        fun ht => absurd ht (hchain.transition_ne hfresh hkeys)⟩
    · -- a copy that was decoded before would have the counter marked
      exact fun hp => hnot (((hspent packet hp).of_tag hD hfresh hmem' hmem htag).1 hkeys)

theorem DeliveryInv.fallback (h : c.DeliveryInv P D) (hchain : c.ChainInv P)
    (hfresh : c.KeysFresh P) (hD : P.CollisionFree D) {keys : SessionKeys} (env : ClientEnv)
    (packet : Bytes) (hkeys : c.transitionRecvKeys = some keys)
    (hhit : HitIn P D env.timeWindow keys c.transitionRecvWindow packet) :
    (decodeFallback P env keys packet c).2.DeliveryInv P D := by
  have h' := h
  obtain ⟨seen, old, hw, hwold, hspent, hnodup⟩ := h
  rcases decode_marks c.mdhLen hwold hhit with
    ⟨hfail, hsame⟩ | ⟨n, t, hnot, hmem, htag, hw'⟩
  · refine h'.congr rfl hsame rfl ?_ (Or.inl rfl) (Or.inl rfl)
    simp only [decodeFallback, hfail, Bool.false_eq_true, if_false]
  · obtain ⟨i, hi, rfl⟩ := Option.map_eq_some_iff.1 (hchain.transition keys hkeys)
    have hmem' : i ∈ c.log.kdfInputs := List.mem_of_mem_tail (List.mem_of_mem_head? hi)
    refine deliveryInv_decoded hw hw' (fun packet' hp => ?_) hnodup ?_ ?_ rfl
    · exact (hspent packet' hp).mono (List.Subset.refl _) (fun _ _ hk hs => hs hk)
        fun _ _ hk ho => Set.mem_insert_of_mem _ (ho hk)
    · exact ⟨i, hmem', n, t, hmem, htag,
        fun hs => absurd hkeys (hchain.transition_ne hfresh hs), fun _ => Set.mem_insert n old⟩
    · exact fun hp => hnot (((hspent packet hp).of_tag hD hfresh hmem' hmem htag).2 hkeys)

/-- The window of the session keys goes into transition with them; the new keys, which have decoded
nothing, get a new one. -/
theorem DeliveryInv.ratchet (h : c.DeliveryInv P D) {input : KdfInput} (env : ClientEnv)
    (hchain : (ratchet P env input c).ChainInv P) (hfresh : (ratchet P env input c).KeysFresh P) :
    (ratchet P env input c).DeliveryInv P D := by
  obtain ⟨seen, old, hw, hwold, hspent, hnodup⟩ := h
  refine ⟨∅, seen, RecvWindow.holds_new, hw, fun packet hp => ?_, hnodup⟩
  obtain ⟨i, hi, n, t, hmem, htag, hs, -⟩ := hspent packet hp
  refine ⟨i, List.mem_cons_of_mem _ hi, n, t, hmem, htag, fun hkeys => ?_, hs⟩
  have hsecret := congrArg SessionKeys.tagSecret (Option.some.inj hkeys)
  obtain rfl := hfresh.tagSecret input List.mem_cons_self i (List.mem_cons_of_mem _ hi) hsecret
  exact absurd hi (List.nodup_cons.1 (hchain.nodup hfresh)).1

theorem DeliveryInv.change (h : c.DeliveryInv P D) (hchain : c.ChainInv P)
    (hfresh : c'.KeysFresh P) (hD : P.CollisionFree D) (hch : RecvChange P (HitIn P D) c c') :
    c'.DeliveryInv P D := by
  have hold : c.KeysFresh P := hfresh.mono hch.kdfInputs_subset.1 hch.kdfInputs_subset.2
  have hchain' := hchain.change hch
  cases hch with
  | same hview =>
      simp only [recvView, Prod.mk.injEq] at hview
      obtain ⟨-, -, hinputs, hkeys, htrans, -, hw, hwold, -, -, hdecoded⟩ := hview
      exact h.congr hw hwold hinputs hdecoded (Or.inl hkeys) (Or.inl htrans)
  | clear => exact h.congr rfl rfl rfl rfl (Or.inr rfl) (Or.inr rfl)
  -- nothing is decoded before the first connect
  | connect huntouched =>
      simp only [Untouched, recvView, new, Prod.mk.injEq] at huntouched
      obtain ⟨-, -, -, -, -, -, hw, hwold, -, -, hdecoded⟩ := huntouched
      refine ⟨∅, ∅, ?_, ?_, ?_⟩
      · exact hw.symm ▸ RecvWindow.holds_new
      · exact hwold.symm ▸ RecvWindow.holds_new
      · show (∀ packet ∈ c.decoded, _) ∧ c.decoded.Nodup
        rw [hdecoded]
        exact ⟨fun packet hp => absurd hp List.not_mem_nil, List.nodup_nil⟩
  | mdh n => exact h.congr rfl rfl rfl rfl (Or.inl rfl) (Or.inl rfl)
  | expire env =>
      rcases expireTransition_cases env c with hsame | hexpired
      · rw [hsame]
        exact h
      -- the old window goes with its keys, so that nothing is owed to it any more
      · rw [hexpired]
        obtain ⟨seen, old, hw, hwold, hspent, hnodup⟩ := h
        refine ⟨seen, ∅, hw, RecvWindow.holds_new, fun packet hp => ?_, hnodup⟩
        exact (hspent packet hp).mono (List.Subset.refl _) (fun _ _ hk hs => hs hk)
          fun _ _ hk => by cases hk
  | primary env packet hkeys hhit => exact h.primary hchain hold hD env packet hkeys hhit
  | fallback env packet hkeys hhit => exact h.fallback hchain hold hD env packet hkeys hhit
  | ratchet env hkeys => exact h.ratchet env hchain' hfresh

theorem deliveryInv_new (config : Config) (keypair : KeyPair) :
    (new config keypair).DeliveryInv P D :=
  ⟨∅, ∅, RecvWindow.holds_new, RecvWindow.holds_new, nofun, List.nodup_nil⟩

/-- At-most-once delivery: in every run of the client, whatever the network delivers and however
often, no datagram is decoded twice. -/
theorem decoded_nodup_of_run (P : Primitives) (D : Set (Key × Nat × Nat)) (config : Config)
    (keypair : KeyPair) (es : List (ClientEnv × Event)) {c : AivpnClient}
    (hc : c = runFrom (step P) (new config keypair) es) (hD : P.CollisionFree D)
    (hhits : Along (step P) (Searches (HitIn P D)) (new config keypair) es)
    (hfresh : c.KeysFresh P) : c.decoded.Nodup := by
  have hinv := runFrom_of_recvChange (P := P) (H := HitIn P D)
    (fun c c' (h : c.ChainInv P ∧ (c.KeysFresh P → c.DeliveryInv P D)) hch =>
      ⟨h.1.change hch, fun hfresh => (h.2 (hfresh.mono hch.kdfInputs_subset.1
        hch.kdfInputs_subset.2)).change h.1 hfresh hD hch⟩)
    ⟨chainInv_new config keypair, fun _ => deliveryInv_new config keypair⟩ hhits
  rw [← hc] at hinv
  obtain ⟨_, _, -, -, -, hnodup⟩ := hinv.2 hfresh
  exact hnodup

/-! ## A connection with a ServerHello -/

theorem hitIn_smallTriples {secrets : List Key} {tw : Nat} {keys : SessionKeys} {w : RecvWindow}
    (hsecret : keys.tagSecret ∈ secrets) (hw : w.highest < 2 ^ 20) (htw : 0 < tw)
    (htw' : tw < 2 ^ 23) (packet : Bytes) :
    HitIn samplePrimitives (smallTriples secrets) tw keys w packet := by
  intro counter hfind
  obtain ⟨-, t, ht, -⟩ := RecvWindow.searched_of_findCounter hfind
  have hsub := RecvWindow.searched_subset_smallTriples hsecret hw htw htw'
  have hcounter : counter < 2 ^ 24 := (hsub ht).2.1
  refine ⟨by omega, fun t' ht' _ => hsub ?_⟩
  exact ⟨ht.1, ht.2.1, ht.2.2.1, ht'⟩

/-- The ServerHello of a server with the given ephemeral key, under the first keys. -/
def sampleHello (serverEphPub : Key) : Bytes :=
  assemble samplePrimitives 100 ((sampleClient.initialInput samplePrimitives).keys samplePrimitives)
    0 [0, 0, 0, 0] (padPlaintext ((InnerHeader.mk .control 0).encode ++
      (ControlPayload.serverHello serverEphPub default).encode) [])

/-- What the keys behind that ServerHello are derived from. -/
def sampleRatchetInput (serverEphPub : Key) : KdfInput :=
  ⟨samplePrimitives.x25519 sampleClient.keypair.privateKeyBytes serverEphPub,
    some ((sampleClient.initialInput samplePrimitives).sessionKey samplePrimitives),
    sampleClient.keypair.publicKeyBytes⟩

/-- A data packet under the keys behind that ServerHello. -/
def sampleData (serverEphPub : Key) : Bytes :=
  assemble samplePrimitives 100 ((sampleRatchetInput serverEphPub).keys samplePrimitives)
    0 [0, 0, 0, 0] (padPlaintext ((InnerHeader.mk .data 0).encode ++ [0x45]) [])

/-- The client connects, takes the ServerHello and a data packet. -/
def sampleDelivery : List (ClientEnv × Event) :=
  sampleKeepalives 0 ++ [(sampleClientEnv, .receive (sampleHello (ByteArr.replicate 32 9))),
    (sampleClientEnv, .receive (sampleData (ByteArr.replicate 32 9)))]

theorem sampleDelivery_decoded :
    let c := runFrom (step samplePrimitives) sampleClient sampleDelivery
    c.decoded = [sampleData (ByteArr.replicate 32 9), sampleHello (ByteArr.replicate 32 9)] ∧
      c.log.kdfInputs = [sampleRatchetInput (ByteArr.replicate 32 9),
        sampleClient.initialInput samplePrimitives] := by
  decide +kernel

theorem sampleDelivery_keysFresh :
    (runFrom (step samplePrimitives) sampleClient sampleDelivery).KeysFresh samplePrimitives := by
  have hinputs := sampleDelivery_decoded.2
  refine ⟨?_, ?_, ?_⟩
  · rw [hinputs]
    decide +kernel
  · rw [hinputs]
    decide +kernel
  · rw [hinputs]
    decide +kernel

theorem searches_smallTriples {secrets : List Key} {c : AivpnClient} {e : ClientEnv × Event}
    (hkeys : ∀ keys, c.sessionKeys = some keys → keys.tagSecret ∈ secrets)
    (htransition : ∀ keys, c.transitionRecvKeys = some keys → keys.tagSecret ∈ secrets)
    (hw : c.recvWindow.highest < 2 ^ 20) (hwold : c.transitionRecvWindow.highest < 2 ^ 20)
    (htw : 0 < e.1.timeWindow) (htw' : e.1.timeWindow < 2 ^ 23) :
    Searches (HitIn samplePrimitives (smallTriples secrets)) c e := by
  intro packet _ keys
  refine ⟨fun h => hitIn_smallTriples (hkeys keys h) hw htw htw' packet, fun h => ?_⟩
  rcases expireTransition_cases e.1 c with hsame | hexpired
  · rw [hsame] at h
    exact hitIn_smallTriples (htransition keys h) hwold htw htw' packet
  · rw [hexpired] at h
    cases h

/-- The client before the ServerHello. -/
def sampleUploading : AivpnClient :=
  runFrom (step samplePrimitives) sampleClient (sampleKeepalives 0)

/-- The client behind the ServerHello. -/
def sampleGreeted : AivpnClient :=
  step samplePrimitives sampleUploading
    (sampleClientEnv, .receive (sampleHello (ByteArr.replicate 32 9)))

/-- The tag secrets of the sample connection. -/
def sampleSecrets : List Key :=
  [((sampleClient.initialInput samplePrimitives).keys samplePrimitives).tagSecret,
    ((sampleRatchetInput (ByteArr.replicate 32 9)).keys samplePrimitives).tagSecret]

theorem sampleDelivery_searches :
    Along (step samplePrimitives) (Searches (HitIn samplePrimitives (smallTriples sampleSecrets)))
      sampleClient sampleDelivery := by
  -- two secrets are searched in all, and their tags are known to differ
  have huploading : Searches (HitIn samplePrimitives (smallTriples sampleSecrets)) sampleUploading
      (sampleClientEnv, .receive (sampleHello (ByteArr.replicate 32 9))) := by
    apply searches_smallTriples
    · have hkeys : sampleUploading.sessionKeys =
          some ((sampleClient.initialInput samplePrimitives).keys samplePrimitives) := by
        decide +kernel
      intro keys h
      cases hkeys.symm.trans h
      simp [sampleSecrets]
    · have hnone : sampleUploading.transitionRecvKeys = none := by decide +kernel
      intro keys h
      cases hnone.symm.trans h
    all_goals decide +kernel
  have hgreeted : Searches (HitIn samplePrimitives (smallTriples sampleSecrets)) sampleGreeted
      (sampleClientEnv, .receive (sampleData (ByteArr.replicate 32 9))) := by
    apply searches_smallTriples
    · have hkeys : sampleGreeted.sessionKeys =
          some ((sampleRatchetInput (ByteArr.replicate 32 9)).keys samplePrimitives) := by
        decide +kernel
      intro keys h
      cases hkeys.symm.trans h
      simp [sampleSecrets]
    · have hkeys : sampleGreeted.transitionRecvKeys =
          some ((sampleClient.initialInput samplePrimitives).keys samplePrimitives) := by
        decide +kernel
      intro keys h
      cases hkeys.symm.trans h
      simp [sampleSecrets]
    all_goals decide +kernel
  unfold sampleDelivery
  rw [along_append]
  exact ⟨⟨nofun, nofun, nofun, trivial⟩, huploading, hgreeted, trivial⟩

/-- The ServerHello and the data packet of the sample are decoded, each of them once. -/
theorem sampleDelivery_once :
    (runFrom (step samplePrimitives) sampleClient sampleDelivery).decoded.Nodup :=
  decoded_nodup_of_run samplePrimitives _ sampleClient.config sampleClient.keypair sampleDelivery rfl
    (samplePrimitives_collisionFree (by decide +kernel)) sampleDelivery_searches
    sampleDelivery_keysFresh

end AivpnClient

end Aivpn
