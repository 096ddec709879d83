import Aivpn.Client.Acceptance
import Aivpn.Server.NonceReuse

/-!
# Client and gateway over a network

A run of the client beside a run of the gateway. The network may drop, duplicate, reorder and redirect
what the two have sent, and it may deliver anything that opens under no key of the client
(`Network`). With an ideal AEAD and an ideal key derivation (`Ideal`) a datagram that the client
accepts can be traced back to the encryption it carries (`accepts_source`): one of the client's own,
or one that the gateway made for a session whose handshake had the client's ephemeral key.
-/

set_option autoImplicit false

namespace Aivpn

open Aivpn.Lib

/-! ## What the gateway has sent -/

namespace Gateway

variable {P : Primitives} {rng : Randomness} {cfg : GatewayConfig} {e : Env × Event}
  {g g' g'' : Gateway}

/-- A later state of the same gateway. -/
structure Grows (g g' : Gateway) : Prop where
  effects : g.effects ⊆ g'.effects
  established : g.sessionManager.established ⊆ g'.sessionManager.established
  calls : g.sessionManager.encryptCalls ⊆ g'.sessionManager.encryptCalls

/-- What the gateway has sent carries encryptions of the sessions it was sent in. -/
def SendsOwn (P : Primitives) (cfg : GatewayConfig) (g : Gateway) : Prop :=
  ∀ sid packet addr, Effect.send sid packet addr ∈ g.effects →
    g.sessionManager.Carries P cfg sid packet

theorem Grows.refl (g : Gateway) : Grows g g :=
  ⟨List.Subset.refl _, List.Subset.refl _, List.Subset.refl _⟩

theorem Grows.trans (h : Grows g g') (h' : Grows g' g'') : Grows g g'' :=
  ⟨List.Subset.trans h.effects h'.effects, List.Subset.trans h.established h'.established,
    List.Subset.trans h.calls h'.calls⟩

theorem SendsOwn.grows (h : g.SendsOwn P cfg) (hgrows : Grows g g')
    (heffects : g'.effects = g.effects) : g'.SendsOwn P cfg := by
  intro sid packet addr hmem
  rw [heffects] at hmem
  obtain ⟨call, hcall, hrest⟩ := h sid packet addr hmem
  exact ⟨call, hgrows.calls hcall, hrest⟩

theorem Change.grows (h : Change P rng cfg e g g') :
    Grows g g' ∧ (g.SendsOwn P cfg → g'.SendsOwn P cfg) := by
  cases h with
  | @manager m hm =>
      have hgrows : Grows g { g with sessionManager := m } := by
        rcases hm.records_cases with ⟨hsame, -⟩ | ⟨sid, inner, padding, mdh, -, -, -, rfl⟩
        · simp only [SessionManager.records, Prod.mk.injEq] at hsame
          exact ⟨List.Subset.refl _, hsame.2.1 ▸ List.Subset.refl _,
            hsame.2.2 ▸ List.Subset.refl _⟩
        · exact ⟨List.Subset.refl _, List.Subset.refl _, List.subset_cons_self _ _⟩
      exact ⟨hgrows, fun hsends => hsends.grows hgrows rfl⟩
  | @emit effect hcarries =>
      refine ⟨⟨List.subset_cons_self _ _, List.Subset.refl _, List.Subset.refl _⟩, ?_⟩
      intro hsends sid packet addr hmem
      rcases List.mem_cons.1 hmem with heq | hold
      · exact hcarries sid packet addr heq.symm
      · exact hsends sid packet addr hold
  | cooldowns f =>
      exact ⟨⟨List.Subset.refl _, List.Subset.refl _, List.Subset.refl _⟩, fun hsends => hsends⟩
  | clients hreload =>
      exact ⟨⟨List.Subset.refl _, List.Subset.refl _, List.Subset.refl _⟩, fun hsends => hsends⟩

theorem Changes.grows (h : Changes P rng cfg e g g') :
    Grows g g' ∧ (g.SendsOwn P cfg → g'.SendsOwn P cfg) := by
  induction h with
  | refl => exact ⟨Grows.refl g, fun hsends => hsends⟩
  | tail _ hlast ih =>
      exact ⟨ih.1.trans hlast.grows.1, fun hsends => hlast.grows.2 (ih.2 hsends)⟩

theorem step_grows (P : Primitives) (rng : Randomness) (cfg : GatewayConfig) (g : Gateway)
    (e : Env × Event) :
    Grows g (step P rng cfg g e) ∧ (g.SendsOwn P cfg → (step P rng cfg g e).SendsOwn P cfg) := by
  have hcases := step_cases P rng cfg e g
  revert hcases
  rcases opened P rng g e with _ | ⟨ephPub, psk⟩
  · exact fun h => Changes.grows h
  · rintro ⟨g₀, g₁, h₀, ⟨m, hopen, rfl⟩, h₁⟩
    have hrec := hopen.records
    simp only [SessionManager.records, Prod.mk.injEq] at hrec
    -- the opening of the session adds its record
    have hgrows : Grows g₀ { g₀ with sessionManager := m } := by
      refine ⟨List.Subset.refl _, ?_, ?_⟩
      · exact fun _ hold => hrec.2.1.symm ▸ List.mem_cons_of_mem _ hold
      · exact fun _ hold => hrec.2.2.symm ▸ hold
    refine ⟨h₀.grows.1.trans (hgrows.trans h₁.grows.1), fun hsends => ?_⟩
    exact h₁.grows.2 ((h₀.grows.2 hsends).grows hgrows rfl)

end Gateway

/-! ## The two parties -/

namespace Tunnel

/-- The client and the gateway. -/
abbrev World := AivpnClient × Gateway

/-- A step of one of them. -/
abbrev Event := (ClientEnv × AivpnClient.Event) ⊕ (Env × Gateway.Event)

/-- Client and gateway take their steps in any order. -/
def step (P : Primitives) (rng : Randomness) (cfg : GatewayConfig) : World → Event → World :=
  beside (AivpnClient.step P) (Gateway.step P rng cfg)

/-- Both at their start. -/
def start (config : AivpnClient.Config) (keypair serverKeys : KeyPair) (signingKey : Key)
    (clientDb : Option (List ClientConfig)) : World :=
  (AivpnClient.new config keypair, Gateway.new serverKeys signingKey clientDb)

/-- One of the two has sent the datagram. -/
def Sent (w : World) (packet : Bytes) : Prop :=
  packet ∈ w.1.sent ∨ ∃ sid addr, Effect.send sid packet addr ∈ w.2.effects

/-- The datagram opens under no key of the client, at no place: someone else's, or noise. -/
def Foreign (P : Primitives) (c : AivpnClient) (packet : Bytes) : Prop :=
  ∀ keys, c.sessionKeys = some keys ∨ c.transitionRecvKeys = some keys →
    ∀ nonce off, P.decrypt keys.sessionKey nonce (packet.drop off) = none

/-- What the network delivers to the client was sent by one of the two, or is foreign to it. -/
def Network (P : Primitives) (w : World) (e : Event) : Prop :=
  ∀ env packet, e = .inl (env, .receive packet) → Sent w packet ∨ Foreign P w.1 packet

/-- The ciphertext at the end of a datagram opens under its own key and nonce only, at its own place
only, and gives its own plaintext. The keys are those in `K`. -/
def OpensOnly (P : Primitives) (K : Set Key) (packet : Bytes) : Prop :=
  ∀ front key nonce plaintext, key ∈ K → packet = front ++ P.encrypt key nonce plaintext →
    ∀ key' ∈ K, ∀ nonce' off padded, P.decrypt key' nonce' (packet.drop off) = some padded →
      key' = key ∧ nonce' = nonce ∧ off = front.length ∧ padded = plaintext

section

variable (P : Primitives) (rng : Randomness) (serverKeys : KeyPair)

/-- The session keys of the client and of the gateway's sessions. -/
def sessionKeys (w : World) : Set Key :=
  { key | key ∈ w.1.log.keyHistory P ∨
    ∃ e ∈ w.2.sessionManager.established, ∃ r, key = e.key P rng serverKeys r }

/-- The AEAD is ideal for what the two have sent, and a key that the client and a session have both
derived comes from one input. -/
structure Ideal (w : World) : Prop where
  aead : ∀ packet, Sent w packet → OpensOnly P (sessionKeys P rng serverKeys w) packet
  kdf : ∀ i ∈ w.1.log.kdfInputs, ∀ e ∈ w.2.sessionManager.established, ∀ r,
    i.sessionKey P = e.key P rng serverKeys r → i = e.kdfInput P rng serverKeys r

/-- What holds of the two in every run. -/
structure Inv (cfg : GatewayConfig) (keypair : KeyPair) (w : World) : Prop where
  wire : w.1.WireInv P
  send : w.1.SendInv P
  chain : w.1.ChainInv P
  untouched : w.1.stage = .start → w.1.Untouched
  owner : w.1.keypair = keypair
  ephPub : ∀ i ∈ w.1.log.kdfInputs, i.ephPub = keypair.publicKeyBytes
  ledger : w.2.sessionManager.Ledger P rng serverKeys
  sends : w.2.SendsOwn P cfg

end

variable {P : Primitives} {rng : Randomness} {cfg : GatewayConfig} {keypair serverKeys : KeyPair}
  {w w' : World}

theorem Ideal.mono (h : Ideal P rng serverKeys w') (hsent : w.1.sent ⊆ w'.1.sent)
    (hinputs : w.1.log.kdfInputs ⊆ w'.1.log.kdfInputs) (hgrows : Gateway.Grows w.2 w'.2) :
    Ideal P rng serverKeys w where
  aead := by
    have hkeys : sessionKeys P rng serverKeys w ⊆ sessionKeys P rng serverKeys w' := by
      rintro key (hkey | ⟨e, he, hkey⟩)
      · exact Or.inl (List.map_subset _ hinputs hkey)
      · exact Or.inr ⟨e, hgrows.established he, hkey⟩
    intro packet hpacket front key nonce plaintext hkey heq key' hkey'
    have hpacket' : Sent w' packet :=
      hpacket.imp (fun hown => hsent hown)
        fun ⟨sid, addr, heffect⟩ => ⟨sid, addr, hgrows.effects heffect⟩
    exact h.aead packet hpacket' front key nonce plaintext (hkeys hkey) heq key' (hkeys hkey')
  kdf := fun i hi e he => h.kdf i (hinputs hi) e (hgrows.established he)

/-! ## One step -/

/-- What a step adds to the world. -/
structure Extends (P : Primitives) (rng : Randomness) (cfg : GatewayConfig)
    (keypair serverKeys : KeyPair) (w w' : World) : Prop where
  inv : Inv P rng serverKeys cfg keypair w'
  client : w.1.Extends P w'.1
  inputs : w.1.log.kdfInputs ⊆ w'.1.log.kdfInputs
  grows : Gateway.Grows w.2 w'.2

theorem Inv.client_step (h : Inv P rng serverKeys cfg keypair w)
    (e : ClientEnv × AivpnClient.Event) :
    Extends P rng cfg keypair serverKeys w (AivpnClient.step P w.1 e, w.2) := by
  obtain ⟨c, g⟩ := w
  have hwire := h.wire.step e
  obtain ⟨hkeypair, hinputs⟩ := AivpnClient.step_inputs (P := P) e h.untouched
  -- every input has the client's ephemeral key
  have heph : ∀ i ∈ (AivpnClient.step P c e).log.kdfInputs, i.ephPub = keypair.publicKeyBytes := by
    intro i hi
    rcases hinputs with hsame | ⟨j, hj, hadded⟩
    · exact h.ephPub i (hsame ▸ hi)
    · rw [hadded] at hi
      rcases List.mem_cons.1 hi with rfl | hold
      · exact hj.trans (congrArg KeyPair.publicKeyBytes h.owner)
      · exact h.ephPub i hold
  have hsub : c.log.kdfInputs ⊆ (AivpnClient.step P c e).log.kdfInputs := by
    rcases hinputs with hsame | ⟨j, -, hadded⟩
    · exact hsame ▸ List.Subset.refl _
    · exact hadded ▸ List.subset_cons_self _ _
  exact {
    inv := {
      wire := hwire.inv
      send := h.send.step e
      chain := h.chain.step e h.untouched
      untouched := AivpnClient.untouched_of_step h.untouched
      owner := hkeypair.trans h.owner
      ephPub := heph
      ledger := h.ledger
      sends := h.sends }
    client := hwire
    inputs := hsub
    grows := Gateway.Grows.refl g }

theorem Inv.gateway_step (h : Inv P rng serverKeys cfg keypair w) (e : Env × Gateway.Event) :
    Extends P rng cfg keypair serverKeys w (w.1, Gateway.step P rng cfg w.2 e) := by
  obtain ⟨hgrows, hsends⟩ := Gateway.step_grows P rng cfg w.2 e
  exact {
    inv := { h with
      ledger := Gateway.step_of_change P rng cfg h.ledger (fun _ _ hm hch => hm.change hch)
        fun _ _ _ _ hm hopen => hm.opens hopen
      sends := hsends h.sends }
    client := h.wire.extends
    inputs := List.Subset.refl _
    grows := hgrows }

theorem Inv.step (h : Inv P rng serverKeys cfg keypair w) (e : Event) :
    Extends P rng cfg keypair serverKeys w (step P rng cfg w e) := by
  cases e with
  | inl e => exact h.client_step e
  | inr e => exact h.gateway_step e

theorem inv_start (config : AivpnClient.Config) (signingKey : Key)
    (clientDb : Option (List ClientConfig)) :
    Inv P rng serverKeys cfg keypair (start config keypair serverKeys signingKey clientDb) where
  wire := AivpnClient.wireInv_new config keypair
  send := AivpnClient.sendInv_new config keypair
  chain := AivpnClient.chainInv_new config keypair
  untouched := fun _ => rfl
  owner := rfl
  ephPub := nofun
  ledger := ledger_of_run P rng cfg serverKeys signingKey clientDb []
  sends := nofun

/-- A run that ends in an ideal world has gone through ideal worlds. -/
theorem along_ideal {config : AivpnClient.Config} {signingKey : Key}
    {clientDb : Option (List ClientConfig)} {es : List Event}
    (hideal : Ideal P rng serverKeys (runFrom (Tunnel.step P rng cfg)
      (start config keypair serverKeys signingKey clientDb) es)) :
    Along (Tunnel.step P rng cfg)
      (fun w e => Ideal P rng serverKeys w ∧ Ideal P rng serverKeys (Tunnel.step P rng cfg w e))
      (start config keypair serverKeys signingKey clientDb) es := by
  refine (along_of_final (fun w e (hw : Inv P rng serverKeys cfg keypair w) => (hw.step e).inv) ?_
    (inv_start config signingKey clientDb) hideal).2
  intro w e hw hlater
  have hext := hw.step e
  exact hlater.mono hext.client.sent hext.inputs hext.grows

/-! ## Where an accepted datagram comes from -/

/-- The datagram is one of the client's own, behind a header as long as the client expects it. -/
def FromClient (P : Primitives) (w : World) (packet : Bytes) (call : ClientCall) : Prop :=
  packet ∈ w.1.sent ∧ call ∈ w.1.log.calls ∧ ∃ (tag : Tag) (header : Bytes),
    header.length = w.1.config.initialMask.headerTemplate.length ∧
    packet = tag.toList ++ header ++ P.encrypt call.key call.nonce call.plaintext

/-- The gateway has made the datagram for the session `e`, and has sent it. -/
def FromServer (P : Primitives) (w : World) (packet : Bytes) (e : Established)
    (call : EncryptCall) : Prop :=
  e ∈ w.2.sessionManager.established ∧ call ∈ w.2.sessionManager.encryptCalls ∧
    call.sessionId = e.sessionId ∧ (∃ (tag : Tag) (header : Bytes),
      packet = tag.toList ++ header ++ P.encrypt call.key call.nonce call.plaintext) ∧
    ∃ addr, Effect.send e.sessionId packet addr ∈ w.2.effects

theorem FromClient.mono {packet : Bytes} {call : ClientCall} (h : FromClient P w packet call)
    (hext : w.1.Extends P w'.1) : FromClient P w' packet call := by
  obtain ⟨hsent, hcall, hpacket⟩ := h
  refine ⟨hext.sent hsent, hext.calls hcall, ?_⟩
  rw [hext.config]
  exact hpacket

theorem FromServer.mono {packet : Bytes} {e : Established} {call : EncryptCall}
    (h : FromServer P w packet e call) (hgrows : Gateway.Grows w.2 w'.2) :
    FromServer P w' packet e call := by
  obtain ⟨he, hcall, hid, hpacket, addr, heffect⟩ := h
  exact ⟨hgrows.established he, hgrows.calls hcall, hid, hpacket, addr, hgrows.effects heffect⟩

/-- A key of the client is derived from one of its inputs. -/
theorem Inv.exists_input (h : Inv P rng serverKeys cfg keypair w) {keys : SessionKeys}
    (hkeys : w.1.sessionKeys = some keys ∨ w.1.transitionRecvKeys = some keys) :
    ∃ i ∈ w.1.log.kdfInputs, i.keys P = keys := by
  rcases hkeys with hkeys | hkeys
  · obtain ⟨i, hi, heq⟩ := Option.map_eq_some_iff.1 (h.chain.current keys hkeys)
    exact ⟨i, List.mem_of_mem_head? hi, heq⟩
  · obtain ⟨i, hi, heq⟩ := Option.map_eq_some_iff.1 (h.chain.transition keys hkeys)
    exact ⟨i, List.mem_of_mem_tail (List.mem_of_mem_head? hi), heq⟩

/-- What the client accepts is an encryption of its own, or one that the gateway made in a session
with the client's ephemeral key, under a key that both have. -/
theorem accepts_source (h : Inv P rng serverKeys cfg keypair w) (hideal : Ideal P rng serverKeys w)
    {packet : Bytes} (hnet : Sent w packet ∨ Foreign P w.1 packet) (hstage : w.1.stage = .running)
    {decoded : DecodedPacket} (haccept : w.1.Accepts P packet decoded) :
    ∃ keys n, (w.1.sessionKeys = some keys ∨ w.1.transitionRecvKeys = some keys) ∧
      ((∃ call, FromClient P w packet call ∧ decodePadded n call.plaintext = .ok decoded) ∨
      ∃ e call, FromServer P w packet e call ∧ e.ephPub = keypair.publicKeyBytes ∧
        keys.sessionKey = call.key ∧ decodePadded n call.plaintext = .ok decoded) := by
  obtain ⟨keys, hkeys, n, padded, hdec, hpadded⟩ := haccept
  refine ⟨keys, n, hkeys, ?_⟩
  obtain ⟨i, hi, rfl⟩ := h.exists_input hkeys
  have hkey : (i.keys P).sessionKey ∈ sessionKeys P rng serverKeys w :=
    Or.inl (List.mem_map_of_mem hi)
  rcases hnet with hsent | hforeign
  · have honly := hideal.aead packet hsent
    rcases hsent with hown | ⟨sid, addr, heffect⟩
    · -- one of the client's own
      obtain ⟨ephPub, call, hcall, tag, header, -, hpacket⟩ := h.wire.sent packet hown
      obtain ⟨m, horder⟩ := h.send.ordered
      have hcallKey : call.key ∈ sessionKeys P rng serverKeys w :=
        Or.inl (horder.key_mem (call.key, call.nonce) (List.mem_map_of_mem hcall))
      obtain ⟨-, -, hoff, rfl⟩ :=
        honly (tag.toList ++ header) call.key call.nonce call.plaintext hcallKey hpacket _ hkey _ _ _
          hdec
      have hlen : header.length = w.1.config.initialMask.headerTemplate.length := by
        rw [(h.wire.running hstage).2, List.length_append, tag.length_toList] at hoff
        unfold tagSize at hoff
        omega
      exact Or.inl ⟨call, ⟨hown, hcall, tag, header, hlen, hpacket⟩, hpadded⟩
    · -- one of the gateway's
      obtain ⟨call, hcall, hsid, tag, header, -, hpacket⟩ := h.sends sid packet addr heffect
      obtain ⟨e, he, hid, inner, padding, hinner, -⟩ := h.ledger.calls call hcall
      obtain ⟨r, hr⟩ := hinner.key_eq
      obtain ⟨hsame, -, -, rfl⟩ := honly (tag.toList ++ header) call.key call.nonce call.plaintext
        (Or.inr ⟨e, he, r, hr⟩) hpacket _ hkey _ _ _ hdec
      have hinput := hideal.kdf i hi e he r (hsame.trans hr)
      have heph : e.ephPub = keypair.publicKeyBytes := by
        rw [← h.ephPub i hi, hinput]
        cases r <;> rfl
      refine Or.inr ⟨e, call, ⟨he, hcall, hid.symm, ⟨tag, header, hpacket⟩, addr, ?_⟩, heph, hsame,
        hpadded⟩
      rwa [hid, hsid]
  · exact absurd (hforeign _ hkeys _ _) (by rw [hdec]; simp)

end Tunnel

end Aivpn
