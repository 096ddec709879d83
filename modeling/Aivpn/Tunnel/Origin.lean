import Aivpn.Tunnel.Network
import Aivpn.Common.DeliverySpec

/-!
# The origin of what the client accepts

Nothing in a tag, a nonce or a header tells the two directions apart, so a datagram of the client's
own that comes back to it looks like one from the server, as long as its header has the length that
the client expects. That is the only exception: everything else that the client accepts was made by
the gateway, for a session whose handshake had the client's ephemeral key (`decoded_origin`).
-/

set_option autoImplicit false

namespace Aivpn

open Aivpn.Lib

namespace Tunnel

/-- The gateway has made the datagram for a session with this ephemeral key. -/
def MadeByServer (P : Primitives) (w : World) (ephPub : Key) (packet : Bytes) : Prop :=
  ∃ e call, FromServer P w packet e call ∧ e.ephPub = ephPub

/-- The client has sent the datagram, and only with a header as long as its mask's template. -/
def Reflected (P : Primitives) (c : AivpnClient) (packet : Bytes) : Prop :=
  packet ∈ c.sent ∧ ∀ call ∈ c.log.calls, ∀ (tag : Tag) (header : Bytes),
    packet = tag.toList ++ header ++ P.encrypt call.key call.nonce call.plaintext →
    header.length = c.config.initialMask.headerTemplate.length

variable {P : Primitives} {rng : Randomness} {cfg : GatewayConfig} {keypair serverKeys : KeyPair}
  {w : World}

/-- What the client has decoded comes from the gateway or from itself. -/
def Traced (P : Primitives) (ephPub : Key) (w : World) : Prop :=
  ∀ packet ∈ w.1.decoded, MadeByServer P w ephPub packet ∨ ∃ call, FromClient P w packet call

theorem Traced.mono {w' : World} (h : Traced P keypair.publicKeyBytes w)
    (hext : Extends P rng cfg keypair serverKeys w w') {packet : Bytes}
    (hmem : packet ∈ w.1.decoded) :
    MadeByServer P w' keypair.publicKeyBytes packet ∨ ∃ call, FromClient P w' packet call := by
  rcases h packet hmem with ⟨e, call, hserver, heph⟩ | ⟨call, hclient⟩
  · exact Or.inl ⟨e, call, hserver.mono hext.grows, heph⟩
  · exact Or.inr ⟨call, hclient.mono hext.client⟩

/-- A step keeps the trace: only a received datagram is decoded, and its source is known. -/
theorem Traced.step (h : Traced P keypair.publicKeyBytes w) {e : Event}
    (hinv : Inv P rng serverKeys cfg keypair w) (hideal : Ideal P rng serverKeys w)
    (hnet : Network P w e) : Traced P keypair.publicKeyBytes (step P rng cfg w e) := by
  have hext := hinv.step e
  intro packet hmem
  rcases e with ⟨env, event⟩ | e
  -- only a packet that is received can be decoded
  · have hother : (∀ packet', event ≠ .receive packet') →
        packet ∈ w.1.decoded := by
      intro hevent
      have hlist := (AivpnClient.step_other (P := P) (e := (env, event)) hinv.untouched hevent).1
      exact hlist ▸ hmem
    cases event with
    | receive packet' =>
        rcases @AivpnClient.step_receive P env w.1 _ packet' rfl with
          ⟨-, hlist⟩ | ⟨hstage, decoded, haccept, hlist, -⟩
        · exact h.mono hext (hlist ▸ hmem)
        · have hmem' : packet ∈ packet' :: w.1.decoded := hlist ▸ hmem
          rcases List.mem_cons.1 hmem' with rfl | hold
          · obtain ⟨keys, n, -, hsource⟩ := accepts_source hinv hideal (hnet env packet rfl) hstage
              haccept
            rcases hsource with ⟨call, hclient, -⟩ | ⟨e, call, hserver, heph, -⟩
            · exact Or.inr ⟨call, hclient.mono hext.client⟩
            · exact Or.inl ⟨e, call, hserver.mono hext.grows, heph⟩
          · exact h.mono hext hold
    | _ => exact h.mono hext (hother nofun)
  · exact h.mono hext hmem

/-- The place of a ciphertext is where it was put. -/
theorem FromClient.reflected {packet : Bytes} {call : ClientCall}
    (h : FromClient P w packet call) (hinv : Inv P rng serverKeys cfg keypair w)
    (hideal : Ideal P rng serverKeys w) (hsound : ∀ key, SoundAead P key) :
    Reflected P w.1 packet := by
  obtain ⟨hsent, hcall, tag, header, hlen, hpacket⟩ := h
  obtain ⟨n, horder⟩ := hinv.send.ordered
  have hkey : ∀ call ∈ w.1.log.calls, call.key ∈ sessionKeys P rng serverKeys w := fun call hmem =>
    Or.inl (horder.key_mem (call.key, call.nonce) (List.mem_map_of_mem hmem))
  refine ⟨hsent, fun call' hcall' tag' header' hpacket' => ?_⟩
  have hopens : P.decrypt call.key call.nonce (packet.drop (tag.toList ++ header).length) =
      some call.plaintext := by
    rw [hpacket, List.drop_left]
    exact (hsound call.key).opens call.nonce call.plaintext
  obtain ⟨-, -, hoff, -⟩ := hideal.aead packet (Or.inl hsent) (tag'.toList ++ header') call'.key
    call'.nonce call'.plaintext (hkey call' hcall') hpacket' call.key (hkey call hcall) _ _ _ hopens
  rw [List.length_append, List.length_append, tag.length_toList, tag'.length_toList] at hoff
  omega

/-- In every run of client and gateway, whatever the network does with what they have sent: what the
client accepts was made by the gateway for a session with the client's ephemeral key, or it is one of
the client's own datagrams with a header as long as the client expects. -/
theorem decoded_origin (P : Primitives) (rng : Randomness) (cfg : GatewayConfig)
    (config : AivpnClient.Config) (keypair serverKeys : KeyPair) (signingKey : Key)
    (clientDb : Option (List ClientConfig)) (es : List Event) {w : World}
    (hw : w = runFrom (step P rng cfg) (start config keypair serverKeys signingKey clientDb) es)
    (hnet : Along (step P rng cfg) (Network P)
      (start config keypair serverKeys signingKey clientDb) es)
    (hideal : Ideal P rng serverKeys w) (hsound : ∀ key, SoundAead P key) :
    ∀ packet ∈ w.1.decoded,
      MadeByServer P w keypair.publicKeyBytes packet ∨ Reflected P w.1 packet := by
  subst hw
  have hkeep : ∀ w e, Inv P rng serverKeys cfg keypair w ∧ Traced P keypair.publicKeyBytes w →
      Network P w e ∧ Ideal P rng serverKeys w ∧ Ideal P rng serverKeys (step P rng cfg w e) →
      Inv P rng serverKeys cfg keypair (step P rng cfg w e) ∧
        Traced P keypair.publicKeyBytes (step P rng cfg w e) := by
    rintro w e ⟨hinv, htraced⟩ ⟨hnetwork, hnow, -⟩
    exact ⟨(hinv.step e).inv, htraced.step hinv hnow hnetwork⟩
  obtain ⟨hinv, htraced⟩ := runFrom_invariant_of_along hkeep
    ⟨inv_start config signingKey clientDb, nofun⟩ (along_and.2 ⟨hnet, along_ideal hideal⟩)
  intro packet hmem
  rcases htraced packet hmem with hserver | ⟨call, hclient⟩
  · exact Or.inl hserver
  · exact Or.inr (hclient.reflected hinv hideal hsound)

/-! ## Two runs -/

/-- The sample AEAD marks key, nonce and length, so that a short datagram opens in one way only. -/
theorem samplePrimitives_opensOnly {K : Set Key}
    (hK : ∀ k ∈ K, ∀ k' ∈ K, k.toList.take 2 = k'.toList.take 2 → k = k') {packet : Bytes}
    (hlen : packet.length < 65536) : OpensOnly samplePrimitives K packet := by
  intro front key nonce plaintext hkey heq key' hkey' nonce' off padded hdec
  have hseal : packet = front ++ plaintext ++
      (key.toList.take 2 ++ leBytes 2 plaintext.length ++ nonce.toList) := by
    rw [heq, List.append_assoc]
    rfl
  have hsize : packet.length = front.length + plaintext.length + 16 := by
    rw [hseal]
    simp [Nat.add_assoc]
  have hlast : packet.drop (packet.length - 16) =
      key.toList.take 2 ++ leBytes 2 plaintext.length ++ nonce.toList := by
    rw [hsize, hseal, Nat.add_sub_cancel]
    exact List.drop_left' (List.length_append)
  have hopen : (packet.drop off).drop ((packet.drop off).length - 16) =
      key'.toList.take 2 ++ leBytes 2 ((packet.drop off).length - 16) ++ nonce'.toList ∧
      (packet.drop off).take ((packet.drop off).length - 16) = padded := by
    simp only [samplePrimitives] at hdec
    split_ifs at hdec with hmark
    exact ⟨hmark, Option.some.inj hdec⟩
  obtain ⟨hmark, hpadded⟩ := hopen
  have hlong : off + 16 ≤ packet.length := by
    have hcount := congrArg List.length hmark
    simp only [List.length_drop, List.length_append, List.length_take, ByteArr.length_toList,
      length_leBytes] at hcount
    omega
  rw [List.drop_drop, List.length_drop,
    show off + (packet.length - off - 16) = packet.length - 16 by omega, hlast] at hmark
  obtain ⟨hfront, hnonce⟩ := List.append_inj' hmark (by simp)
  obtain ⟨hkeys, hlength⟩ := List.append_inj' hfront (by simp)
  have hplace : plaintext.length = packet.length - off - 16 :=
    leBytes_inj (by omega) (by omega) hlength
  have hoff : off = front.length := by omega
  refine ⟨(hK key hkey key' hkey' hkeys).symm, (ByteArr.ext hnonce).symm, hoff, ?_⟩
  have hrest : packet.drop off = plaintext ++
      (key.toList.take 2 ++ leBytes 2 plaintext.length ++ nonce.toList) := by
    rw [hoff, hseal, List.append_assoc, List.drop_left]
  rw [← hpadded, List.length_drop, ← hplace, hrest, List.take_left]

/-- The sample client and the sample gateway at their start. -/
def sampleStart : World :=
  start (AivpnClient.sampleClientConfig sampleServerKeys.publicKeyBytes none) sampleClientKeys
    sampleServerKeys default none

/-- A run of the two. -/
def sampleRun (es : List Event) : World :=
  runFrom (step samplePrimitives sampleRandomness sampleConfig) sampleStart es

/-- The client connects and starts its upload task. -/
def sampleUp : List Event :=
  [.inl (AivpnClient.sampleClientEnv, .connect), .inl (AivpnClient.sampleClientEnv, .sendInit),
    .inl (AivpnClient.sampleClientEnv, .startUpload)]

/-- What the gateway has sent, newest first. -/
def sampleSends (g : Gateway) : List Bytes :=
  g.effects.filterMap fun
    | .send _ packet _ => some packet
    | _ => none

/-- The client sends a keepalive, and the network sends it back. -/
def sampleEcho : List Event :=
  let es := sampleUp ++ [.inl (AivpnClient.sampleClientEnv, .keepalive)]
  es ++ (sampleRun es).1.sent.head?.toList.map fun packet =>
    .inl (AivpnClient.sampleClientEnv, .receive packet)

/-- The gateway gets the init, and the client its ServerHello. -/
def sampleGreeting : List Event :=
  let es := sampleUp ++ (sampleRun sampleUp).1.sent.head?.toList.map fun packet =>
    .inr (sampleEnv 100, .packet packet sampleAddr)
  es ++ (sampleSends (sampleRun es).2).head?.toList.map fun packet =>
    .inl (AivpnClient.sampleClientEnv, .receive packet)

/-- The network hands on what one of the two has sent. -/
def handsOn (w : World) : Event → Bool
  | .inl (_, .receive packet) => (w.1.sent ++ sampleSends w.2).contains packet
  | _ => true

theorem network_of_handsOn {e : Event} (h : handsOn w e = true) : Network P w e := by
  rintro env packet rfl
  left
  have hmem : packet ∈ w.1.sent ++ sampleSends w.2 := List.contains_iff_mem.1 h
  rcases List.mem_append.1 hmem with hown | hserver
  · exact Or.inl hown
  · obtain ⟨effect, heffect, hpacket⟩ := List.mem_filterMap.1 hserver
    cases effect with
    | send sid sent addr =>
        cases hpacket
        exact Or.inr ⟨sid, addr, heffect⟩
    | _ => cases hpacket

theorem sample_network {es : List Event}
    (h : Along (step samplePrimitives sampleRandomness sampleConfig)
      (fun w e => handsOn w e = true) sampleStart es) :
    Along (step samplePrimitives sampleRandomness sampleConfig) (Network samplePrimitives)
      sampleStart es :=
  @Along.imp_of_invariant World Event _ (fun _ => True) _ _ (fun _ _ _ _ => trivial)
    (fun _ _ _ he => network_of_handsOn he) _ _ trivial h

theorem sample_ideal {es : List Event} {keys : List Key}
    (hkeys : (keys.map fun k => k.toList.take 2).Nodup)
    (hclient : ∀ k ∈ (sampleRun es).1.log.keyHistory samplePrimitives, k ∈ keys)
    (hserver : ∀ e ∈ (sampleRun es).2.sessionManager.established, ∀ r,
      e.key samplePrimitives sampleRandomness sampleServerKeys r ∈ keys)
    (hown : ∀ packet ∈ (sampleRun es).1.sent, packet.length < 65536)
    (hsends : ∀ packet ∈ sampleSends (sampleRun es).2, packet.length < 65536)
    (hkdf : ∀ i ∈ (sampleRun es).1.log.kdfInputs,
      ∀ e ∈ (sampleRun es).2.sessionManager.established, ∀ r, i.sessionKey samplePrimitives =
        e.key samplePrimitives sampleRandomness sampleServerKeys r →
        i = e.kdfInput samplePrimitives sampleRandomness sampleServerKeys r) :
    Ideal samplePrimitives sampleRandomness sampleServerKeys (sampleRun es) where
  aead := by
    have hsub : ∀ k ∈ sessionKeys samplePrimitives sampleRandomness sampleServerKeys (sampleRun es),
        k ∈ keys := by
      rintro k (hk | ⟨e, he, r, rfl⟩)
      · exact hclient k hk
      · exact hserver e he r
    intro packet hpacket
    refine samplePrimitives_opensOnly (fun k hk k' hk' heq => ?_) ?_
    · exact List.inj_on_of_nodup_map hkeys (hsub k hk) (hsub k' hk') heq
    · rcases hpacket with h | ⟨sid, addr, h⟩
      · exact hown packet h
      · exact hsends packet (List.mem_filterMap.2 ⟨_, h, rfl⟩)
  kdf := hkdf

/-- A keepalive of the client that comes back is accepted, and there is no session it could be
from. -/
theorem keepalive_reflected :
    Along (step samplePrimitives sampleRandomness sampleConfig) (Network samplePrimitives)
      sampleStart sampleEcho ∧
    Ideal samplePrimitives sampleRandomness sampleServerKeys (sampleRun sampleEcho) ∧
    ∃ packet ∈ (sampleRun sampleEcho).1.decoded,
      ¬ MadeByServer samplePrimitives (sampleRun sampleEcho) sampleClientKeys.publicKeyBytes
        packet := by
  refine ⟨sample_network (by decide +kernel), ?_, ?_⟩
  · exact @sample_ideal sampleEcho [(sampleInitialKeys none).sessionKey] (by decide +kernel)
      (by decide +kernel) (by decide +kernel) (by decide +kernel) (by decide +kernel)
      (by decide +kernel)
  · have hnone : (sampleRun sampleEcho).2.sessionManager.established = [] := by decide +kernel
    have hsome : (sampleRun sampleEcho).1.decoded ≠ [] := by decide +kernel
    obtain ⟨packet, hmem⟩ := List.exists_mem_of_ne_nil _ hsome
    refine ⟨packet, hmem, ?_⟩
    rintro ⟨e, call, ⟨he, -⟩, -⟩
    rw [hnone] at he
    cases he

/-- The ServerHello of the sample gateway is accepted too, and it has the other origin. -/
theorem greeting_origin :
    ∃ packet ∈ (sampleRun sampleGreeting).1.decoded,
      MadeByServer samplePrimitives (sampleRun sampleGreeting) sampleClientKeys.publicKeyBytes
        packet := by
  have hideal := @sample_ideal sampleGreeting [(sampleInitialKeys none).sessionKey,
    (sampleRatchetedKeys none 0).sessionKey] (by decide +kernel) (by decide +kernel)
    (by decide +kernel) (by decide +kernel) (by decide +kernel) (by decide +kernel)
  have horigin := decoded_origin samplePrimitives sampleRandomness sampleConfig
    (AivpnClient.sampleClientConfig sampleServerKeys.publicKeyBytes none) sampleClientKeys
    sampleServerKeys default none sampleGreeting rfl (sample_network (by decide +kernel)) hideal
    samplePrimitives_soundAead
  have hother : ∃ packet ∈ (sampleRun sampleGreeting).1.decoded,
      packet ∉ (sampleRun sampleGreeting).1.sent := by decide +kernel
  obtain ⟨packet, hmem, hnot⟩ := hother
  refine ⟨packet, hmem, ?_⟩
  rcases horigin packet hmem with hserver | ⟨hsent, -⟩
  · exact hserver
  · exact absurd hsent hnot

end Tunnel

end Aivpn
