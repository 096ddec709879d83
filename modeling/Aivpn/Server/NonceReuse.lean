import Aivpn.Server.Ledger
import Aivpn.Server.LateInit

/-!
# Nonces across sessions

The send counter of a session starts at zero with every session and with every ratchet, so the
server never repeats a pair of key and nonce only if no two sessions have a key in common. The
initial keys of a session depend on the client's key and PSK alone: a late copy of an init datagram
that opens a second session brings back the keys of the first one, and the two ServerHellos go out
under one nonce (`lateInit_reuses_nonce`). Without such copies all pairs are distinct
(`nonceFresh_of_freshHandshakes`).
-/

set_option autoImplicit false

namespace Aivpn

open Aivpn.Lib

/-- The server never encrypts two plaintexts with one pair of key and nonce. -/
def NonceFresh (m : SessionManager) : Prop :=
  m.encryptCalls.Pairwise fun c c' =>
    c.key = c'.key → c.nonce = c'.nonce → c.plaintext = c'.plaintext

/-! ## Assumptions on the primitives -/

namespace Established

variable (P : Primitives) (rng : Randomness) (serverKeys : KeyPair)

/-- What the initial or the ratcheted keys of a session are derived from. -/
def kdfInput (e : Established) : Bool → KdfInput
  | false => ⟨P.x25519 serverKeys.privateKeyBytes e.ephPub, e.presharedKey, e.ephPub⟩
  | true => ⟨P.x25519 (e.serverEph P rng).privateKeyBytes e.ephPub,
      some (e.initialKeys P serverKeys).sessionKey, e.ephPub⟩

/-- The initial or the ratcheted session key. -/
def key (e : Established) (ratcheted : Bool) : Key :=
  (e.kdfInput P rng serverKeys ratcheted).sessionKey P

end Established

section

variable (P : Primitives) (rng : Randomness) (serverKeys : KeyPair)
  (established : List Established)

/-- The key derivation gives distinct session keys for the distinct inputs of these sessions. -/
def KdfDistinct : Prop :=
  ∀ e ∈ established, ∀ e' ∈ established, ∀ r r',
    e.key P rng serverKeys r = e'.key P rng serverKeys r' →
      e.kdfInput P rng serverKeys r = e'.kdfInput P rng serverKeys r'

/-- The server's ephemeral keys are fresh: no two sessions have the same one, and none gives the
DH result of the static key. -/
def EphFresh : Prop :=
  ∀ e ∈ established, P.x25519 (e.serverEph P rng).privateKeyBytes e.ephPub ≠
      P.x25519 serverKeys.privateKeyBytes e.ephPub ∧
    ∀ e' ∈ established, e.sessionId ≠ e'.sessionId → e.serverEph P rng ≠ e'.serverEph P rng

end

/-! ## Sessions with distinct handshakes have distinct keys -/

section

variable {P : Primitives} {rng : Randomness} {serverKeys : KeyPair}

theorem Established.Sent.key_eq {e : Established} {key : Key} {inner : Bytes}
    (h : e.Sent P rng serverKeys key inner) : ∃ r, key = e.key P rng serverKeys r := by
  have hcases : key = (e.initialKeys P serverKeys).sessionKey ∨
      key = (e.ratchetedKeys P rng serverKeys).sessionKey := by
    cases h with
    | hello signature => exact Or.inl rfl
    | control hkey seqNum hne => exact hkey
    | data hkey seqNum packet => exact hkey
  rcases hcases with h | h
  · exact ⟨false, h⟩
  · exact ⟨true, h⟩

/-- A session key belongs to one session and one side of its ratchet. -/
theorem key_inj {established : List Established}
    (hkdf : KdfDistinct P rng serverKeys established)
    (heph : EphFresh P rng serverKeys established)
    (hdistinct : (established.map fun e => (e.ephPub, e.presharedKey)).Nodup)
    {e e' : Established} (he : e ∈ established) (he' : e' ∈ established) {r r' : Bool}
    (h : e.key P rng serverKeys r = e'.key P rng serverKeys r') : e = e' ∧ r = r' := by
  have hinitial : ∀ {e e'}, e ∈ established → e' ∈ established →
      e.key P rng serverKeys false = e'.key P rng serverKeys false → e = e' := by
    intro e e' he he' h
    have hin := hkdf e he e' he' _ _ h
    simp only [Established.kdfInput, KdfInput.mk.injEq] at hin
    exact List.inj_on_of_nodup_map hdistinct he he' (Prod.ext hin.2.2 hin.2.1)
  -- an initial key is no ratcheted key: the DH results differ
  have hcross : ∀ {e e'}, e ∈ established → e' ∈ established →
      e.key P rng serverKeys false ≠ e'.key P rng serverKeys true := by
    intro e e' he he' h
    have hin := hkdf e he e' he' _ _ h
    simp only [Established.kdfInput, KdfInput.mk.injEq] at hin
    rw [hin.2.2] at hin
    exact (heph e' he').1 hin.1.symm
  cases r with
  | false =>
      cases r' with
      | false => exact ⟨hinitial he he' h, rfl⟩
      | true => exact absurd h (hcross he he')
  | true =>
      cases r' with
      | false => exact absurd h.symm (hcross he' he)
      | true =>
          have hin := hkdf e he e' he' _ _ h
          simp only [Established.kdfInput, KdfInput.mk.injEq, Option.some.injEq] at hin
          exact ⟨hinitial he he' hin.2.1, rfl⟩

/-- Within one session no pair of key and nonce repeats. -/
theorem Established.Fits.nodup {e : Established} {k : KeyState} {used : List (Key × Nonce)}
    (h : e.Fits P rng serverKeys k used)
    (hne : e.key P rng serverKeys false ≠ e.key P rng serverKeys true)
    (hlen : used.length ≤ 2 ^ 64) : used.Nodup := by
  cases h with
  | initial n =>
      rw [length_pairs] at hlen
      exact nodup_pairs _ hlen
  | ratcheted n j =>
      rw [List.length_append, length_pairs, length_pairs] at hlen
      rw [List.nodup_append]
      refine ⟨nodup_pairs _ (by omega), nodup_pairs _ (by omega), ?_⟩
      rintro ⟨key, nonce⟩ hmem ⟨key', nonce'⟩ hmem' heq
      obtain ⟨rfl, -⟩ := mem_pairs.1 hmem
      obtain ⟨rfl, -⟩ := mem_pairs.1 hmem'
      exact hne (Prod.mk.inj heq).1.symm

/-- Sessions with distinct handshakes never share a pair of key and nonce. -/
theorem SessionManager.Ledger.nonceFresh {m : SessionManager} (h : m.Ledger P rng serverKeys)
    (hkdf : KdfDistinct P rng serverKeys m.established)
    (heph : EphFresh P rng serverKeys m.established)
    (hdistinct : (m.established.map fun e => (e.ephPub, e.presharedKey)).Nodup)
    (hcount : m.encryptCalls.length ≤ 2 ^ 64) : NonceFresh m := by
  unfold NonceFresh
  rw [List.pairwise_iff_forall_sublist]
  intro c c' hsub hkey hnonce
  have hc : c ∈ m.encryptCalls := hsub.subset (by simp)
  have hc' : c' ∈ m.encryptCalls := hsub.subset (by simp)
  obtain ⟨e, he, hid, _, _, hsent, -⟩ := h.calls c hc
  obtain ⟨e', he', hid', _, _, hsent', -⟩ := h.calls c' hc'
  obtain ⟨r, hr⟩ := hsent.key_eq
  obtain ⟨r', hr'⟩ := hsent'.key_eq
  obtain ⟨rfl, -⟩ := key_inj hkdf heph hdistinct he he' (hr ▸ hr' ▸ hkey)
  -- both calls are of one session, whose pairs are distinct
  have hused : (SessionManager.usedPairs m.encryptCalls e.sessionId).Nodup := by
    refine (h.fits e he).nodup (fun heq => ?_) ?_
    · exact absurd (key_inj hkdf heph hdistinct he he heq).2 (by decide)
    · rw [SessionManager.usedPairs, List.length_map]
      exact Nat.le_trans (List.length_filter_le _ _) hcount
  have hpairwise := List.pairwise_filter.1 (List.pairwise_map.1 hused)
  have hne := List.pairwise_iff_forall_sublist.1 hpairwise hsub (by simpa using hid.symm)
    (by simpa using hid'.symm)
  exact absurd (Prod.ext hkey hnonce) hne

end

/-! ## Runs -/

namespace Gateway

variable (P : Primitives) (rng : Randomness) (cfg : GatewayConfig)

/-- The handshake that the step accepts, if any, is not for the client key and the PSK of an
earlier one. -/
def FreshHandshake (g : Gateway) (e : Env × Event) : Prop :=
  ∀ ephPub psk, opened P rng g e = some (ephPub, psk) →
    ∀ old ∈ g.sessionManager.established, (old.ephPub, old.presharedKey) ≠ (ephPub, psk)

theorem Changes.established {e : Env × Event} {g g' : Gateway} (h : Changes P rng cfg e g g') :
    g'.sessionManager.established = g.sessionManager.established := by
  induction h with
  | refl => rfl
  | tail _ hlast ih =>
      rw [← ih]
      cases hlast with
      | manager hm =>
          rcases hm.records_cases with ⟨hrec, -⟩ | ⟨sid, inner, padding, mdh, -, -, -, rfl⟩
          · exact congrArg (fun r => r.2.1) hrec
          · rfl
      | emit _ => rfl
      | cooldowns _ => rfl
      | clients _ => rfl

/-- A fresh handshake keeps the handshakes distinct. -/
theorem step_distinct {g : Gateway} {e : Env × Event}
    (hg : (g.sessionManager.established.map fun e => (e.ephPub, e.presharedKey)).Nodup)
    (hfresh : FreshHandshake P rng g e) :
    ((step P rng cfg g e).sessionManager.established.map fun e =>
      (e.ephPub, e.presharedKey)).Nodup := by
  have hcases := step_cases P rng cfg e g
  unfold FreshHandshake at hfresh
  revert hcases hfresh
  rcases opened P rng g e with _ | ⟨ephPub, psk⟩
  · intro _ hcases
    rw [Changes.established P rng cfg hcases]
    exact hg
  · rintro hfresh ⟨g₀, _, h0, ⟨m, hm, rfl⟩, h1⟩
    have hest := congrArg (fun r => r.2.1) hm.records
    simp only [SessionManager.records] at hest
    rw [Changes.established P rng cfg h1, hest, Changes.established P rng cfg h0, List.map_cons,
      List.nodup_cons]
    refine ⟨fun hmem => ?_, hg⟩
    obtain ⟨old, hold, heq⟩ := List.mem_map.1 hmem
    exact hfresh ephPub psk rfl old hold heq

end Gateway

/-- In every run of the gateway in which no accepted handshake repeats the client key and PSK of an
earlier one, the server never encrypts two plaintexts with one pair of key and nonce. -/
theorem nonceFresh_of_freshHandshakes (P : Primitives) (rng : Randomness) (cfg : GatewayConfig)
    (serverKeys : KeyPair) (signingKey : Key) (clientDb : Option (List ClientConfig))
    (es : List (Env × Gateway.Event)) {m : SessionManager}
    (hm : m = (runFrom (Gateway.step P rng cfg) (Gateway.new serverKeys signingKey clientDb)
      es).sessionManager)
    (hfresh : Along (Gateway.step P rng cfg) (Gateway.FreshHandshake P rng)
      (Gateway.new serverKeys signingKey clientDb) es)
    (hcount : m.encryptCalls.length ≤ 2 ^ 64)
    (hkdf : KdfDistinct P rng serverKeys m.established)
    (heph : EphFresh P rng serverKeys m.established) : NonceFresh m := by
  subst hm
  have hledger := ledger_of_run P rng cfg serverKeys signingKey clientDb es
  refine hledger.nonceFresh hkdf heph ?_ hcount
  exact runFrom_invariant_of_along
    (fun g e hg hc => Gateway.step_distinct P rng cfg (g := g) (e := e) hg hc)
    (s := Gateway.new serverKeys signingKey clientDb) List.nodup_nil hfresh

/-- The session manager after the sample client has connected and its init datagram has come once
more, from another address. -/
def sampleReplayed : SessionManager :=
  (runFrom (Gateway.step samplePrimitives sampleRandomness sampleConfig)
    (Gateway.new sampleServerKeys default (some [sampleClient])) (sampleConnect ++
      [(sampleEnv 100, .packet (sampleClientInit.bytes samplePrimitives sampleServerKeys)
        sampleOtherAddr)])).sessionManager

/-- The copy opens a session with the initial keys of the first one: the two ServerHellos differ
and are encrypted under one key and nonce. -/
theorem lateInit_reuses_nonce :
    KdfDistinct samplePrimitives sampleRandomness sampleServerKeys sampleReplayed.established ∧
    EphFresh samplePrimitives sampleRandomness sampleServerKeys sampleReplayed.established ∧
    ¬ NonceFresh sampleReplayed := by
  refine ⟨?_, ?_, ?_⟩
  · show ∀ e ∈ _, ∀ e' ∈ _, ∀ r r', _ → _
    decide +kernel
  · show ∀ e ∈ _, _ ∧ ∀ e' ∈ _, _ → _
    decide +kernel
  · show ¬ List.Pairwise _ _
    decide +kernel

/-- Before the copy arrives no pair is used twice. -/
theorem nonceFresh_sampleRatcheted : NonceFresh sampleRatcheted.sessionManager := by
  refine nonceFresh_of_freshHandshakes samplePrimitives sampleRandomness sampleConfig
    sampleServerKeys default (some [sampleClient]) sampleConnect rfl ⟨?_, ?_, trivial⟩ ?_ ?_ ?_
  · intro ephPub psk _ old hold
    cases hold
  · intro ephPub psk hopened
    have hnone : Gateway.opened samplePrimitives sampleRandomness
        (Gateway.step samplePrimitives sampleRandomness sampleConfig
          (Gateway.new sampleServerKeys default (some [sampleClient]))
          (sampleEnv 100, .packet (sampleClientInit.bytes samplePrimitives sampleServerKeys)
            sampleAddr))
        (sampleEnv 100, .packet (sampleKeepalive (some sampleClient.psk)) sampleAddr) = none := by
      decide +kernel
    rw [hnone] at hopened
    cases hopened
  · show sampleRatcheted.sessionManager.encryptCalls.length ≤ _
    decide +kernel
  · show ∀ e ∈ sampleRatcheted.sessionManager.established, ∀ e' ∈ _, ∀ r r', _ → _
    decide +kernel
  · show ∀ e ∈ sampleRatcheted.sessionManager.established, _ ∧ ∀ e' ∈ _, _ → _
    decide +kernel

end Aivpn
