import Aivpn.Lib.Bytes
import Mathlib.Data.List.Nodup
import Mathlib.Data.Set.Function

/-!
# Cryptographic functions of `aivpn-common`

`crypto.rs` builds its key derivation, resonance tags and key obfuscation on third-party
primitives (X25519, BLAKE3, ChaCha20-Poly1305, Ed25519). The primitives are the fields of
`Primitives`; the functions of `crypto.rs` are defined over them, byte for byte. What a
result needs to know about a primitive is a hypothesis of that result.

Counters and time windows are `u64` values, written as natural numbers; where the source
wraps or saturates, so does the definition.
-/

set_option autoImplicit false

namespace Aivpn

open Aivpn.Lib

/-- `aivpn_common::error::Error`. -/
inductive Error where
  | invalidPacket (msg : String)
  | crypto (msg : String)
  | io
  | serialization (msg : String)
  | session (msg : String)
  | mask (msg : String)
  | channel (msg : String)
deriving DecidableEq, Repr

/-- A call that returns, fails with an `Error`, or panics. -/
abbrev Outcome (α : Type) := Exec Error α

/-- An `Err` return. -/
abbrev err {α : Type} (e : Error) : Outcome α := .error (.error e)

/-! ## Machine words -/

/-- `u64::MAX`. -/
def u64Max : Nat := 2 ^ 64 - 1

/-- `a.saturating_add(b)` on `u64`. -/
def saturatingAdd (a b : Nat) : Nat := min (a + b) u64Max

/-- `a.wrapping_add(b)` on `u64`. -/
def wrappingAdd (a b : Nat) : Nat := (a + b) % 2 ^ 64

/-- `a.wrapping_sub(1)` on `u64`. -/
def wrappingPred (a : Nat) : Nat := (a + u64Max) % 2 ^ 64

/-! ## Constants -/

/-- `TAG_SIZE`. -/
def tagSize : Nat := 8

/-- `POLY1305_TAG_SIZE`. -/
def poly1305TagSize : Nat := 16

/-- `DEFAULT_WINDOW_MS`. -/
def defaultWindowMs : Nat := 10000

/-- A resonance tag. -/
abbrev Tag := ByteArr 8

/-- A 32-byte key, secret or public key. -/
abbrev Key := ByteArr 32

/-- A ChaCha20-Poly1305 nonce. -/
abbrev Nonce := ByteArr 12

/-- `SessionKeys`. -/
structure SessionKeys where
  sessionKey : Key
  tagSecret : Key
  prngSeed : Key
deriving DecidableEq, Repr, Inhabited

/-- `KeyPair`. -/
structure KeyPair where
  privateKeyBytes : Key
  publicKeyBytes : Key
deriving DecidableEq, Repr, Inhabited

/-! ## Primitives -/

/-- The third-party functions `crypto.rs` calls. `encrypt` is total: ChaCha20-Poly1305 refuses
only plaintexts beyond 256 GiB. -/
structure Primitives where
  /-- `x25519_dalek::x25519`. -/
  x25519 : Key → Key → Key
  /-- `blake3::derive_key`. -/
  deriveKey : String → Bytes → Key
  /-- `blake3::Hasher::new_keyed`, fed with the given bytes and finalized. -/
  keyedHash : Key → Bytes → Key
  /-- `ChaCha20Poly1305::encrypt`. -/
  encrypt : Key → Nonce → Bytes → Bytes
  /-- `ChaCha20Poly1305::decrypt`. -/
  decrypt : Key → Nonce → Bytes → Option Bytes
  /-- `ed25519_dalek::SigningKey::sign`. -/
  sign : Key → Bytes → ByteArr 64
  /-- `ed25519_dalek::VerifyingKey::verify`; `none` for a malformed public key. -/
  verify : Key → Bytes → ByteArr 64 → Option Bool

/-- `X25519_BASEPOINT_BYTES`. -/
def basepoint : Key := ⟨9 :: List.replicate 31 0, by simp⟩

/-- X25519 clamping as in `KeyPair::generate` and `KeyPair::from_private_key`. -/
def clamp (k : Key) : Key :=
  ⟨((k.toList.modify 0 (· &&& 248)).modify 31 (· &&& 127)).modify 31 (· ||| 64), by simp⟩

namespace Primitives

variable (P : Primitives)

/-- `KeyPair::from_private_key`, and `KeyPair::generate` on the given random bytes. -/
def fromPrivateKey (keyBytes : Key) : KeyPair :=
  let keyBytes := clamp keyBytes
  { privateKeyBytes := keyBytes, publicKeyBytes := P.x25519 keyBytes basepoint }

/-- `KeyPair::compute_shared`: an all-zero result is refused. -/
def computeShared (kp : KeyPair) (remotePublic : Key) : Except Error Key :=
  let shared := P.x25519 kp.privateKeyBytes remotePublic
  if shared = ByteArr.replicate 32 0 then
    .error (.crypto "DH result is all-zero (possible small subgroup attack)")
  else .ok shared

/-- `derive_session_keys`. -/
def deriveSessionKeys (dhResult : Key) (presharedKey : Option Key) (ephPub : Key) : SessionKeys :=
  let ikm : Bytes := match presharedKey with
    | some psk => dhResult.toList ++ psk.toList
    | none => dhResult.toList
  let input := ikm ++ ephPub.toList
  { sessionKey := P.deriveKey "aivpn-session-key-v1" input
    tagSecret := P.deriveKey "aivpn-tag-secret-v1" input
    prngSeed := P.deriveKey "aivpn-prng-seed-v1" input }

/-- `encrypt_payload`. -/
def encryptPayload (key : Key) (nonce : Nonce) (plaintext : Bytes) : Bytes :=
  P.encrypt key nonce plaintext

/-- `decrypt_payload`. -/
def decryptPayload (key : Key) (nonce : Nonce) (ciphertext : Bytes) : Except Error Bytes :=
  match P.decrypt key nonce ciphertext with
  | some plaintext => .ok plaintext
  | none => .error (.crypto "aead::Error")

/-- `generate_resonance_tag`. -/
def generateResonanceTag (tagSecret : Key) (counter timeWindow : Nat) : Tag :=
  let hash := P.keyedHash tagSecret (leBytes 8 counter ++ leBytes 8 timeWindow)
  ⟨hash.toList.take 8, by simp⟩

/-- The tags of the triples of tag secret, counter and time window in `D` do not collide. A tag has
64 bits, so that this can be asked of the triples that are looked at only. -/
def CollisionFree (D : Set (Key × Nat × Nat)) : Prop :=
  Set.InjOn (fun x => P.generateResonanceTag x.1 x.2.1 x.2.2) D

/-- `obfuscate_eph_pub`. -/
def obfuscateEphPub (ephPub serverStaticPub : Key) : Key :=
  let mask := P.deriveKey "aivpn-eph-obfuscation-v1" serverStaticPub.toList
  ephPub.zipWith (· ^^^ ·) mask

/-- Obfuscation is its own inverse. -/
theorem obfuscateEphPub_obfuscateEphPub (ephPub serverStaticPub : Key) :
    P.obfuscateEphPub (P.obfuscateEphPub ephPub serverStaticPub) serverStaticPub = ephPub :=
  ByteArr.zipWith_xor_xor _ _

end Primitives

theorem computeShared_eq {P : Primitives} {kp : KeyPair} {remotePublic dh : Key}
    (h : P.computeShared kp remotePublic = .ok dh) :
    dh = P.x25519 kp.privateKeyBytes remotePublic := by
  unfold Primitives.computeShared at h
  simp only at h
  split_ifs at h
  exact (Except.ok.inj h).symm

/-- The input of the key derivation. -/
structure KdfInput where
  dhResult : Key
  presharedKey : Option Key
  ephPub : Key
deriving DecidableEq, Repr

/-- The keys derived from an input. -/
def KdfInput.keys (P : Primitives) (i : KdfInput) : SessionKeys :=
  P.deriveSessionKeys i.dhResult i.presharedKey i.ephPub

/-- The session key derived from an input. -/
def KdfInput.sessionKey (P : Primitives) (i : KdfInput) : Key := (i.keys P).sessionKey

/-- A choice of primitives for evaluating the model on concrete inputs. It keeps the algebra the
protocol relies on (X25519 commutes, decryption undoes encryption and checks key, nonce and length)
and has no cryptographic strength. Tags are distinct for distinct leading secret bytes, counters and
windows below `2 ^ 24`. -/
def samplePrimitives : Primitives where
  x25519 k u := k.zipWith (· + ·) u
  deriveKey ctx input :=
    ⟨(List.range 32).map fun i => UInt8.ofNat (ctx.length + (input.getD i 0).toNat
      + 3 * (input.getD (i + 32) 0).toNat + 7 * (input.getD (i + 64) 0).toNat), by simp⟩
  keyedHash k msg :=
    ⟨[k.toList.getD 0 0, k.toList.getD 1 0, msg.getD 0 0, msg.getD 1 0, msg.getD 2 0,
      msg.getD 8 0, msg.getD 9 0, msg.getD 10 0] ++ List.replicate 24 0, by simp⟩
  encrypt k n p := p ++ (k.toList.take 2 ++ leBytes 2 p.length ++ n.toList)
  decrypt k n c :=
    if c.drop (c.length - 16) = k.toList.take 2 ++ leBytes 2 (c.length - 16) ++ n.toList then
      some (c.take (c.length - 16))
    else none
  sign _ _ := default
  verify _ _ _ := some true

/-- The triples whose tags are distinct under `samplePrimitives`, for the given tag secrets. -/
def smallTriples (secrets : List Key) : Set (Key × Nat × Nat) :=
  { x | x.1 ∈ secrets ∧ x.2.1 < 2 ^ 24 ∧ x.2.2 < 2 ^ 24 }

theorem samplePrimitives_tag (secret : Key) (c tw : Nat) :
    (samplePrimitives.generateResonanceTag secret c tw).toList =
      secret.toList.take 2 ++ leBytes 3 c ++ leBytes 3 tw := by
  obtain ⟨l, hl⟩ := secret
  obtain ⟨a, l, rfl⟩ := List.exists_cons_of_length_pos (show 0 < l.length by omega)
  obtain ⟨b, l, rfl⟩ := List.exists_cons_of_length_pos (show 0 < l.length by simp at hl; omega)
  rfl

theorem samplePrimitives_collisionFree {secrets : List Key}
    (h : (secrets.map fun s => s.toList.take 2).Nodup) :
    samplePrimitives.CollisionFree (smallTriples secrets) := by
  rintro ⟨s, c, t⟩ ⟨hs, hc, ht⟩ ⟨s', c', t'⟩ ⟨hs', hc', ht'⟩ heq
  have hbytes := congrArg ByteArr.toList heq
  rw [samplePrimitives_tag, samplePrimitives_tag] at hbytes
  have hleft := List.append_inj' hbytes (by simp)
  have hsecret := List.append_inj' hleft.1 (by simp)
  obtain rfl : c = c' := leBytes_inj (k := 3) (by simpa using hc) (by simpa using hc') hsecret.2
  obtain rfl : t = t' := leBytes_inj (k := 3) (by simpa using ht) (by simpa using ht') hleft.2
  -- two secrets of the list with the same leading bytes are the same
  obtain rfl : s = s' := List.inj_on_of_nodup_map h hs hs' hsecret.1
  rfl

/-- What carries another key's mark does not decrypt. -/
theorem samplePrimitives_decrypt_eq_none {key : Key} {c : Bytes}
    (h : (c.drop (c.length - 16)).take 2 ≠ key.toList.take 2) (nonce : Nonce) :
    samplePrimitives.decrypt key nonce c = none := by
  unfold samplePrimitives
  simp only
  rw [if_neg]
  intro heq
  rw [heq, List.append_assoc, List.take_left' (by simp)] at h
  exact h rfl

/-- `compute_time_window`. -/
def computeTimeWindow (timestampMs windowMs : Nat) : Nat := timestampMs / windowMs

/-- The clocks read while one call runs: `current_timestamp_ms` and `Instant::now`, both in
milliseconds, and whether a datagram sent during the call leaves the socket. -/
structure Env where
  timestampMs : Nat
  instant : Nat
  sendOk : Bool

/-- The time window of the call. -/
def Env.timeWindow (env : Env) : Nat := computeTimeWindow env.timestampMs defaultWindowMs

/-- The two windows next to `tw`, in the order in which the source searches them. -/
def adjacentWindows (tw : Nat) : List Nat := [wrappingPred tw, wrappingAdd tw 1]

/-- `counter_to_nonce`; `Session::next_send_nonce`, `Gateway::compute_nonce` and
`MimicryEngine::generate_nonce` compute the same bytes. -/
def counterToNonce (counter : Nat) : Nonce :=
  ⟨leBytes 8 counter ++ List.replicate 4 0, by simp⟩

theorem counterToNonce_mod (n : Nat) : counterToNonce (n % 2 ^ 64) = counterToNonce n := by
  have hbytes : leBytes 8 (n % 2 ^ 64) = leBytes 8 n := leBytes_mod 8 n
  apply ByteArr.ext
  show leBytes 8 (n % 2 ^ 64) ++ List.replicate 4 0 = leBytes 8 n ++ List.replicate 4 0
  rw [hbytes]

theorem wrappingAdd_mod (n : Nat) : wrappingAdd (n % 2 ^ 64) 1 = (n + 1) % 2 ^ 64 := by
  simp [wrappingAdd]

/-- Distinct `u64` counters give distinct nonces. -/
theorem counterToNonce_inj {m n : Nat} (hm : m < 2 ^ 64) (hn : n < 2 ^ 64)
    (h : counterToNonce m = counterToNonce n) : m = n := by
  have h' : leBytes 8 m ++ List.replicate 4 0 = leBytes 8 n ++ List.replicate 4 0 :=
    congrArg ByteArr.toList h
  exact leBytes_inj (by omega) (by omega) (List.append_cancel_right h')

end Aivpn
