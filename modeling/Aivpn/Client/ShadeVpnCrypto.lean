import Aivpn.Client.Blake3

/-!
# The ShadeVPN fork of the Kotlin client

`ShadeVpnCrypto.kt` is `AivpnCrypto.kt` under another name. The renaming went into the context
strings of the three key derivations, which the server does not know, so for no input has the
fork the keys of the server (`derives_no_serverKey`). BLAKE3 is again the primitive of the Rust
crates; `deriveKeys_blake3` says that the fork's copy of `Blake3.kt` computes what is taken for
it here.
-/

set_option autoImplicit false

namespace Aivpn

open Aivpn.Lib Aivpn.Lib.Signed

/-- The fields of `ShadeVPNCrypto` are those of `AivpnCrypto`. -/
abbrev ShadeVPNCrypto := AivpnCrypto

namespace ShadeVPNCrypto

variable (P : Primitives)

/-- `deriveKeys`. -/
def deriveKeys (sharedSecret clientPub : Key) (psk : Option Key) (c : ShadeVPNCrypto) :
    ShadeVPNCrypto :=
  let ikm : Bytes := match psk with
    | some psk => sharedSecret.toList ++ psk.toList
    | none => sharedSecret.toList
  let input := ikm ++ clientPub.toList
  { c with
    sessionKey := P.deriveKey "ShadeVPN-session-key-v1" input
    tagSecret := P.deriveKey "ShadeVPN-tag-secret-v1" input }

/-- The obfuscated key of `buildInitPacket`. -/
def obfuscatedEphPub (c : ShadeVPNCrypto) : Key :=
  let mask := P.deriveKey "ShadeVPN-eph-obfuscation-v1" c.serverStaticPub.toList
  c.clientPublic.zipWith (fun a b => toByte (toInt a ^^^ toInt b)) mask

/-- `buildInitPacket`. -/
def buildInitPacket (timeWindow : Int) (r : PacketRandomness) (c : ShadeVPNCrypto) :
    Bytes × ShadeVPNCrypto :=
  let obfEphPub := obfuscatedEphPub P c
  let innerPayload := AivpnCrypto.buildInnerHeader 0x02 c.sendSeq ++ [0x03]
  AivpnCrypto.buildPacket P timeWindow r innerPayload (some obfEphPub)
    { c with sendSeq := c.sendSeq + 1 }

section

variable {P}

/-! ## What the fork derives -/

theorem deriveKeys_eq (sharedSecret clientPub : Key) (psk : Option Key) (c : ShadeVPNCrypto) :
    deriveKeys P sharedSecret clientPub psk c =
      { c with
        sessionKey := P.deriveKey "ShadeVPN-session-key-v1"
          (Blake3.kdfMaterial sharedSecret clientPub psk)
        tagSecret := P.deriveKey "ShadeVPN-tag-secret-v1"
          (Blake3.kdfMaterial sharedSecret clientPub psk) } := by
  cases psk with
  | none =>
      rw [Blake3.kdfMaterial, List.append_nil]
      rfl
  | some psk => rfl

/-- Over BLAKE3 as the primitive, the keys of the fork are what `Blake3.kt` computes for them. -/
theorem deriveKeys_blake3 (hP : P.deriveKey = Blake3Spec.deriveKey) (sharedSecret clientPub : Key)
    (psk : Option Key) (c : ShadeVPNCrypto) :
    deriveKeys P sharedSecret clientPub psk c =
      { c with
        sessionKey := Blake3.deriveKey "ShadeVPN-session-key-v1"
          (Blake3.kdfMaterial sharedSecret clientPub psk)
        tagSecret := Blake3.deriveKey "ShadeVPN-tag-secret-v1"
          (Blake3.kdfMaterial sharedSecret clientPub psk) } := by
  have hlength := Blake3.length_kdfMaterial sharedSecret clientPub psk
  rw [Blake3.deriveKey_of_le (by decide) hlength, Blake3.deriveKey_of_le (by decide) hlength,
    ← hP, deriveKeys_eq]

theorem serverKeys_eq (sharedSecret clientPub : Key) (psk : Option Key) :
    (P.deriveSessionKeys sharedSecret psk clientPub).sessionKey =
        P.deriveKey "aivpn-session-key-v1" (Blake3.kdfMaterial sharedSecret clientPub psk) ∧
      (P.deriveSessionKeys sharedSecret psk clientPub).tagSecret =
        P.deriveKey "aivpn-tag-secret-v1" (Blake3.kdfMaterial sharedSecret clientPub psk) := by
  cases psk with
  | none =>
      rw [Blake3.kdfMaterial, List.append_nil]
      exact ⟨rfl, rfl⟩
  | some psk => exact ⟨rfl, rfl⟩

/-- The obfuscation is the exclusive or with the mask. -/
theorem obfuscatedEphPub_eq (c : ShadeVPNCrypto) :
    obfuscatedEphPub P c = c.clientPublic.zipWith (· ^^^ ·)
      (P.deriveKey "ShadeVPN-eph-obfuscation-v1" c.serverStaticPub.toList) := by
  simp only [obfuscatedEphPub, toByte_xor, toByte_toInt]

/-- The key behind the tag and the four zero bytes of the init. -/
theorem readArray_buildInitPacket (timeWindow : Int) (r : PacketRandomness) (c : ShadeVPNCrypto) :
    readArray 32 12 (buildInitPacket P timeWindow r c).1 = obfuscatedEphPub P c := by
  rw [buildInitPacket, AivpnCrypto.buildPacket]
  apply readArray_append_toList
  rw [List.length_append, ByteArr.length_toList]
  rfl

/-! ## The server's keys -/

/-- The contexts under which the server and the fork derive keys. -/
def contexts : List String :=
  ["aivpn-session-key-v1", "aivpn-tag-secret-v1", "aivpn-prng-seed-v1",
    "aivpn-eph-obfuscation-v1", "ShadeVPN-session-key-v1", "ShadeVPN-tag-secret-v1",
    "ShadeVPN-eph-obfuscation-v1"]

/-- Distinct contexts in use give distinct keys for the material. -/
def SeparatesContexts (deriveKey : String → Bytes → Key) (material : Bytes) : Prop :=
  ∀ context ∈ contexts, ∀ context' ∈ contexts, context ≠ context' →
    deriveKey context material ≠ deriveKey context' material

/-- With derivations that separate the contexts, the fork has neither the session key nor the tag
secret of the server, for any shared secret, preshared key and client key, and its init never
carries the client's key as the server obfuscates it. -/
theorem derives_no_serverKey (sharedSecret : Key) (psk : Option Key) (c : ShadeVPNCrypto)
    (hmaterial : SeparatesContexts P.deriveKey
      (Blake3.kdfMaterial sharedSecret c.clientPublic psk))
    (hmask : SeparatesContexts P.deriveKey c.serverStaticPub.toList) :
    (deriveKeys P sharedSecret c.clientPublic psk c).sessionKey ≠
        (P.deriveSessionKeys sharedSecret psk c.clientPublic).sessionKey ∧
      (deriveKeys P sharedSecret c.clientPublic psk c).tagSecret ≠
        (P.deriveSessionKeys sharedSecret psk c.clientPublic).tagSecret ∧
      ∀ timeWindow r, readArray 32 12 (buildInitPacket P timeWindow r c).1 ≠
        P.obfuscateEphPub c.clientPublic c.serverStaticPub := by
  obtain ⟨hsession, htag⟩ := serverKeys_eq sharedSecret c.clientPublic psk (P := P)
  rw [deriveKeys_eq, hsession, htag]
  refine ⟨?_, ?_, ?_⟩
  · exact hmaterial _ (by decide) _ (by decide) (by decide)
  · exact hmaterial _ (by decide) _ (by decide) (by decide)
  · intro timeWindow r heq
    rw [readArray_buildInitPacket, obfuscatedEphPub_eq, Primitives.obfuscateEphPub] at heq
    -- the same key under two masks
    have hmasks := ByteArr.zipWith_xor_right_injective heq
    exact hmask _ (by decide) _ (by decide) (by decide) hmasks

end

/-! ## Two inputs -/

/-- A client whose public key is the base point, for a server with the same key. -/
def sampleCrypto : ShadeVPNCrypto :=
  { serverStaticPub := basepoint
    psk := none
    clientPrivate := ByteArr.replicate 32 0
    clientPublic := basepoint
    sessionKey := ByteArr.replicate 32 0
    tagSecret := ByteArr.replicate 32 0
    sendCounter := 0
    sendSeq := 0
    recvHighest := -1
    recvWindow := 0#64 }

/-- The contexts have different lengths, which is what the sample derivation looks at. -/
theorem sampleCrypto_derives_no_serverKey :
    (deriveKeys samplePrimitives basepoint basepoint none sampleCrypto).sessionKey ≠
        (samplePrimitives.deriveSessionKeys basepoint none basepoint).sessionKey ∧
      (deriveKeys samplePrimitives basepoint basepoint none sampleCrypto).tagSecret ≠
        (samplePrimitives.deriveSessionKeys basepoint none basepoint).tagSecret ∧
      ∀ timeWindow r, readArray 32 12
          (buildInitPacket samplePrimitives timeWindow r sampleCrypto).1 ≠
        samplePrimitives.obfuscateEphPub basepoint basepoint := by
  have hmaterial : SeparatesContexts samplePrimitives.deriveKey
      (Blake3.kdfMaterial basepoint basepoint none) := by
    unfold SeparatesContexts
    decide +kernel
  have hmask : SeparatesContexts samplePrimitives.deriveKey basepoint.toList := by
    unfold SeparatesContexts
    decide +kernel
  exact derives_no_serverKey basepoint none sampleCrypto hmaterial hmask

/-- The session key, the tag secret and the obfuscated key of the fork are the server's. -/
def DerivesServerKeys (sharedSecret : Key) (psk : Option Key) (c : ShadeVPNCrypto) : Prop :=
  (deriveKeys P sharedSecret c.clientPublic psk c).sessionKey =
      (P.deriveSessionKeys sharedSecret psk c.clientPublic).sessionKey ∧
    (deriveKeys P sharedSecret c.clientPublic psk c).tagSecret =
      (P.deriveSessionKeys sharedSecret psk c.clientPublic).tagSecret ∧
    ∀ timeWindow r, readArray 32 12 (buildInitPacket P timeWindow r c).1 =
      P.obfuscateEphPub c.clientPublic c.serverStaticPub

/-- Primitives with the hash of the `blake3` crate. -/
def blake3Primitives : Primitives :=
  { samplePrimitives with
    deriveKey := Blake3Spec.deriveKey
    keyedHash := Blake3Spec.keyedHash }

/-- Under BLAKE3 itself the session keys already differ. -/
theorem blake3_not_derivesServerKeys :
    ¬ DerivesServerKeys blake3Primitives basepoint none sampleCrypto := by
  rintro ⟨hsession, -, -⟩
  have hdiffer : Blake3.deriveKey "ShadeVPN-session-key-v1"
      (Blake3.kdfMaterial basepoint basepoint none) ≠
      Blake3.deriveKey "aivpn-session-key-v1" (Blake3.kdfMaterial basepoint basepoint none) := by
    decide +kernel
  have hlength := Blake3.length_kdfMaterial basepoint basepoint none
  have hserver : Blake3.deriveKey "aivpn-session-key-v1"
      (Blake3.kdfMaterial basepoint basepoint none) =
      (blake3Primitives.deriveSessionKeys basepoint none basepoint).sessionKey := by
    rw [(serverKeys_eq _ _ _).1, Blake3.deriveKey_of_le (by decide) hlength]
    rfl
  rw [deriveKeys_blake3 rfl] at hsession
  exact hdiffer (hsession.trans hserver.symm)

end ShadeVPNCrypto

end Aivpn
