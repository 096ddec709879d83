import Aivpn.Common.RecvWindow

/-!
# The Kotlin client

`AivpnCrypto` of `AivpnCrypto.kt`, an implementation of the client's side of the handshake that shares
no code with the Rust crates: the derivation of the first keys, the init datagram, and the ratchet on
the ServerHello. Longs are integers and are written out as eight bytes with their sign;
X25519, BLAKE3 and ChaCha20-Poly1305 are the primitives of the Rust crates. An exception leaves the
function with `none`.

`processServerHello_of_found` says when a ServerHello is taken and what the keys are then.
-/

set_option autoImplicit false

namespace Aivpn

open Aivpn.Lib

/-- The fields of `AivpnCrypto`. -/
structure AivpnCrypto where
  serverStaticPub : Key
  psk : Option Key
  clientPrivate : Key
  clientPublic : Key
  sessionKey : Key
  tagSecret : Key
  sendCounter : Int
  sendSeq : Int
  recvHighest : Int
  recvWindow : BitVec 64
deriving DecidableEq

namespace AivpnCrypto

/-- The eight bytes of a Long, least significant first. -/
def longBytes (x : Int) : Bytes := leBytes 8 (x % 2 ^ 64).toNat

/-- `counterToNonce`. -/
def counterToNonce (counter : Int) : Nonce :=
  ⟨longBytes counter ++ List.replicate 4 0, by simp [longBytes]⟩

/-- `copyOfRange`, which throws when the range is not inside the array. -/
def copyOfRange (data : Bytes) (lo hi : Int) : Option Bytes :=
  if 0 ≤ lo ∧ lo ≤ hi ∧ hi ≤ data.length then
    some ((data.drop lo.toNat).take (hi.toNat - lo.toNat))
  else none

section

variable (P : Primitives)

/-- `x25519ScalarMult`. The ladder ends with an inversion, which throws for the all-zero result. -/
def x25519ScalarMult (scalar point : Key) : Option Key :=
  let result := P.x25519 scalar point
  if result = ByteArr.replicate 32 0 then none else some result

/-- `generateTag`. -/
def generateTag (secret : Key) (counter timeWindow : Int) : Tag :=
  ⟨(P.keyedHash secret (longBytes counter ++ longBytes timeWindow)).toList.take 8, by simp⟩

/-- `deriveKeys`. -/
def deriveKeys (sharedSecret clientPub : Key) (psk : Option Key) (c : AivpnCrypto) :
    AivpnCrypto :=
  let ikm : Bytes := match psk with
    | some psk => sharedSecret.toList ++ psk.toList
    | none => sharedSecret.toList
  let input := ikm ++ clientPub.toList
  { c with
    sessionKey := P.deriveKey "aivpn-session-key-v1" input
    tagSecret := P.deriveKey "aivpn-tag-secret-v1" input }

/-- The constructor, on the random bytes drawn for the private key. -/
def init (serverStaticPub : Key) (psk : Option Key) (random : Key) : Option AivpnCrypto := do
  let clientPrivate := clamp random
  let clientPublic ← x25519ScalarMult P clientPrivate basepoint
  let sharedSecret ← x25519ScalarMult P clientPrivate serverStaticPub
  pure (deriveKeys P sharedSecret clientPublic psk
    { serverStaticPub := serverStaticPub
      psk := psk
      clientPrivate := clientPrivate
      clientPublic := clientPublic
      sessionKey := ByteArr.replicate 32 0
      tagSecret := ByteArr.replicate 32 0
      sendCounter := 0
      sendSeq := 0
      recvHighest := -1
      recvWindow := 0#64 })

/-! ## Sending -/

/-- `buildInnerHeader`. -/
def buildInnerHeader (type : UInt8) (seq : Int) : Bytes :=
  [type, 0x00, UInt8.ofNat (seq % 256).toNat, UInt8.ofNat (seq / 256 % 256).toNat]

/-- `buildPacket` in time window `timeWindow`. -/
def buildPacket (timeWindow : Int) (r : PacketRandomness) (innerPayload : Bytes)
    (ephPub : Option Key) (c : AivpnCrypto) : Bytes × AivpnCrypto :=
  let padLen := 8 + r.draw % 16
  let padded := [UInt8.ofNat (padLen % 256), UInt8.ofNat (padLen / 256 % 256)] ++ innerPayload ++
    r.fill padLen
  let ciphertext := P.encrypt c.sessionKey (counterToNonce c.sendCounter) padded
  let tag := generateTag P c.tagSecret c.sendCounter timeWindow
  (tag.toList ++ [0, 0, 0, 0] ++ (match ephPub with | some eph => eph.toList | none => []) ++
    ciphertext, { c with sendCounter := c.sendCounter + 1 })

/-- The obfuscated key of `buildInitPacket`. -/
def obfuscatedEphPub (c : AivpnCrypto) : Key :=
  let mask := P.deriveKey "aivpn-eph-obfuscation-v1" c.serverStaticPub.toList
  c.clientPublic.zipWith (· ^^^ ·) mask

/-- `buildInitPacket`. -/
def buildInitPacket (timeWindow : Int) (r : PacketRandomness) (c : AivpnCrypto) :
    Bytes × AivpnCrypto :=
  let obfEphPub := obfuscatedEphPub P c
  let innerPayload := buildInnerHeader 0x02 c.sendSeq ++ [0x03]
  buildPacket P timeWindow r innerPayload (some obfEphPub) { c with sendSeq := c.sendSeq + 1 }

end

/-! ## The ServerHello -/

/-- `isCounterNew`. -/
def isCounterNew (c : AivpnCrypto) (counter : Int) : Bool :=
  if counter > c.recvHighest then true
  else
    let diff := c.recvHighest - counter
    if 64 ≤ diff then false else (c.recvWindow >>> diff.toNat) &&& 1#64 == 0#64

/-- The counters `searchStart until searchEnd`. -/
def searchCounters (c : AivpnCrypto) : List Nat :=
  let searchStart := if c.recvHighest < 0 then 0 else max 0 (c.recvHighest - 63)
  let searchEnd := max 256 (c.recvHighest + 257)
  List.range' searchStart.toNat (searchEnd - searchStart).toNat

section

variable (P : Primitives)

/-- The search for the counter of a tag. -/
def findCounter (timeWindow : Int) (tag : Tag) (c : AivpnCrypto) : Option Nat :=
  [0, -1, 1].findSome? fun offset =>
    c.searchCounters.find? fun counter =>
      c.isCounterNew counter &&
        decide (generateTag P c.tagSecret counter (timeWindow + offset) = tag)

/-- The server's ephemeral key in the control message of a ServerHello. -/
def parseControl (controlData : Bytes) : Option Key :=
  if controlData.isEmpty then none
  else if controlData.getD 0 0 ≠ 0x09 then none
  else if controlData.length < 1 + 32 then none
  else (copyOfRange controlData 1 33).map (readArray 32 0)

/-- The same in the inner packet. -/
def parseInner (inner : Bytes) : Option Key :=
  if inner.length < 4 then none
  else if inner.getD 0 0 ≠ 0x02 then none
  else (copyOfRange inner 4 inner.length).bind parseControl

/-- The same in the decrypted packet, behind the length of the padding. -/
def parseServerHello (plaintext : Bytes) : Option Key :=
  if plaintext.length < 2 then none
  else
    let padLen : Int := (plaintext.getD 0 0).toNat + 256 * (plaintext.getD 1 0).toNat
    (copyOfRange plaintext 2 (plaintext.length - padLen)).bind parseInner

/-- The body of `processServerHello`; it returns `true` with the new state, and `false` or an
exception leave the state alone. -/
def ratchetOnServerHello (timeWindow : Int) (packet : Bytes) (c : AivpnCrypto) :
    Option AivpnCrypto := do
  let tag ← copyOfRange packet 0 8
  let validCounter ← findCounter P timeWindow (readArray 8 0 tag) c
  let ciphertext ← copyOfRange packet 12 packet.length
  let plaintext ← P.decrypt c.sessionKey (counterToNonce validCounter) ciphertext
  let serverEphPub ← parseServerHello plaintext
  let dh2 ← x25519ScalarMult P c.clientPrivate serverEphPub
  let c := deriveKeys P dh2 c.clientPublic (some c.sessionKey) c
  pure { c with sendCounter := 0, recvHighest := -1, recvWindow := 0#64 }

/-- `processServerHello` in time window `timeWindow`. -/
def processServerHello (timeWindow : Int) (packet : Bytes) (c : AivpnCrypto) :
    Bool × AivpnCrypto :=
  match ratchetOnServerHello P timeWindow packet c with
  | some c' => (true, c')
  | none => (false, c)

end

/-! ## Agreement with the Rust functions -/

theorem longBytes_natCast (n : Nat) : longBytes n = leBytes 8 n := by
  have hmod : ((n : Int) % 2 ^ 64).toNat = n % 256 ^ 8 := by omega
  unfold longBytes
  rw [hmod, leBytes_mod]

theorem longBytes_window (tw : Nat) (offset : Int) :
    (offset = 0 → longBytes (tw + offset) = leBytes 8 tw) ∧
    (offset = -1 → longBytes (tw + offset) = leBytes 8 (wrappingPred tw)) ∧
    (offset = 1 → longBytes (tw + offset) = leBytes 8 (wrappingAdd tw 1)) := by
  refine ⟨?_, ?_, ?_⟩
  · rintro rfl
    rw [Int.add_zero, longBytes_natCast]
  · rintro rfl
    have hmod : ((tw : Int) + -1) % 2 ^ 64 = (wrappingPred tw : Nat) := by
      unfold wrappingPred u64Max
      omega
    unfold longBytes
    rw [hmod, Int.toNat_natCast]
  · rintro rfl
    have hmod : ((tw : Int) + 1) % 2 ^ 64 = (wrappingAdd tw 1 : Nat) := by
      unfold wrappingAdd
      omega
    unfold longBytes
    rw [hmod, Int.toNat_natCast]

theorem counterToNonce_eq (n : Nat) : counterToNonce n = Aivpn.counterToNonce n := by
  apply ByteArr.ext
  show longBytes n ++ _ = leBytes 8 n ++ _
  rw [longBytes_natCast]

variable {P : Primitives}

theorem generateTag_eq {tw w : Nat} {offset : Int} (secret : Key) (n : Nat)
    (h : longBytes (tw + offset) = leBytes 8 w) :
    generateTag P secret n (tw + offset) = P.generateResonanceTag secret n w := by
  apply ByteArr.ext
  show (P.keyedHash secret (longBytes n ++ longBytes (tw + offset))).toList.take 8 =
    (P.keyedHash secret (leBytes 8 n ++ leBytes 8 w)).toList.take 8
  rw [h, longBytes_natCast]

/-- The search looks at the windows that the Rust client looks at. -/
theorem findCounter_eq (tw : Nat) (tag : Tag) (c : AivpnCrypto) :
    findCounter P tw tag c =
      [tw, wrappingPred tw, wrappingAdd tw 1].findSome? fun w =>
        c.searchCounters.find? fun counter : Nat =>
          c.isCounterNew counter &&
            decide (P.generateResonanceTag c.tagSecret counter w = tag) := by
  have htags : ∀ (offset : Int) (w : Nat), longBytes (tw + offset) = leBytes 8 w →
      (c.searchCounters.find? fun counter : Nat => c.isCounterNew counter &&
        decide (generateTag P c.tagSecret counter (tw + offset) = tag)) =
      c.searchCounters.find? fun counter : Nat => c.isCounterNew counter &&
        decide (P.generateResonanceTag c.tagSecret counter w = tag) := by
    intro offset w h
    congr 1
    funext counter
    rw [generateTag_eq c.tagSecret counter h]
  obtain ⟨h0, -, -⟩ := longBytes_window tw 0
  obtain ⟨-, hpred, -⟩ := longBytes_window tw (-1)
  obtain ⟨-, -, hsucc⟩ := longBytes_window tw 1
  simp only [findCounter, List.findSome?_cons, List.findSome?_nil, htags 0 tw (h0 rfl),
    htags (-1) (wrappingPred tw) (hpred rfl), htags 1 (wrappingAdd tw 1) (hsucc rfl)]

/-- The triples whose tags the search compares. -/
def searched (tw : Nat) (c : AivpnCrypto) : Set (Key × Nat × Nat) :=
  { x | x.1 = c.tagSecret ∧ x.2.1 ∈ c.searchCounters ∧
    x.2.2 ∈ [tw, wrappingPred tw, wrappingAdd tw 1] }

/-- A new counter in reach is found by the tag of its datagram. -/
theorem findCounter_eq_some {tw n t : Nat} {D : Set (Key × Nat × Nat)}
    (hD : P.CollisionFree D) {c : AivpnCrypto} (hsearched : c.searched tw ⊆ D)
    (hnew : c.isCounterNew n = true) (ht : (c.tagSecret, n, t) ∈ c.searched tw) :
    findCounter P tw (P.generateResonanceTag c.tagSecret n t) c = some n := by
  obtain ⟨-, hn, hwindow⟩ := ht
  simp only at hn hwindow
  rw [findCounter_eq]
  have hsome : ([tw, wrappingPred tw, wrappingAdd tw 1].findSome? fun w =>
      c.searchCounters.find? fun counter : Nat => c.isCounterNew counter &&
        decide (P.generateResonanceTag c.tagSecret counter w =
          P.generateResonanceTag c.tagSecret n t)).isSome := by
    rw [List.findSome?_isSome_iff]
    refine ⟨t, hwindow, ?_⟩
    rw [List.find?_isSome]
    exact ⟨n, hn, by simp [hnew]⟩
  obtain ⟨n', hn'⟩ := Option.isSome_iff_exists.1 hsome
  obtain ⟨w, hw, hfind⟩ := List.exists_of_findSome?_eq_some hn'
  have hmem := List.mem_of_find?_eq_some hfind
  have htag := List.find?_some hfind
  simp only [Bool.and_eq_true, decide_eq_true_eq] at htag
  -- the counter found has the tag of `n`, and both triples are in `D`
  have hleft : (c.tagSecret, n', w) ∈ D := hsearched ⟨rfl, hmem, hw⟩
  have hright : (c.tagSecret, n, t) ∈ D := hsearched ⟨rfl, hn, hwindow⟩
  have htriple := hD hleft hright htag.2
  simp only [Prod.mk.injEq, true_and] at htriple
  rw [hn', htriple.1]

theorem copyOfRange_eq {data : Bytes} (lo hi : Nat) (h : lo ≤ hi) (h' : hi ≤ data.length) :
    copyOfRange data lo hi = some ((data.drop lo).take (hi - lo)) := by
  unfold copyOfRange
  rw [if_pos (by omega), Int.toNat_natCast, Int.toNat_natCast]

theorem parseControl_serverHello (serverEphPub : Key) (signature : ByteArr 64) :
    parseControl (ControlPayload.serverHello serverEphPub signature).encode =
      some serverEphPub := by
  set control := (ControlPayload.serverHello serverEphPub signature).encode with hcontrol
  have hcons : control = 9 :: (serverEphPub.toList ++ signature.toList) := rfl
  have hlen : control.length = 97 := by
    rw [hcons, List.length_cons, List.length_append, ByteArr.length_toList, ByteArr.length_toList]
  have hcopy : copyOfRange control 1 33 = some serverEphPub.toList := by
    refine (copyOfRange_eq 1 33 (by omega) (by omega)).trans ?_
    rw [hcons, List.drop_succ_cons, List.drop_zero, List.take_left' (by rw [ByteArr.length_toList])]
  unfold parseControl
  rw [if_neg (by rw [hcons]; simp), if_neg (by rw [hcons]; simp), if_neg (by omega), hcopy,
    Option.map_some, readArray_toList]

theorem parseInner_control (seqNum : UInt16) (payload : Bytes) :
    parseInner ((InnerHeader.mk .control seqNum).encode ++ payload) = parseControl payload := by
  obtain ⟨b0, b1, hseq, -⟩ := u16Of_u16Bytes seqNum
  have hbytes : (InnerHeader.mk .control seqNum).encode ++ payload =
      [2, 0, b0, b1] ++ payload := by
    simp only [InnerHeader.encode, hseq]
    rfl
  rw [hbytes]
  have hlen : ([2, 0, b0, b1] ++ payload).length = payload.length + 4 := by
    simp only [List.length_append, List.length_cons, List.length_nil]
    omega
  have hcopy : copyOfRange ([2, 0, b0, b1] ++ payload) 4 ([2, 0, b0, b1] ++ payload).length =
      some payload := by
    refine (copyOfRange_eq 4 _ (by omega) le_rfl).trans ?_
    rw [List.drop_left' (by rfl), List.take_of_length_le (by omega)]
  unfold parseInner
  rw [if_neg (by omega), if_neg (by simp), hcopy, Option.bind_some]

/-- The parser undoes the padding. -/
theorem parseServerHello_padPlaintext (inner : Bytes) {padding : Bytes}
    (hpad : padding.length < 65536) :
    parseServerHello (padPlaintext inner padding) = parseInner inner := by
  have hpadLen : (((padPlaintext inner padding).getD 0 0).toNat : Int) +
      256 * ((padPlaintext inner padding).getD 1 0).toNat = padding.length := by
    have htake : ((padPlaintext inner padding).getD 0 0).toNat +
        256 * ((padPlaintext inner padding).getD 1 0).toNat = padding.length :=
      leNat_take_padPlaintext inner hpad
    omega
  have hlen := length_padPlaintext inner padding
  have hcopy : copyOfRange (padPlaintext inner padding) 2
      ((padPlaintext inner padding).length - (padding.length : Int)) = some inner := by
    have hcast : ((padPlaintext inner padding).length : Int) - padding.length =
        (((padPlaintext inner padding).length - padding.length : Nat) : Int) := by omega
    rw [hcast]
    refine (copyOfRange_eq 2 _ (by omega) (by omega)).trans ?_
    rw [← List.drop_take, drop_take_padPlaintext]
  unfold parseServerHello
  rw [if_neg (by omega)]
  simp only [hpadLen, hcopy, Option.bind_some]

/-- The client that the constructor makes, unless X25519 gives zero. -/
theorem init_eq {serverPub random : Key} (psk : Option Key)
    (hpub : (P.fromPrivateKey random).publicKeyBytes ≠ ByteArr.replicate 32 0)
    (hdh : P.x25519 (P.fromPrivateKey random).privateKeyBytes serverPub ≠
      ByteArr.replicate 32 0) :
    ∃ c, init P serverPub psk random = some c ∧ c.serverStaticPub = serverPub ∧
      c.clientPrivate = (P.fromPrivateKey random).privateKeyBytes ∧
      c.clientPublic = (P.fromPrivateKey random).publicKeyBytes ∧
      c.sessionKey = (P.deriveSessionKeys
        (P.x25519 (P.fromPrivateKey random).privateKeyBytes serverPub) psk
        (P.fromPrivateKey random).publicKeyBytes).sessionKey ∧
      c.tagSecret = (P.deriveSessionKeys
        (P.x25519 (P.fromPrivateKey random).privateKeyBytes serverPub) psk
        (P.fromPrivateKey random).publicKeyBytes).tagSecret := by
  have hpub' : x25519ScalarMult P (clamp random) basepoint =
      some (P.fromPrivateKey random).publicKeyBytes := if_neg hpub
  have hdh' : x25519ScalarMult P (clamp random) serverPub =
      some (P.x25519 (P.fromPrivateKey random).privateKeyBytes serverPub) := if_neg hdh
  unfold init
  simp only [hpub', hdh', bind, Option.bind_some]
  exact ⟨_, rfl, rfl, rfl, rfl, rfl, rfl⟩

/-- The ServerHello of the gateway is taken when the search finds its counter, and the new keys are
those of `derive_session_keys`. -/
theorem processServerHello_of_found {tw t n : Nat} {keys : SessionKeys} {c : AivpnCrypto}
    (hsession : c.sessionKey = keys.sessionKey)
    (hfind : findCounter P tw (P.generateResonanceTag keys.tagSecret n t) c = some n)
    (haead : ∀ nonce p, P.decrypt keys.sessionKey nonce (P.encrypt keys.sessionKey nonce p) = some p)
    (seqNum : UInt16) (serverEphPub : Key) (signature : ByteArr 64) {padding : Bytes}
    (hpad : padding.length < 65536)
    (hdh : P.x25519 c.clientPrivate serverEphPub ≠ ByteArr.replicate 32 0) :
    let packet := assemble P t keys n [0, 0, 0, 0] (padPlaintext
      ((InnerHeader.mk .control seqNum).encode ++
        (ControlPayload.serverHello serverEphPub signature).encode) padding)
    let next := P.deriveSessionKeys (P.x25519 c.clientPrivate serverEphPub)
      (some keys.sessionKey) c.clientPublic
    (processServerHello P tw packet c).1 = true ∧
      (processServerHello P tw packet c).2.sessionKey = next.sessionKey ∧
      (processServerHello P tw packet c).2.tagSecret = next.tagSecret := by
  intro packet next
  have hdrop : packet.drop 12 = P.encrypt keys.sessionKey (Aivpn.counterToNonce n) (padPlaintext
      ((InnerHeader.mk .control seqNum).encode ++
        (ControlPayload.serverHello serverEphPub signature).encode) padding) :=
    drop_assemble P t keys n [0, 0, 0, 0] _
  have hlen : 12 ≤ packet.length := by
    show 12 ≤ (assemble P t keys n [0, 0, 0, 0] _).length
    unfold assemble
    rw [List.length_append, List.length_append, ByteArr.length_toList]
    exact Nat.le_add_right 12 _
  -- the two copies of the packet are its tag and its ciphertext
  have htagCopy : copyOfRange packet 0 8 = some (packet.take 8) := by
    refine (copyOfRange_eq 0 8 (by omega) (by omega)).trans ?_
    rfl
  have hbodyCopy : copyOfRange packet 12 packet.length = some (packet.drop 12) := by
    refine (copyOfRange_eq 12 _ hlen le_rfl).trans ?_
    rw [List.take_of_length_le (by simp)]
  have hreadTake : (readArray 8 0 (packet.take 8) : Tag) =
      P.generateResonanceTag keys.tagSecret n t := by
    have htake : packet.take 8 = (P.generateResonanceTag keys.tagSecret n t).toList := by
      show (assemble P t keys n [0, 0, 0, 0] _).take 8 = _
      unfold assemble
      rw [List.append_assoc, List.take_left' (ByteArr.length_toList _)]
    rw [htake, readArray_toList]
  -- the tag is found, the ciphertext opens, and the control message parses
  have hratchet : ratchetOnServerHello P tw packet c = some { deriveKeys P
      (P.x25519 c.clientPrivate serverEphPub) c.clientPublic (some c.sessionKey) c with
        sendCounter := 0, recvHighest := -1, recvWindow := 0#64 } := by
    unfold ratchetOnServerHello
    rw [htagCopy, hbodyCopy, hdrop]
    simp only [bind, Option.bind_some, hreadTake, hfind, hsession, counterToNonce_eq, haead,
      parseServerHello_padPlaintext _ hpad, parseInner_control, parseControl_serverHello,
      x25519ScalarMult, hdh, if_false]
    rfl
  unfold processServerHello
  rw [hratchet, hsession]
  exact ⟨rfl, rfl, rfl⟩

end AivpnCrypto

end Aivpn
