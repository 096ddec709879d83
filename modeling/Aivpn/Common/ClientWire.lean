import Aivpn.Common.Protocol
import Aivpn.Lib.WideBits

/-!
# The client's side of the wire

`client_wire.rs`: the receive window with its search for a datagram's counter, the builder of
packets with a zero header, and the decoder. The time window is an argument. The random choices
of a builder are the fields of `PacketRandomness`.
-/

set_option autoImplicit false

namespace Aivpn

open Aivpn.Lib

/-! ## Receive window -/

/-- `RECV_REORDER_WINDOW`. -/
def recvReorderWindow : Nat := 256

/-- `RECV_FUTURE_SEARCH_WINDOW`. -/
def recvFutureSearchWindow : Nat := 4096

/-- `Bitset256`: two 128-bit words. -/
abbrev Bitset256 := WideBits 128

namespace Bitset256

/-- `Bitset256::new`. -/
def new : Bitset256 := ⟨0#128, 0#128⟩

/-- `Bitset256::shl`. -/
def shl (b : Bitset256) (shift : Nat) : Bitset256 :=
  if 256 ≤ shift then new
  else if shift = 0 then b
  else if 128 ≤ shift then { lo := 0#128, hi := b.lo <<< (shift - 128) }
  else { lo := b.lo <<< shift, hi := (b.hi <<< shift) ||| (b.lo >>> (128 - shift)) }

/-- `Bitset256::set_bit`. -/
def setBit (b : Bitset256) (bit : Nat) : Bitset256 :=
  if bit < 128 then { b with lo := b.lo ||| (1#128 <<< bit) }
  else if bit < 256 then { b with hi := b.hi ||| (1#128 <<< (bit - 128)) }
  else b

/-- `Bitset256::get_bit`. -/
def getBit (b : Bitset256) (bit : Nat) : Bool :=
  if bit < 128 then (b.lo >>> bit) &&& 1#128 == 1#128
  else if bit < 256 then (b.hi >>> (bit - 128)) &&& 1#128 == 1#128
  else false

end Bitset256

/-- `u64 as i64`. -/
def asI64 (n : Nat) : Int := if n < 2 ^ 63 then n else (n : Int) - 2 ^ 64

/-- `RecvWindow`. `highest` is an `i64`, negative while nothing has been received. -/
structure RecvWindow where
  highest : Int
  bitmap : Bitset256
deriving DecidableEq

namespace RecvWindow

/-- `RecvWindow::new`, and the state after `RecvWindow::reset`. -/
def new : RecvWindow := ⟨-1, Bitset256.new⟩

/-- `RecvWindow::is_new`. -/
def isNew (w : RecvWindow) (counter : Nat) : Bool :=
  if w.highest < 0 then true
  else
    let highest := w.highest.toNat
    if counter > highest then true
    else if recvReorderWindow ≤ highest - counter then false
    else !w.bitmap.getBit (highest - counter)

/-- `RecvWindow::mark`. -/
def mark (w : RecvWindow) (counter : Nat) : RecvWindow :=
  if w.highest < 0 ∨ counter > w.highest.toNat then
    let shift := if w.highest < 0 then recvReorderWindow else counter - w.highest.toNat
    { highest := asI64 counter
      bitmap := if recvReorderWindow ≤ shift then Bitset256.new.setBit 0
        else (w.bitmap.shl shift).setBit 0 }
  else
    let diff := w.highest.toNat - counter
    if diff < recvReorderWindow then { w with bitmap := w.bitmap.setBit diff } else w

/-- The first counter that `find_counter` tries. -/
def searchStart (w : RecvWindow) : Nat :=
  if w.highest < 0 then 0 else w.highest.toNat - (recvReorderWindow - 1)

/-- The counter before which `find_counter` stops. -/
def searchEnd (w : RecvWindow) : Nat :=
  if w.highest < 0 then recvFutureSearchWindow
  else max recvFutureSearchWindow (w.highest.toNat + recvFutureSearchWindow + 1)

/-- `RecvWindow::find_counter` in time window `tw`. -/
def findCounter (P : Primitives) (tw : Nat) (w : RecvWindow) (tag : Tag) (keys : SessionKeys) :
    Option Nat :=
  [tw, wrappingPred tw, wrappingAdd tw 1].findSome? fun twOffset =>
    (List.range' w.searchStart (w.searchEnd - w.searchStart)).find? fun counter =>
      w.isNew counter && decide (P.generateResonanceTag keys.tagSecret counter twOffset = tag)

end RecvWindow

/-! ## Builders -/

/-- The random choices for one packet: a drawn number, the size drawn from the mask's
distribution, and the padding bytes. -/
structure PacketRandomness where
  draw : Nat
  targetSize : UInt16
  byte : Nat → UInt8

/-- `n` random bytes. -/
def PacketRandomness.fill (r : PacketRandomness) (n : Nat) : Bytes := (List.range n).map r.byte

@[simp] theorem PacketRandomness.length_fill (r : PacketRandomness) (n : Nat) :
    (r.fill n).length = n := by
  simp [fill]

/-- `build_inner_packet`. -/
def buildInnerPacket (innerType : InnerType) (seqNum : UInt16) (payload : Bytes) : Bytes :=
  u16Bytes innerType.toU16 ++ u16Bytes seqNum ++ payload

theorem buildInnerPacket_eq (innerType : InnerType) (seqNum : UInt16) (payload : Bytes) :
    buildInnerPacket innerType seqNum payload =
      (InnerHeader.mk innerType seqNum).encode ++ payload := rfl

/-- `DEFAULT_ZERO_MDH`. -/
def defaultZeroMdh : Bytes := [0, 0, 0, 0]

/-- A datagram for `counter`: tag, header, ciphertext. All builders of the client assemble it this
way. -/
def assemble (P : Primitives) (tw : Nat) (keys : SessionKeys) (counter : Nat) (header : Bytes)
    (padded : Bytes) : Bytes :=
  (P.generateResonanceTag keys.tagSecret counter tw).toList ++ header ++
    P.encryptPayload keys.sessionKey (counterToNonce counter) padded

theorem drop_assemble (P : Primitives) (tw : Nat) (keys : SessionKeys) (counter : Nat)
    (header padded : Bytes) :
    (assemble P tw keys counter header padded).drop (tagSize + header.length) =
      P.encrypt keys.sessionKey (counterToNonce counter) padded := by
  unfold assemble
  exact List.drop_left' (by simp [tagSize])

theorem readArray_assemble (P : Primitives) (tw : Nat) (keys : SessionKeys) (counter : Nat)
    (header padded : Bytes) :
    readArray 8 0 (assemble P tw keys counter header padded) =
      P.generateResonanceTag keys.tagSecret counter tw := by
  have hread := readArray_append_toList [] (P.generateResonanceTag keys.tagSecret counter tw)
    (header ++ P.encryptPayload keys.sessionKey (counterToNonce counter) padded) rfl
  unfold assemble
  rw [List.append_assoc]
  exact hread

/-- The header of a packet with an optional embedded key. -/
def withEphPub (header : Bytes) : Option Key → Bytes
  | some eph => header ++ eph.toList
  | none => header

/-- The padded plaintext of `build_zero_mdh_packet`: 8 to 23 random bytes of padding. -/
def zeroMdhPlaintext (r : PacketRandomness) (inner : Bytes) : Bytes :=
  padPlaintext inner (r.fill (8 + r.draw % 16))

/-- `build_zero_mdh_packet`: the packet and the advanced counter. -/
def buildZeroMdhPacket (P : Primitives) (tw : Nat) (r : PacketRandomness) (keys : SessionKeys)
    (counter : Nat) (inner : Bytes) (obfuscatedEphPub : Option Key) : Bytes × Nat :=
  (assemble P tw keys counter (withEphPub defaultZeroMdh obfuscatedEphPub)
    (zeroMdhPlaintext r inner), wrappingAdd counter 1)

/-- `obfuscate_client_eph_pub`. -/
def obfuscateClientEphPub (P : Primitives) (keypair : KeyPair) (serverPublicKey : Key) : Key :=
  P.obfuscateEphPub keypair.publicKeyBytes serverPublicKey

/-! ## Decoder -/

/-- `DecodedPacket`. -/
structure DecodedPacket where
  counter : Nat
  header : InnerHeader
  payload : Bytes
deriving DecidableEq, Repr

/-- The part of `decode_packet_with_mdh_len` behind the decryption. -/
def decodePadded (counter : Nat) (padded : Bytes) : Outcome DecodedPacket :=
  if padded.length < 2 then err (.invalidPacket "Decrypted payload too short")
  else
    let padLen := leNat (padded.take 2)
    if padded.length < padLen then err (.invalidPacket "Invalid padding length")
    else if padded.length - padLen < 2 then err (.invalidPacket "Invalid padding length")
    else
      let inner := (padded.take (padded.length - padLen)).drop 2
      if inner.length < 4 then err (.invalidPacket "Inner payload too short")
      else do
        let header ← InnerHeader.decode inner
        pure ⟨counter, header, inner.drop 4⟩

/-- `decode_packet_with_mdh_len`: the packet and the receive window afterwards. -/
def decodePacketWithMdhLen (P : Primitives) (tw : Nat) (packet : Bytes) (keys : SessionKeys)
    (recvWindow : RecvWindow) (mdhLen : Nat) : Outcome DecodedPacket × RecvWindow :=
  if packet.length < tagSize + mdhLen + 16 then
    (err (.invalidPacket "Packet too short"), recvWindow)
  else match recvWindow.findCounter P tw (readArray 8 0 packet) keys with
    | none => (err (.invalidPacket "Invalid resonance tag"), recvWindow)
    | some counter =>
        match P.decryptPayload keys.sessionKey (counterToNonce counter)
            (packet.drop (tagSize + mdhLen)) with
        | .error e => (err e, recvWindow)
        | .ok padded => (decodePadded counter padded, recvWindow.mark counter)

/-- `process_server_hello_with_mdh_len`: the keys, the receive window and the send counter
afterwards. -/
def processServerHelloWithMdhLen (P : Primitives) (tw : Nat) (packet : Bytes) (keys : SessionKeys)
    (keypair : KeyPair) (recvWindow : RecvWindow) (sendCounter mdhLen : Nat) :
    Outcome Unit × SessionKeys × RecvWindow × Nat :=
  match decodePacketWithMdhLen P tw packet keys recvWindow mdhLen with
  | (.error e, w) => (.error e, keys, w, sendCounter)
  | (.ok decoded, w) =>
      if decoded.header.innerType ≠ .control then
        (err (.invalidPacket "Expected control packet for ServerHello"), keys, w, sendCounter)
      else match ControlPayload.decode decoded.payload with
        | .error e => (.error e, keys, w, sendCounter)
        | .ok (.serverHello serverEphPub _) =>
            match P.computeShared keypair serverEphPub with
            | .error e => (err e, keys, w, sendCounter)
            | .ok dh2 => (.ok (), P.deriveSessionKeys dh2 (some keys.sessionKey)
                keypair.publicKeyBytes, RecvWindow.new, 0)
        | .ok _ =>
            (err (.invalidPacket "Expected ServerHello control payload"), keys, w, sendCounter)

/-- What a ServerHello that is taken does. -/
theorem processServerHelloWithMdhLen_ok {P : Primitives} {tw sendCounter mdhLen n : Nat}
    {packet : Bytes} {keys keys' : SessionKeys} {keypair : KeyPair} {recvWindow w : RecvWindow}
    (h : processServerHelloWithMdhLen P tw packet keys keypair recvWindow sendCounter mdhLen =
      (.ok (), keys', w, n)) :
    ∃ decoded serverEphPub signature,
      (decodePacketWithMdhLen P tw packet keys recvWindow mdhLen).1 = .ok decoded ∧
      ControlPayload.decode decoded.payload = .ok (.serverHello serverEphPub signature) ∧
      keys' = P.deriveSessionKeys (P.x25519 keypair.privateKeyBytes serverEphPub)
        (some keys.sessionKey) keypair.publicKeyBytes ∧ w = RecvWindow.new ∧ n = 0 := by
  unfold processServerHelloWithMdhLen at h
  rcases hdec : decodePacketWithMdhLen P tw packet keys recvWindow mdhLen with ⟨r, w'⟩
  rw [hdec] at h
  cases r with
  | error e => cases h
  | ok decoded =>
      simp only at h
      split_ifs at h with htype
      · cases h
      · split at h
        · cases h
        · next serverEphPub signature hctl =>
            split at h
            · cases h
            · next dh2 hdh2 =>
                cases h
                obtain rfl := computeShared_eq hdh2
                exact ⟨decoded, serverEphPub, signature, rfl, hctl, rfl, rfl, rfl⟩
        · cases h

/-- Padding is undone by the decoder. -/
theorem decodePadded_padPlaintext (counter : Nat) (header : InnerHeader) (payload padding : Bytes)
    (hpad : padding.length < 65536) :
    decodePadded counter (padPlaintext (header.encode ++ payload) padding) =
      .ok ⟨counter, header, payload⟩ := by
  unfold decodePadded
  simp only [leNat_take_padPlaintext _ hpad, drop_take_padPlaintext]
  rw [length_padPlaintext, if_neg (by omega), if_neg (by omega), if_neg (by omega),
    if_neg (by simp), InnerHeader.decode_encode_append]
  simp [bind, Except.bind, pure, Except.pure]

end Aivpn
