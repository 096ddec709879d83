import Aivpn.Common.Crypto

/-!
# Wire protocol of `aivpn-common`

Inner headers and control messages of `protocol.rs`. Decoders read their input through
checked access, so an index or a slice outside the input shows as a panic.

`ControlPayload.decode` reads fixed fields behind hand-written length checks. Every
subtype's check covers its reads except that of a key rotation, which copies 32 bytes after
checking only the length that the message itself declares; `decode_returns_iff` says on
which inputs that panics.
-/

set_option autoImplicit false

namespace Aivpn

open Aivpn.Lib

/-! ## Inner header -/

/-- `InnerType`. -/
inductive InnerType where
  | data
  | control
  | fragment
  | ack
deriving DecidableEq, Repr

namespace InnerType

/-- The discriminants of the `repr(u16)` enumeration. -/
def toU16 : InnerType → UInt16
  | data => 1
  | control => 2
  | fragment => 3
  | ack => 4

/-- `InnerType::from_u16`. -/
def fromU16 (value : UInt16) : Option InnerType :=
  if value = 1 then some data
  else if value = 2 then some control
  else if value = 3 then some fragment
  else if value = 4 then some ack
  else none

@[simp] theorem fromU16_toU16 (t : InnerType) : fromU16 t.toU16 = some t := by
  cases t <;> rfl

end InnerType

/-- `u16::to_le_bytes`. -/
def u16Bytes (n : UInt16) : Bytes := leBytes 2 n.toNat

/-- `u16::from_le_bytes`. -/
def u16Of (b0 b1 : UInt8) : UInt16 := UInt16.ofNat (leNat [b0, b1])

theorem u16Of_u16Bytes (n : UInt16) :
    ∃ b0 b1, u16Bytes n = [b0, b1] ∧ u16Of b0 b1 = n := by
  refine ⟨UInt8.ofNat (n.toNat % 256), UInt8.ofNat (n.toNat / 256 % 256), rfl, ?_⟩
  have h := leNat_leBytes 2 n.toNat
  have hn : n.toNat < 65536 := n.toNat_lt
  rw [Nat.mod_eq_of_lt (by omega)] at h
  show UInt16.ofNat (leNat (leBytes 2 n.toNat)) = n
  rw [h]
  exact UInt16.ofNat_toNat

/-- `InnerHeader`. -/
structure InnerHeader where
  innerType : InnerType
  seqNum : UInt16
deriving DecidableEq, Repr

namespace InnerHeader

/-- `InnerHeader::encode`. -/
def encode (h : InnerHeader) : Bytes := u16Bytes h.innerType.toU16 ++ u16Bytes h.seqNum

/-- `InnerHeader::decode`. -/
def decode (data : Bytes) : Outcome InnerHeader :=
  if data.length < 4 then err (.invalidPacket "Inner header too short")
  else do
    let b0 ← index data 0
    let b1 ← index data 1
    match InnerType.fromU16 (u16Of b0 b1) with
    | none => err (.invalidPacket "Unknown inner type")
    | some innerType => do
        let b2 ← index data 2
        let b3 ← index data 3
        pure ⟨innerType, u16Of b2 b3⟩

@[simp] theorem length_encode (h : InnerHeader) : h.encode.length = 4 := by
  simp [encode, u16Bytes]

/-- Decoding a header followed by any payload gives the header back. -/
theorem decode_encode_append (h : InnerHeader) (payload : Bytes) :
    decode (h.encode ++ payload) = .ok h := by
  obtain ⟨t0, t1, ht, ht'⟩ := u16Of_u16Bytes h.innerType.toU16
  obtain ⟨s0, s1, hs, hs'⟩ := u16Of_u16Bytes h.seqNum
  have he : h.encode ++ payload = t0 :: t1 :: s0 :: s1 :: payload := by
    simp [encode, ht, hs]
  have hlen : ¬ (t0 :: t1 :: s0 :: s1 :: payload).length < 4 := by simp
  rw [he, decode, if_neg hlen]
  simp [index, bind, Except.bind, pure, Except.pure, ht', hs']

end InnerHeader

/-- `pad_len ‖ inner ‖ padding`: the plaintext of a datagram. The length of the padding is a
`u16`. -/
def padPlaintext (inner padding : Bytes) : Bytes := leBytes 2 padding.length ++ inner ++ padding

@[simp] theorem length_padPlaintext (inner padding : Bytes) :
    (padPlaintext inner padding).length = 2 + inner.length + padding.length := by
  simp [padPlaintext]
  omega

theorem leNat_take_padPlaintext (inner : Bytes) {padding : Bytes} (hpad : padding.length < 65536) :
    leNat ((padPlaintext inner padding).take 2) = padding.length := by
  unfold padPlaintext
  rw [List.append_assoc, List.take_left' (by simp), leNat_leBytes, Nat.mod_eq_of_lt (by omega)]

/-- Without `pad_len` and padding the inner packet is left. -/
theorem drop_take_padPlaintext (inner padding : Bytes) :
    ((padPlaintext inner padding).take
      ((padPlaintext inner padding).length - padding.length)).drop 2 = inner := by
  rw [length_padPlaintext, Nat.add_sub_cancel]
  unfold padPlaintext
  rw [List.take_left' (by simp), List.drop_left' (by simp)]

/-! ## Control messages -/

/-- `ControlSubtype`. -/
inductive ControlSubtype where
  | keyRotate
  | maskUpdate
  | keepalive
  | telemetryRequest
  | telemetryResponse
  | timeSync
  | shutdown
  | controlAck
  | serverHello
deriving DecidableEq, Repr

namespace ControlSubtype

/-- The discriminants of the `repr(u8)` enumeration. -/
def toU8 : ControlSubtype → UInt8
  | keyRotate => 0x01
  | maskUpdate => 0x02
  | keepalive => 0x03
  | telemetryRequest => 0x04
  | telemetryResponse => 0x05
  | timeSync => 0x06
  | shutdown => 0x07
  | controlAck => 0x08
  | serverHello => 0x09

/-- `ControlSubtype::from_u8`. -/
def fromU8 (value : UInt8) : Option ControlSubtype :=
  if value = 0x01 then some keyRotate
  else if value = 0x02 then some maskUpdate
  else if value = 0x03 then some keepalive
  else if value = 0x04 then some telemetryRequest
  else if value = 0x05 then some telemetryResponse
  else if value = 0x06 then some timeSync
  else if value = 0x07 then some shutdown
  else if value = 0x08 then some controlAck
  else if value = 0x09 then some serverHello
  else none

theorem fromU8_eq_some_iff (value : UInt8) (t : ControlSubtype) :
    fromU8 value = some t ↔ value = t.toU8 := by
  constructor
  · intro h
    unfold fromU8 at h
    split_ifs at h with h1 h2 h3 h4 h5 h6 h7 h8 h9 <;> cases h <;> assumption
  · rintro rfl
    cases t <;> rfl

end ControlSubtype

/-- `ControlPayload`. -/
inductive ControlPayload where
  | keyRotate (newEphPub : Key)
  | maskUpdate (maskData : Bytes) (signature : ByteArr 64)
  | keepalive
  | telemetryRequest (metricFlags : UInt8)
  | telemetryResponse (packetLoss rttMs jitterMs : UInt16) (bufferPct : UInt8)
  | timeSync (serverTsMs : UInt64)
  | shutdown (reason : UInt8)
  | controlAck (ackSeq : UInt16) (ackForSubtype : UInt8)
  | serverHello (serverEphPub : Key) (signature : ByteArr 64)
deriving DecidableEq, Repr

namespace ControlPayload

/-- `ControlPayload::encode`, which always returns `Ok`. The length of the mask data is cast
to `u16`. -/
def encode : ControlPayload → Bytes
  | keyRotate newEphPub =>
      [ControlSubtype.keyRotate.toU8, 0] ++ leBytes 2 32 ++ newEphPub.toList
  | maskUpdate maskData signature =>
      [ControlSubtype.maskUpdate.toU8] ++ leBytes 2 (maskData.length % 65536) ++ maskData
        ++ signature.toList
  | keepalive => [ControlSubtype.keepalive.toU8]
  | telemetryRequest metricFlags => [ControlSubtype.telemetryRequest.toU8, metricFlags]
  | telemetryResponse packetLoss rttMs jitterMs bufferPct =>
      [ControlSubtype.telemetryResponse.toU8, 0] ++ u16Bytes packetLoss ++ u16Bytes rttMs
        ++ u16Bytes jitterMs ++ [bufferPct] ++ [0, 0, 0]
  | timeSync serverTsMs => [ControlSubtype.timeSync.toU8] ++ leBytes 8 serverTsMs.toNat
  | shutdown reason => [ControlSubtype.shutdown.toU8, reason]
  | controlAck ackSeq ackForSubtype =>
      [ControlSubtype.controlAck.toU8] ++ u16Bytes ackSeq ++ [ackForSubtype]
  | serverHello serverEphPub signature =>
      [ControlSubtype.serverHello.toU8] ++ serverEphPub.toList ++ signature.toList

/-- The key rotation arm of `decode`: the declared length is checked, 32 bytes are copied. -/
def decodeKeyRotate (data : Bytes) : Outcome ControlPayload :=
  if data.length < 6 then err (.invalidPacket "KeyRotate too short")
  else do
    let b2 ← index data 2
    let b3 ← index data 3
    let newEphPubLen := leNat [b2, b3]
    if data.length < 4 + newEphPubLen then err (.invalidPacket "KeyRotate invalid length")
    else do
      let bytes ← slice data 4 (4 + 32)
      let newEphPub ← copyFromSlice 32 bytes
      pure (keyRotate newEphPub)

/-- The mask update arm of `decode`. -/
def decodeMaskUpdate (data : Bytes) : Outcome ControlPayload :=
  if data.length < 4 then err (.invalidPacket "MaskUpdate too short")
  else do
    let b1 ← index data 1
    let b2 ← index data 2
    let maskLen := leNat [b1, b2]
    if data.length < 3 + maskLen + 64 then err (.invalidPacket "MaskUpdate invalid length")
    else do
      let maskData ← slice data 3 (3 + maskLen)
      let bytes ← slice data (3 + maskLen) (3 + maskLen + 64)
      let signature ← copyFromSlice 64 bytes
      pure (maskUpdate maskData signature)

/-- The telemetry request arm of `decode`. -/
def decodeTelemetryRequest (data : Bytes) : Outcome ControlPayload :=
  if data.length < 2 then err (.invalidPacket "TelemetryRequest too short")
  else do
    let metricFlags ← index data 1
    pure (telemetryRequest metricFlags)

/-- The telemetry response arm of `decode`. -/
def decodeTelemetryResponse (data : Bytes) : Outcome ControlPayload :=
  if data.length < 12 then err (.invalidPacket "TelemetryResponse too short")
  else do
    let b2 ← index data 2
    let b3 ← index data 3
    let b4 ← index data 4
    let b5 ← index data 5
    let b6 ← index data 6
    let b7 ← index data 7
    let bufferPct ← index data 8
    pure (telemetryResponse (u16Of b2 b3) (u16Of b4 b5) (u16Of b6 b7) bufferPct)

/-- The time synchronisation arm of `decode`. -/
def decodeTimeSync (data : Bytes) : Outcome ControlPayload :=
  if data.length < 9 then err (.invalidPacket "TimeSync too short")
  else do
    let bytes ← slice data 1 9
    let arr ← copyFromSlice 8 bytes
    pure (timeSync (UInt64.ofNat (leNat arr.toList)))

/-- The shutdown arm of `decode`. -/
def decodeShutdown (data : Bytes) : Outcome ControlPayload :=
  if data.length < 2 then err (.invalidPacket "Shutdown too short")
  else do
    let reason ← index data 1
    pure (shutdown reason)

/-- The acknowledgement arm of `decode`. -/
def decodeControlAck (data : Bytes) : Outcome ControlPayload :=
  if data.length < 4 then err (.invalidPacket "ControlAck too short")
  else do
    let b1 ← index data 1
    let b2 ← index data 2
    let ackForSubtype ← index data 3
    pure (controlAck (u16Of b1 b2) ackForSubtype)

/-- The server hello arm of `decode`. -/
def decodeServerHello (data : Bytes) : Outcome ControlPayload :=
  if data.length < 1 + 32 + 64 then err (.invalidPacket "ServerHello too short")
  else do
    let ephBytes ← slice data 1 33
    let serverEphPub ← copyFromSlice 32 ephBytes
    let sigBytes ← slice data 33 97
    let signature ← copyFromSlice 64 sigBytes
    pure (serverHello serverEphPub signature)

/-- `ControlPayload::decode`. -/
def decode (data : Bytes) : Outcome ControlPayload :=
  if data.isEmpty then err (.invalidPacket "Empty control payload")
  else do
    let b0 ← index data 0
    match ControlSubtype.fromU8 b0 with
    | none => err (.invalidPacket "Unknown control subtype")
    | some .keyRotate => decodeKeyRotate data
    | some .maskUpdate => decodeMaskUpdate data
    | some .keepalive => pure keepalive
    | some .telemetryRequest => decodeTelemetryRequest data
    | some .telemetryResponse => decodeTelemetryResponse data
    | some .timeSync => decodeTimeSync data
    | some .shutdown => decodeShutdown data
    | some .controlAck => decodeControlAck data
    | some .serverHello => decodeServerHello data

/-! ## Totality of the decoder -/

theorem decodeMaskUpdate_returns (data : Bytes) : Returns (decodeMaskUpdate data) := by
  unfold decodeMaskUpdate
  split_ifs with h
  · exact returns_error _
  · rw [index_of_lt (show 1 < data.length by omega), index_of_lt (show 2 < data.length by omega),
      ok_bind, ok_bind]
    generalize leNat [data[1], data[2]] = maskLen
    show Returns (if data.length < 3 + maskLen + 64 then _ else _)
    split_ifs with h'
    · exact returns_error _
    · rw [slice_of_le (by omega) (show 3 + maskLen ≤ data.length by omega),
        slice_of_le (by omega) (show 3 + maskLen + 64 ≤ data.length by omega), ok_bind, ok_bind,
        copyFromSlice_of_length (by rw [length_of_slice (by omega)]; omega)]
      exact returns_ok _

theorem decodeTelemetryRequest_returns (data : Bytes) : Returns (decodeTelemetryRequest data) := by
  unfold decodeTelemetryRequest
  split_ifs with h
  · exact returns_error _
  · rw [index_of_lt (show 1 < data.length by omega)]
    exact returns_ok _

theorem decodeTelemetryResponse_returns (data : Bytes) :
    Returns (decodeTelemetryResponse data) := by
  unfold decodeTelemetryResponse
  split_ifs with h
  · exact returns_error _
  · rw [index_of_lt (show 2 < data.length by omega), index_of_lt (show 3 < data.length by omega),
      index_of_lt (show 4 < data.length by omega), index_of_lt (show 5 < data.length by omega),
      index_of_lt (show 6 < data.length by omega), index_of_lt (show 7 < data.length by omega),
      index_of_lt (show 8 < data.length by omega)]
    exact returns_ok _

theorem decodeTimeSync_returns (data : Bytes) : Returns (decodeTimeSync data) := by
  unfold decodeTimeSync
  split_ifs with h
  · exact returns_error _
  · rw [slice_of_le (by omega) (show 9 ≤ data.length by omega), ok_bind,
      copyFromSlice_of_length (by rw [length_of_slice (by omega)])]
    exact returns_ok _

theorem decodeShutdown_returns (data : Bytes) : Returns (decodeShutdown data) := by
  unfold decodeShutdown
  split_ifs with h
  · exact returns_error _
  · rw [index_of_lt (show 1 < data.length by omega)]
    exact returns_ok _

theorem decodeControlAck_returns (data : Bytes) : Returns (decodeControlAck data) := by
  unfold decodeControlAck
  split_ifs with h
  · exact returns_error _
  · rw [index_of_lt (show 1 < data.length by omega), index_of_lt (show 2 < data.length by omega),
      index_of_lt (show 3 < data.length by omega)]
    exact returns_ok _

theorem decodeServerHello_returns (data : Bytes) : Returns (decodeServerHello data) := by
  unfold decodeServerHello
  split_ifs with h
  · exact returns_error _
  · rw [slice_of_le (by omega) (show 33 ≤ data.length by omega), ok_bind,
      copyFromSlice_of_length (by rw [length_of_slice (by omega)]), ok_bind,
      slice_of_le (by omega) (show 97 ≤ data.length by omega), ok_bind,
      copyFromSlice_of_length (by rw [length_of_slice (by omega)])]
    exact returns_ok _

theorem decodeServerHello_encode (serverEphPub : Key) (signature : ByteArr 64) :
    decodeServerHello (serverHello serverEphPub signature).encode =
      .ok (serverHello serverEphPub signature) := by
  set data := (serverHello serverEphPub signature).encode with hdata
  have hcons : data = 9 :: (serverEphPub.toList ++ signature.toList) := rfl
  have hlen : data.length = 97 := by
    rw [hcons, List.length_cons, List.length_append, ByteArr.length_toList, ByteArr.length_toList]
  have hkey : (data.drop 1).take (33 - 1) = serverEphPub.toList := by
    rw [hcons, List.drop_succ_cons, List.drop_zero, List.take_left' (ByteArr.length_toList _)]
  have hsig : (data.drop 33).take (97 - 33) = signature.toList := by
    rw [hcons, List.drop_succ_cons, List.drop_left' (ByteArr.length_toList _),
      List.take_of_length_le (by rw [ByteArr.length_toList])]
  unfold decodeServerHello
  rw [if_neg (by omega), slice_of_le (by omega) (by omega), ok_bind, hkey,
    copyFromSlice_of_length (ByteArr.length_toList _), ok_bind,
    slice_of_le (by omega) (by omega), ok_bind, hsig,
    copyFromSlice_of_length (ByteArr.length_toList _)]
  rfl

/-- A ServerHello is decoded to itself. -/
theorem decode_serverHello_encode (serverEphPub : Key) (signature : ByteArr 64) :
    decode (serverHello serverEphPub signature).encode =
      .ok (serverHello serverEphPub signature) :=
  decodeServerHello_encode serverEphPub signature

/-- The length that a key rotation message declares for its key. -/
def declaredKeyLen (data : Bytes) : Nat := leNat [data.getD 2 0, data.getD 3 0]

/-- A key rotation message that passes both length checks of the decoder and still ends before
the 32 bytes of the key do. -/
def KeyRotateOverrun (data : Bytes) : Prop :=
  data.head? = some ControlSubtype.keyRotate.toU8 ∧ 6 ≤ data.length ∧ data.length < 36 ∧
    4 + declaredKeyLen data ≤ data.length

instance (data : Bytes) : Decidable (KeyRotateOverrun data) :=
  inferInstanceAs (Decidable (_ ∧ _))

theorem decodeKeyRotate_returns_iff (data : Bytes) :
    Returns (decodeKeyRotate data) ↔
      ¬ (6 ≤ data.length ∧ data.length < 36 ∧ 4 + declaredKeyLen data ≤ data.length) := by
  unfold decodeKeyRotate
  split_ifs with h
  · exact iff_of_true (returns_error _) (by omega)
  · have hlen : leNat [data[2], data[3]] = declaredKeyLen data := by
      simp [declaredKeyLen, List.getD_eq_getElem?_getD,
        List.getElem?_eq_getElem (show 2 < data.length by omega),
        List.getElem?_eq_getElem (show 3 < data.length by omega)]
    rw [index_of_lt (show 2 < data.length by omega), index_of_lt (show 3 < data.length by omega),
      ok_bind, ok_bind, hlen]
    show Returns (if data.length < 4 + declaredKeyLen data then _ else _) ↔ _
    split_ifs with h'
    · exact iff_of_true (returns_error _) (by omega)
    · by_cases hkey : data.length < 36
      · rw [slice_of_length_lt (by omega)]
        exact iff_of_false not_returns_panic (by omega)
      · rw [slice_of_le (by omega) (by omega), ok_bind,
          copyFromSlice_of_length (by rw [length_of_slice (by omega)])]
        exact iff_of_true (returns_ok _) (by omega)

/-- The decoder returns on every byte string except the key rotations that overrun. -/
theorem decode_returns_iff (data : Bytes) : Returns (decode data) ↔ ¬ KeyRotateOverrun data := by
  unfold decode KeyRotateOverrun
  cases data with
  | nil => exact iff_of_true (returns_error _) (by simp)
  | cons b0 rest =>
      have hread : index (ε := Error) (b0 :: rest) 0 = .ok b0 := rfl
      simp only [List.isEmpty_cons, Bool.false_eq_true, if_false, hread, ok_bind, List.head?_cons,
        Option.some.injEq]
      cases hsub : ControlSubtype.fromU8 b0 with
      | none =>
          refine iff_of_true (returns_error _) ?_
          rintro ⟨rfl, -⟩
          cases hsub
      | some t =>
          rw [ControlSubtype.fromU8_eq_some_iff] at hsub
          subst hsub
          cases t with
          -- the key of a rotation is sliced without a check of the length
          | keyRotate =>
              simp only [true_and]
              exact decodeKeyRotate_returns_iff _
          | maskUpdate => exact iff_of_true (decodeMaskUpdate_returns _) (by simp [ControlSubtype.toU8])
          | keepalive => exact iff_of_true (returns_ok _) (by simp [ControlSubtype.toU8])
          | telemetryRequest =>
              exact iff_of_true (decodeTelemetryRequest_returns _) (by simp [ControlSubtype.toU8])
          | telemetryResponse =>
              exact iff_of_true (decodeTelemetryResponse_returns _) (by simp [ControlSubtype.toU8])
          | timeSync => exact iff_of_true (decodeTimeSync_returns _) (by simp [ControlSubtype.toU8])
          | shutdown => exact iff_of_true (decodeShutdown_returns _) (by simp [ControlSubtype.toU8])
          | controlAck =>
              exact iff_of_true (decodeControlAck_returns _) (by simp [ControlSubtype.toU8])
          | serverHello =>
              exact iff_of_true (decodeServerHello_returns _) (by simp [ControlSubtype.toU8])

/-- A six-byte key rotation that declares an empty key passes the checks and panics. -/
theorem decode_short_keyRotate_panics : ¬ Returns (decode [1, 0, 0, 0, 0, 0]) := by
  have h : decode [1, 0, 0, 0, 0, 0] = .error .panic := by decide
  rw [h]
  exact not_returns_panic

end ControlPayload

end Aivpn
