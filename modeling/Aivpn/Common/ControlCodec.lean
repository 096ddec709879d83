import Aivpn.Common.Protocol
import Aivpn.Lib.Framing

/-!
# Control messages round trip

A control message is decoded to itself, whatever bytes follow it (`decode_encode_append`). The only
condition is on the mask data of a mask update, whose length is a `u16` on the wire. The codec is
therefore self-delimiting: messages with the same encoding are equal, and no encoding is a proper
prefix of another (`control_roundtrip`).
-/

set_option autoImplicit false

namespace Aivpn

open Aivpn.Lib

namespace ControlPayload

/-- The length of the mask data fits its field. -/
def Encodable : ControlPayload → Prop
  | maskUpdate maskData _ => maskData.length ≤ 65535
  | _ => True

/-! ## Reads behind a known prefix -/

theorem slice_append (pre mid post : Bytes) {lo hi : Nat} (hlo : pre.length = lo)
    (hhi : lo + mid.length = hi) :
    slice (ε := Error) (pre ++ mid ++ post) lo hi = .ok mid := by
  subst hlo hhi
  rw [slice_of_le (Nat.le_add_right _ _) (by simp), List.append_assoc, List.drop_left,
    Nat.add_sub_cancel_left, List.take_left]

theorem copyFromSlice_toList {n : Nat} (a : ByteArr n) :
    copyFromSlice (ε := Error) n a.toList = .ok a :=
  copyFromSlice_of_length a.length_toList

/-! ## The arms of the decoder -/

theorem decodeKeyRotate_append (newEphPub : Key) (t : Bytes) :
    decodeKeyRotate ((keyRotate newEphPub).encode ++ t) = .ok (keyRotate newEphPub) := by
  have hdata : (keyRotate newEphPub).encode ++ t = [1, 0, 32, 0] ++ newEphPub.toList ++ t := rfl
  have hslice : slice (ε := Error) ([1, 0, 32, 0] ++ newEphPub.toList ++ t) 4 (4 + 32) =
      .ok newEphPub.toList := slice_append _ _ _ rfl (by rw [newEphPub.length_toList])
  have hlen : ([1, 0, 32, 0] ++ newEphPub.toList ++ t).length = 36 + t.length := by
    simp only [List.length_append, ByteArr.length_toList, List.length_cons, List.length_nil]
  have hdeclared : leNat [32, 0] = 32 := rfl
  rw [hdata]
  unfold decodeKeyRotate
  rw [if_neg (by omega)]
  show (if _ < 4 + leNat [32, 0] then _ else _) = _
  rw [hdeclared, if_neg (by omega), hslice, ok_bind, copyFromSlice_toList]
  rfl

theorem decodeMaskUpdate_append {maskData : Bytes} (hlen : maskData.length ≤ 65535)
    (signature : ByteArr 64) (t : Bytes) :
    decodeMaskUpdate ((maskUpdate maskData signature).encode ++ t) =
      .ok (maskUpdate maskData signature) := by
  -- the two bytes of the length, written out so that they can be read
  obtain ⟨b0, b1, hbytes⟩ : ∃ b0 b1, leBytes 2 (maskData.length % 65536) = [b0, b1] := ⟨_, _, rfl⟩
  have hmask : leNat [b0, b1] = maskData.length := by
    rw [← hbytes, leNat_leBytes]
    omega
  have hdata : (maskUpdate maskData signature).encode ++ t =
      [2, b0, b1] ++ maskData ++ signature.toList ++ t := by
    simp only [encode, hbytes]
    rfl
  have hslice : slice (ε := Error) ([2, b0, b1] ++ maskData ++ signature.toList ++ t) 3
      (3 + maskData.length) = .ok maskData := by
    rw [List.append_assoc _ signature.toList t]
    exact slice_append [2, b0, b1] maskData _ rfl rfl
  have hsig : slice (ε := Error) ([2, b0, b1] ++ maskData ++ signature.toList ++ t)
      (3 + maskData.length) (3 + maskData.length + 64) = .ok signature.toList := by
    refine slice_append ([2, b0, b1] ++ maskData) _ _ ?_ (by rw [signature.length_toList])
    simp only [List.length_append, List.length_cons, List.length_nil]
  have htotal : ([2, b0, b1] ++ maskData ++ signature.toList ++ t).length =
      3 + maskData.length + 64 + t.length := by
    simp only [List.length_append, ByteArr.length_toList, List.length_cons, List.length_nil]
  rw [hdata]
  unfold decodeMaskUpdate
  rw [if_neg (by omega)]
  show (if _ < 3 + leNat [b0, b1] + 64 then _ else _) = _
  rw [hmask, if_neg (by omega), hslice, ok_bind, hsig, ok_bind, copyFromSlice_toList]
  rfl

theorem decodeTelemetryResponse_append (packetLoss rttMs jitterMs : UInt16) (bufferPct : UInt8)
    (t : Bytes) :
    decodeTelemetryResponse ((telemetryResponse packetLoss rttMs jitterMs bufferPct).encode ++ t) =
      .ok (telemetryResponse packetLoss rttMs jitterMs bufferPct) := by
  obtain ⟨p0, p1, hp, hp'⟩ := u16Of_u16Bytes packetLoss
  obtain ⟨r0, r1, hr, hr'⟩ := u16Of_u16Bytes rttMs
  obtain ⟨j0, j1, hj, hj'⟩ := u16Of_u16Bytes jitterMs
  have hdata : (telemetryResponse packetLoss rttMs jitterMs bufferPct).encode ++ t =
      [5, 0, p0, p1, r0, r1, j0, j1, bufferPct, 0, 0, 0] ++ t := by
    simp only [encode, hp, hr, hj]
    rfl
  rw [hdata]
  unfold decodeTelemetryResponse
  rw [if_neg (by simp)]
  show (Except.ok (telemetryResponse (u16Of p0 p1) (u16Of r0 r1) (u16Of j0 j1) bufferPct) :
    Outcome ControlPayload) = _
  rw [hp', hr', hj']

theorem decodeTimeSync_append (serverTsMs : UInt64) (t : Bytes) :
    decodeTimeSync ((timeSync serverTsMs).encode ++ t) = .ok (timeSync serverTsMs) := by
  have hlen : (leBytes 8 serverTsMs.toNat).length = 8 := length_leBytes 8 _
  have hdata : (timeSync serverTsMs).encode ++ t = [6] ++ leBytes 8 serverTsMs.toNat ++ t := rfl
  have hslice : slice (ε := Error) ([6] ++ leBytes 8 serverTsMs.toNat ++ t) 1 9 =
      .ok (leBytes 8 serverTsMs.toNat) := slice_append _ _ _ rfl (by rw [hlen])
  have hvalue : UInt64.ofNat (leNat (leBytes 8 serverTsMs.toNat)) = serverTsMs := by
    have hbound : serverTsMs.toNat < 256 ^ 8 := serverTsMs.toNat_lt
    rw [leNat_leBytes, Nat.mod_eq_of_lt hbound]
    exact UInt64.ofNat_toNat
  rw [hdata]
  unfold decodeTimeSync
  rw [if_neg (by simp only [List.length_append, hlen, List.length_cons, List.length_nil]; omega),
    hslice, ok_bind, copyFromSlice_of_length hlen, ok_bind, hvalue]
  rfl

theorem decodeControlAck_append (ackSeq : UInt16) (ackForSubtype : UInt8) (t : Bytes) :
    decodeControlAck ((controlAck ackSeq ackForSubtype).encode ++ t) =
      .ok (controlAck ackSeq ackForSubtype) := by
  obtain ⟨a0, a1, ha, ha'⟩ := u16Of_u16Bytes ackSeq
  have hdata : (controlAck ackSeq ackForSubtype).encode ++ t = [8, a0, a1, ackForSubtype] ++ t := by
    simp only [encode, ha]
    rfl
  rw [hdata]
  unfold decodeControlAck
  rw [if_neg (by simp)]
  show (Except.ok (controlAck (u16Of a0 a1) ackForSubtype) : Outcome ControlPayload) = _
  rw [ha']

theorem decodeServerHello_append (serverEphPub : Key) (signature : ByteArr 64) (t : Bytes) :
    decodeServerHello ((serverHello serverEphPub signature).encode ++ t) =
      .ok (serverHello serverEphPub signature) := by
  have hdata : (serverHello serverEphPub signature).encode ++ t =
      [9] ++ serverEphPub.toList ++ signature.toList ++ t := rfl
  have hkey : slice (ε := Error) ([9] ++ serverEphPub.toList ++ signature.toList ++ t) 1 33 =
      .ok serverEphPub.toList := by
    rw [List.append_assoc _ signature.toList t]
    exact slice_append [9] _ _ rfl (by rw [serverEphPub.length_toList])
  have hsig : slice (ε := Error) ([9] ++ serverEphPub.toList ++ signature.toList ++ t) 33 97 =
      .ok signature.toList := by
    refine slice_append ([9] ++ serverEphPub.toList) _ _ ?_ (by rw [signature.length_toList])
    rw [List.length_append, serverEphPub.length_toList]
    rfl
  have hlen : ([9] ++ serverEphPub.toList ++ signature.toList ++ t).length = 97 + t.length := by
    simp only [List.length_append, ByteArr.length_toList, List.length_cons, List.length_nil]
  rw [hdata]
  unfold decodeServerHello
  rw [if_neg (by omega), hkey, ok_bind, copyFromSlice_toList, ok_bind, hsig, ok_bind,
    copyFromSlice_toList]
  rfl

/-! ## All messages -/

/-- The decoder that a subtype leads to. -/
def decodeArm (data : Bytes) : ControlSubtype → Outcome ControlPayload
  | .keyRotate => decodeKeyRotate data
  | .maskUpdate => decodeMaskUpdate data
  | .keepalive => .ok keepalive
  | .telemetryRequest => decodeTelemetryRequest data
  | .telemetryResponse => decodeTelemetryResponse data
  | .timeSync => decodeTimeSync data
  | .shutdown => decodeShutdown data
  | .controlAck => decodeControlAck data
  | .serverHello => decodeServerHello data

/-- The decoder dispatches on the subtype that the encoder has put in front. -/
theorem decode_append_of_arm {p : ControlPayload} (subtype : ControlSubtype) {rest : Bytes}
    (h : p.encode = subtype.toU8 :: rest) (t : Bytes) :
    decode (p.encode ++ t) = decodeArm (p.encode ++ t) subtype := by
  rw [h]
  have hread : index (ε := Error) (subtype.toU8 :: rest ++ t) 0 = .ok subtype.toU8 := rfl
  have hsub : ControlSubtype.fromU8 subtype.toU8 = some subtype :=
    (ControlSubtype.fromU8_eq_some_iff _ _).2 rfl
  unfold decode
  rw [if_neg (by simp), hread, ok_bind, hsub]
  cases subtype <;> rfl

/-- A message is decoded to itself, whatever follows it. -/
theorem decode_encode_append {p : ControlPayload} (h : p.Encodable) (t : Bytes) :
    decode (p.encode ++ t) = .ok p := by
  cases p with
  | keyRotate newEphPub =>
      rw [decode_append_of_arm .keyRotate rfl]
      exact decodeKeyRotate_append newEphPub t
  | maskUpdate maskData signature =>
      rw [decode_append_of_arm .maskUpdate rfl]
      exact decodeMaskUpdate_append h signature t
  | keepalive => exact decode_append_of_arm .keepalive rfl t
  | telemetryRequest metricFlags => exact decode_append_of_arm .telemetryRequest rfl t
  | telemetryResponse packetLoss rttMs jitterMs bufferPct =>
      rw [decode_append_of_arm .telemetryResponse rfl]
      exact decodeTelemetryResponse_append packetLoss rttMs jitterMs bufferPct t
  | timeSync serverTsMs =>
      rw [decode_append_of_arm .timeSync rfl]
      exact decodeTimeSync_append serverTsMs t
  | shutdown reason => exact decode_append_of_arm .shutdown rfl t
  | controlAck ackSeq ackForSubtype =>
      rw [decode_append_of_arm .controlAck rfl]
      exact decodeControlAck_append ackSeq ackForSubtype t
  | serverHello serverEphPub signature =>
      rw [decode_append_of_arm .serverHello rfl]
      exact decodeServerHello_append serverEphPub signature t

/-- The message at the front of the data. -/
def readFront (data : Bytes) : Option ControlPayload :=
  match decode data with
  | .ok p => some p
  | .error _ => none

theorem selfDelimiting : SelfDelimiting Encodable encode readFront := by
  intro p h t
  unfold readFront
  rw [decode_encode_append h t]

/-- Every message whose mask data fits its length field is decoded to itself, whatever follows it.
Two messages with the same encoding are equal, and the encoding of one is never a proper prefix of
the encoding of another. -/
theorem control_roundtrip :
    (∀ p : ControlPayload, p.Encodable → ∀ t, decode (p.encode ++ t) = .ok p) ∧
    (∀ p q : ControlPayload, p.Encodable → q.Encodable → p.encode = q.encode → p = q) ∧
    ∀ p q : ControlPayload, p.Encodable → q.Encodable → p.encode <+: q.encode →
      p.encode = q.encode := by
  refine ⟨fun p h t => decode_encode_append h t, fun p q => selfDelimiting.injOn, ?_⟩
  intro p q hp hq h
  rw [selfDelimiting.eq_of_prefix hp hq h]

/-- Nothing but a ServerHello is decoded to a ServerHello. -/
theorem decode_ne_serverHello {p : ControlPayload}
    (h : ∀ key signature, p ≠ .serverHello key signature) (t : Bytes) (key : Key)
    (signature : ByteArr 64) : decode (p.encode ++ t) ≠ .ok (.serverHello key signature) := by
  by_cases hp : p.Encodable
  · rw [decode_encode_append hp t]
    intro heq
    exact h key signature (Except.ok.inj heq)
  · cases p with
    | maskUpdate maskData signature' =>
        -- a mask that is too long is decoded to another mask, or refused
        rw [decode_append_of_arm .maskUpdate rfl]
        intro heq
        simp only [decodeArm, decodeMaskUpdate, bind, Except.bind, pure, Except.pure] at heq
        repeat' split at heq
        all_goals cases heq
    | keyRotate _ => exact absurd trivial hp
    | keepalive => exact absurd trivial hp
    | telemetryRequest _ => exact absurd trivial hp
    | telemetryResponse _ _ _ _ => exact absurd trivial hp
    | timeSync _ => exact absurd trivial hp
    | shutdown _ => exact absurd trivial hp
    | controlAck _ _ => exact absurd trivial hp
    | serverHello _ _ => exact absurd trivial hp

end ControlPayload

end Aivpn
