import Aivpn.Common.ControlCodec
import Aivpn.Lib.Usize

/-!
# Acknowledgements and framed packets

The two codecs of `protocol.rs` that no connection uses yet. `AckPacket::decode` checks for five
bytes and reads seven, so that it panics on an input of five or six. `from_bytes_with_mdh_len` takes
the declared length of the padding off what is left of the datagram without a check; the subtraction
underflows when the declaration is longer, and the slice that follows is out of range in either kind
of build.

On what the encoders produce both decoders return the packet, and `packet_codecs` says exactly which
inputs they return on.
-/

set_option autoImplicit false

namespace Aivpn

open Aivpn.Lib

theorem slice_of_lt {data : Bytes} {lo hi : Nat} (h : hi < lo) :
    slice (ε := Error) data lo hi = .error .panic :=
  if_neg (by omega)

theorem index_of_length_le {data : Bytes} {i : Nat} (h : data.length ≤ i) :
    index (ε := Error) data i = .error .panic := by
  rw [index, List.getElem?_eq_none h]

theorem index_of_lt_getD {data : Bytes} {i : Nat} (h : i < data.length) :
    index (ε := Error) data i = .ok (data.getD i 0) := by
  rw [index_of_lt h, List.getD_eq_getElem _ _ h]

/-! ## Acknowledgements -/

/-- `AckPacket`. -/
structure AckPacket where
  ackSeq : UInt16
  ackBase : UInt16
  bitmap : Bytes
deriving DecidableEq, Repr

namespace AckPacket

/-- `AckPacket::encode`. The length of the bitmap is cut to a byte. -/
def encode (a : AckPacket) : Bytes :=
  u16Bytes InnerType.ack.toU16 ++ u16Bytes a.ackSeq ++ u16Bytes a.ackBase ++
    [UInt8.ofNat a.bitmap.length] ++ a.bitmap

/-- `AckPacket::decode`. -/
def decode (data : Bytes) : Outcome AckPacket :=
  if data.length < 5 then err (.invalidPacket "ACK too short")
  else do
    let b2 ← index data 2
    let b3 ← index data 3
    let b4 ← index data 4
    let b5 ← index data 5
    let b6 ← index data 6
    let bitmapLen := b6.toNat
    if data.length < 7 + bitmapLen then err (.invalidPacket "ACK invalid length")
    else do
      let bitmap ← slice data 7 (7 + bitmapLen)
      pure ⟨u16Of b2 b3, u16Of b4 b5, bitmap⟩

theorem decode_of_length {data : Bytes} (h : 7 ≤ data.length) :
    decode data =
      if data.length < 7 + data[6].toNat then err (.invalidPacket "ACK invalid length")
      else .ok ⟨u16Of data[2] data[3], u16Of data[4] data[5],
        (data.drop 7).take data[6].toNat⟩ := by
  unfold decode
  rw [if_neg (by omega), index_of_lt (show 2 < data.length by omega),
    index_of_lt (show 3 < data.length by omega), index_of_lt (show 4 < data.length by omega),
    index_of_lt (show 5 < data.length by omega), index_of_lt (show 6 < data.length by omega)]
  simp only [ok_bind]
  split_ifs with hlen
  · rfl
  · rw [slice_of_le (by omega) (by omega), Nat.add_sub_cancel_left]
    rfl

/-- Between the length that is checked and the last byte that is read the decoder panics. -/
theorem decode_of_length_mem {data : Bytes} (h : data.length = 5 ∨ data.length = 6) :
    decode data = .error .panic := by
  unfold decode
  rw [if_neg (by omega), index_of_lt (show 2 < data.length by omega),
    index_of_lt (show 3 < data.length by omega), index_of_lt (show 4 < data.length by omega)]
  simp only [ok_bind]
  rcases h with h | h
  · rw [index_of_length_le (by omega)]
    rfl
  · rw [index_of_lt (show 5 < data.length by omega), index_of_length_le (show data.length ≤ 6 by omega)]
    rfl

theorem returns_decode_iff (data : Bytes) :
    Returns (decode data) ↔ data.length ≠ 5 ∧ data.length ≠ 6 := by
  by_cases hmem : data.length = 5 ∨ data.length = 6
  · rw [decode_of_length_mem hmem]
    exact iff_of_false not_returns_panic (by omega)
  · refine iff_of_true ?_ (by omega)
    by_cases hshort : data.length < 5
    · rw [decode, if_pos hshort]
      exact returns_error _
    · rw [decode_of_length (by omega)]
      split_ifs
      · exact returns_error _
      · exact returns_ok _

/-- A bitmap comes back exactly when its length fits the byte in front of it. -/
theorem decode_encode_iff (a : AckPacket) :
    decode a.encode = .ok a ↔ a.bitmap.length ≤ 255 := by
  obtain ⟨s0, s1, hs, hs'⟩ := u16Of_u16Bytes a.ackSeq
  obtain ⟨c0, c1, hc, hc'⟩ := u16Of_u16Bytes a.ackBase
  have hdata : a.encode =
      4 :: 0 :: s0 :: s1 :: c0 :: c1 :: UInt8.ofNat a.bitmap.length :: a.bitmap := by
    unfold encode
    rw [hs, hc]
    rfl
  have hbyte : (UInt8.ofNat a.bitmap.length).toNat = a.bitmap.length % 256 := rfl
  have hlen : 7 ≤ (4 :: 0 :: s0 :: s1 :: c0 :: c1 :: UInt8.ofNat a.bitmap.length :: a.bitmap).length
      := by simp only [List.length_cons]; omega
  rw [hdata, decode_of_length hlen]
  simp only [List.getElem_cons_succ, List.getElem_cons_zero, List.length_cons, List.drop_succ_cons,
    List.drop_zero, hbyte, hs', hc']
  rw [if_neg (by omega)]
  constructor
  · intro h
    have hbitmap : a.bitmap.take (a.bitmap.length % 256) = a.bitmap :=
      congrArg AckPacket.bitmap (Except.ok.inj h)
    have := congrArg List.length hbitmap
    rw [List.length_take] at this
    omega
  · intro h
    rw [Nat.mod_eq_of_lt (by omega), List.take_length]

end AckPacket

/-! ## Framed packets -/

/-- `AivpnPacket`. -/
structure AivpnPacket where
  resonanceTag : ByteArr tagSize
  maskDependentHeader : Bytes
  padLen : UInt16
  encryptedPayload : Bytes
  randomPadding : Bytes
deriving DecidableEq, Repr

namespace AivpnPacket

/-- What `to_bytes` writes. -/
def bytes (p : AivpnPacket) : Bytes :=
  p.resonanceTag.toList ++ p.maskDependentHeader ++ u16Bytes p.padLen ++ p.encryptedPayload ++
    p.randomPadding

/-- `AivpnPacket::to_bytes`. A buffer that would have to grow past one allocation panics. -/
def toBytes (b : Build) (p : AivpnPacket) : Outcome Bytes :=
  if b.Holds p.bytes then .ok p.bytes else .error .panic

/-- `AivpnPacket::from_bytes_with_mdh_len`. -/
def fromBytesWithMdhLen (b : Build) (data : Bytes) (mdhLen : Nat) : Outcome AivpnPacket := do
  let required ← b.add tagSize mdhLen
  let required ← b.add required 2
  if data.length < required then err (.invalidPacket "Packet too short")
  else do
    let tag ← slice data 0 tagSize
    let resonanceTag ← copyFromSlice tagSize tag
    let cursor := tagSize
    let stop ← b.add cursor mdhLen
    let maskDependentHeader ← slice data cursor stop
    let cursor ← b.add cursor mdhLen
    let b0 ← index data cursor
    let next ← b.add cursor 1
    let b1 ← index data next
    let padLen := u16Of b0 b1
    let cursor ← b.add cursor 2
    let rest ← b.sub data.length cursor
    let payloadLen ← b.sub rest padLen.toNat
    let stop ← b.add cursor payloadLen
    let encryptedPayload ← slice data cursor stop
    let cursor ← b.add cursor payloadLen
    let randomPadding ← slice data cursor data.length
    pure ⟨resonanceTag, maskDependentHeader, padLen, encryptedPayload, randomPadding⟩

/-- The length of the padding that a datagram declares behind a header of `mdhLen` bytes. -/
def declaredPadLen (data : Bytes) (mdhLen : Nat) : UInt16 :=
  u16Of (data.getD (8 + mdhLen) 0) (data.getD (9 + mdhLen) 0)

/-- Where the sum of the sizes stays in range, the decoder is decided by the length of the datagram
and the padding that it declares. -/
theorem fromBytesWithMdhLen_of_lt {b : Build} {data : Bytes} {mdhLen : Nat} (hdata : b.Holds data)
    (hmdh : 10 + mdhLen < b.size) (hlen : 10 + mdhLen ≤ data.length) (tag : ByteArr tagSize)
    (htag : data.take tagSize = tag.toList) :
    fromBytesWithMdhLen b data mdhLen =
      if 10 + mdhLen + (declaredPadLen data mdhLen).toNat ≤ data.length then
        .ok ⟨tag, (data.drop tagSize).take mdhLen, declaredPadLen data mdhLen,
          (data.drop (10 + mdhLen)).take
            (data.length - (10 + mdhLen) - (declaredPadLen data mdhLen).toNat),
          data.drop (data.length - (declaredPadLen data mdhLen).toNat)⟩
      else .error .panic := by
  have hpad : (declaredPadLen data mdhLen).toNat < 65536 := (declaredPadLen data mdhLen).toNat_lt
  have hlarge := b.large
  unfold Build.Holds at hdata
  have htagSize : tagSize = 8 := rfl
  have hstop : b.add (ε := Error) tagSize mdhLen = .ok (8 + mdhLen) :=
    b.add_of_lt (show 8 + mdhLen < b.size by omega)
  have htwo : b.add (ε := Error) (8 + mdhLen) 2 = .ok (10 + mdhLen) := by
    rw [b.add_of_lt (by omega)]
    congr 1
    omega
  have hnext : b.add (ε := Error) (8 + mdhLen) 1 = .ok (9 + mdhLen) := by
    rw [b.add_of_lt (by omega)]
    congr 1
    omega
  have htagSlice : slice (ε := Error) data 0 tagSize = .ok tag.toList := by
    rw [slice_of_le (Nat.zero_le _) (show tagSize ≤ data.length by rw [htagSize]; omega),
      List.drop_zero, Nat.sub_zero, htag]
  have hheader : slice (ε := Error) data tagSize (8 + mdhLen) =
      .ok ((data.drop tagSize).take mdhLen) := by
    rw [slice_of_le (show tagSize ≤ 8 + mdhLen by rw [htagSize]; omega) (by omega), htagSize,
      Nat.add_sub_cancel_left]
  have hrest : b.sub (ε := Error) data.length (10 + mdhLen) = .ok (data.length - (10 + mdhLen)) :=
    b.sub_of_le hlen
  unfold fromBytesWithMdhLen
  simp only [hstop, htwo, hnext, hheader, hrest, ok_bind, htagSlice,
    ControlPayload.copyFromSlice_toList, index_of_lt_getD (show 8 + mdhLen < data.length by omega),
    index_of_lt_getD (show 9 + mdhLen < data.length by omega)]
  rw [if_neg (by omega)]
  change (do
    let payloadLen ← b.sub _ (declaredPadLen data mdhLen).toNat
    let stop ← b.add (10 + mdhLen) payloadLen
    let encryptedPayload ← slice data (10 + mdhLen) stop
    let cursor ← b.add (10 + mdhLen) payloadLen
    let randomPadding ← slice data cursor data.length
    pure (⟨tag, _, declaredPadLen data mdhLen, encryptedPayload, randomPadding⟩ : AivpnPacket)) = _
  generalize declaredPadLen data mdhLen = padLen at hpad ⊢
  split_ifs with hfits
  · have hend : b.add (ε := Error) (10 + mdhLen) (data.length - (10 + mdhLen) - padLen.toNat) =
        .ok (data.length - padLen.toNat) := by
      rw [b.add_of_lt (by omega)]
      congr 1
      omega
    have hpayload : slice (ε := Error) data (10 + mdhLen) (data.length - padLen.toNat) =
        .ok ((data.drop (10 + mdhLen)).take (data.length - (10 + mdhLen) - padLen.toNat)) := by
      rw [slice_of_le (by omega) (by omega), Nat.sub_right_comm]
    have hpadding : slice (ε := Error) data (data.length - padLen.toNat) data.length =
        .ok (data.drop (data.length - padLen.toNat)) := by
      rw [slice_of_le (by omega) (le_refl _), List.take_of_length_le (by rw [List.length_drop])]
    simp only [b.sub_of_le (show padLen.toNat ≤ data.length - (10 + mdhLen) by omega), hend,
      hpayload, hpadding, ok_bind]
    rfl
  · -- the difference is negative: checked arithmetic panics, wrapped arithmetic leaves a range that
    -- starts behind its end or ends behind the input
    rw [b.sub_of_lt (by omega) (by omega)]
    cases hchecks : b.overflowChecks with
    | true => rfl
    | false =>
        have hwrap : data.length - (10 + mdhLen) + (b.size - padLen.toNat) =
            b.size + data.length - (10 + mdhLen) - padLen.toNat := by omega
        simp only [Bool.false_eq_true, if_false, ok_bind, hwrap]
        by_cases hshort : data.length < padLen.toNat
        · rw [b.add_of_lt (by omega), ok_bind, slice_of_length_lt (by omega)]
          rfl
        · rw [b.add_of_le (by omega) (by omega) (by omega)]
          simp only [hchecks, Bool.false_eq_true, if_false, ok_bind]
          rw [slice_of_lt (by omega)]
          rfl

/-- The lengths that a datagram and its reader declare agree with its size. Where their sum leaves
the range of a `usize`, a build without overflow checks compares the remainder. -/
def LengthsAgree (b : Build) (data : Bytes) (mdhLen : Nat) : Prop :=
  if 10 + mdhLen < b.size then
    data.length < 10 + mdhLen ∨ 10 + mdhLen + (declaredPadLen data mdhLen).toNat ≤ data.length
  else b.overflowChecks = false ∧ data.length < 10 + mdhLen - b.size

theorem fromBytesWithMdhLen_of_short {b : Build} {data : Bytes} {mdhLen : Nat}
    (hmdh : 10 + mdhLen < b.size) (hlen : data.length < 10 + mdhLen) :
    fromBytesWithMdhLen b data mdhLen = err (.invalidPacket "Packet too short") := by
  have hstop : b.add (ε := Error) tagSize mdhLen = .ok (8 + mdhLen) :=
    b.add_of_lt (show 8 + mdhLen < b.size by omega)
  unfold fromBytesWithMdhLen
  rw [hstop, ok_bind, b.add_of_lt (by omega), ok_bind,
    if_pos (by omega)]

/-- A header length that leaves the range: the sum of the sizes wraps to less than ten, and the
header would end in front of its start or behind the input. -/
theorem fromBytesWithMdhLen_of_le {b : Build} {data : Bytes} {mdhLen : Nat} (hdata : b.Holds data)
    (hsize : mdhLen < b.size) (hmdh : b.size ≤ 10 + mdhLen) :
    fromBytesWithMdhLen b data mdhLen =
      if b.overflowChecks = false ∧ data.length < 10 + mdhLen - b.size then
        err (.invalidPacket "Packet too short")
      else .error .panic := by
  have hlarge := b.large
  have htagSize : tagSize = 8 := rfl
  unfold Build.Holds at hdata
  have hfit (h : 8 + mdhLen < b.size) : b.add (ε := Error) tagSize mdhLen = .ok (8 + mdhLen) :=
    b.add_of_lt h
  have hsecond (h : 8 + mdhLen < b.size) : b.add (ε := Error) (8 + mdhLen) 2 =
      if b.overflowChecks then .error .panic else .ok (8 + mdhLen + 2 - b.size) :=
    b.add_of_le (by omega) h (by omega)
  have hfirst (h : ¬ 8 + mdhLen < b.size) : b.add (ε := Error) tagSize mdhLen =
      if b.overflowChecks then .error .panic else .ok (8 + mdhLen - b.size) :=
    b.add_of_le (show b.size ≤ 8 + mdhLen by omega) (show 8 < b.size by omega) hsize
  cases hchecks : b.overflowChecks with
  | true =>
      rw [if_neg (by simp only [Bool.true_eq_false, false_and, not_false_eq_true])]
      unfold fromBytesWithMdhLen
      by_cases h : 8 + mdhLen < b.size
      · rw [hfit h, ok_bind, hsecond h, hchecks]
        rfl
      · rw [hfirst h, hchecks]
        rfl
  | false =>
      obtain ⟨stop, hstop, hrequired, hrange⟩ : ∃ stop,
          b.add (ε := Error) tagSize mdhLen = .ok stop ∧
          b.add (ε := Error) stop 2 = .ok (10 + mdhLen - b.size) ∧
          (stop < tagSize ∨ data.length < stop) := by
        by_cases h : 8 + mdhLen < b.size
        · refine ⟨8 + mdhLen, hfit h, ?_, by omega⟩
          rw [hsecond h, hchecks, if_neg Bool.false_ne_true]
          congr 1
          omega
        · refine ⟨8 + mdhLen - b.size, ?_, ?_, by omega⟩
          · rw [hfirst h, hchecks, if_neg Bool.false_ne_true]
          · rw [b.add_of_lt (by omega)]
            congr 1
            omega
      simp only [true_and]
      unfold fromBytesWithMdhLen
      rw [hstop, ok_bind, hrequired, ok_bind]
      refine if_congr Iff.rfl rfl ?_
      by_cases hlen : data.length < tagSize
      · rw [slice_of_length_lt hlen]
        rfl
      · have htag : ((data.drop 0).take (tagSize - 0)).length = tagSize :=
          length_of_slice (Nat.le_of_not_lt hlen)
        rw [slice_of_le (Nat.zero_le _) (Nat.le_of_not_lt hlen), ok_bind,
          copyFromSlice_of_length htag, ok_bind]
        have hheader : slice (ε := Error) data tagSize stop = .error .panic :=
          hrange.elim slice_of_lt slice_of_length_lt
        simp only [hstop, ok_bind, hheader]
        rfl

theorem fromBytesWithMdhLen_returns_iff {b : Build} {data : Bytes} {mdhLen : Nat}
    (hdata : b.Holds data) (hsize : mdhLen < b.size) :
    Returns (fromBytesWithMdhLen b data mdhLen) ↔ LengthsAgree b data mdhLen := by
  unfold LengthsAgree
  split_ifs with hmdh
  · by_cases hlen : data.length < 10 + mdhLen
    · rw [fromBytesWithMdhLen_of_short hmdh hlen]
      exact iff_of_true (returns_error _) (Or.inl hlen)
    · have htag : (data.take tagSize).length = tagSize := by
        rw [List.length_take]
        exact min_eq_left (show 8 ≤ data.length by omega)
      rw [fromBytesWithMdhLen_of_lt hdata hmdh (by omega) ⟨data.take tagSize, htag⟩ rfl]
      split_ifs with hfits
      · exact iff_of_true (returns_ok _) (Or.inr hfits)
      · exact iff_of_false not_returns_panic (by omega)
  · rw [fromBytesWithMdhLen_of_le hdata hsize (by omega)]
    split_ifs with hshort
    · exact iff_of_true (returns_error _) hshort
    · exact iff_of_false not_returns_panic hshort

/-- A packet comes back exactly when its padding has the length that it declares. -/
theorem fromBytesWithMdhLen_toBytes_iff {b : Build} {p : AivpnPacket} (hp : b.Holds p.bytes) :
    fromBytesWithMdhLen b p.bytes p.maskDependentHeader.length = .ok p ↔
      p.padLen.toNat = p.randomPadding.length := by
  obtain ⟨p0, p1, hpad, hpad'⟩ := u16Of_u16Bytes p.padLen
  have hlen : p.bytes.length = 10 + p.maskDependentHeader.length + p.encryptedPayload.length +
      p.randomPadding.length := by
    unfold bytes
    rw [hpad]
    simp only [List.length_append, ByteArr.length_toList, List.length_cons, List.length_nil]
    unfold tagSize
    omega
  have hbytes : p.bytes = p.resonanceTag.toList ++ (p.maskDependentHeader ++
      (p0 :: p1 :: (p.encryptedPayload ++ p.randomPadding))) := by
    unfold bytes
    rw [hpad]
    simp only [List.append_assoc, List.cons_append, List.nil_append]
  have htag : p.bytes.take tagSize = p.resonanceTag.toList := by
    rw [hbytes, List.take_left' p.resonanceTag.length_toList]
  have hheader : p.bytes.drop tagSize = p.maskDependentHeader ++
      (p0 :: p1 :: (p.encryptedPayload ++ p.randomPadding)) := by
    rw [hbytes, List.drop_left' p.resonanceTag.length_toList]
  have hafter : p.bytes.drop (8 + p.maskDependentHeader.length) =
      p0 :: p1 :: (p.encryptedPayload ++ p.randomPadding) := by
    rw [show 8 + p.maskDependentHeader.length = tagSize + p.maskDependentHeader.length from rfl,
      ← List.drop_drop, hheader, List.drop_left]
  have hdeclared : declaredPadLen p.bytes p.maskDependentHeader.length = p.padLen := by
    have h0 : p.bytes[8 + p.maskDependentHeader.length]? = some p0 := by
      rw [← Nat.add_zero (8 + _), ← List.getElem?_drop, hafter]
      rfl
    have h1 : p.bytes[9 + p.maskDependentHeader.length]? = some p1 := by
      rw [show 9 + p.maskDependentHeader.length = 8 + p.maskDependentHeader.length + 1 by omega,
        ← List.getElem?_drop, hafter]
      rfl
    unfold declaredPadLen
    rw [List.getD_eq_getElem?_getD, List.getD_eq_getElem?_getD, h0, h1]
    exact hpad'
  have hpayload : p.bytes.drop (10 + p.maskDependentHeader.length) =
      p.encryptedPayload ++ p.randomPadding := by
    rw [show 10 + p.maskDependentHeader.length = 8 + p.maskDependentHeader.length + 2 by omega,
      ← List.drop_drop, hafter]
    rfl
  have hsize : 10 + p.maskDependentHeader.length < b.size := by
    unfold Build.Holds at hp
    omega
  rw [fromBytesWithMdhLen_of_lt hp hsize (by omega) p.resonanceTag htag, hdeclared]
  split_ifs with hfits
  · constructor
    · intro h
      have hpadding : p.bytes.drop (p.bytes.length - p.padLen.toNat) = p.randomPadding :=
        congrArg randomPadding (Except.ok.inj h)
      rw [← hpadding, List.length_drop]
      omega
    · intro h
      have hsplit : p.bytes.length - p.padLen.toNat =
          10 + p.maskDependentHeader.length + p.encryptedPayload.length := by omega
      have htake : p.bytes.length - (10 + p.maskDependentHeader.length) - p.padLen.toNat =
          p.encryptedPayload.length := by omega
      have hpadding : p.bytes.drop
          (10 + p.maskDependentHeader.length + p.encryptedPayload.length) = p.randomPadding := by
        rw [← List.drop_drop, hpayload, List.drop_left]
      rw [htake, hsplit, hpadding, hpayload, hheader, List.take_left, List.take_left]
  · refine iff_of_false (fun h => by cases h) (by omega)

/-- A packet whose encoding fits into memory. -/
abbrev InMemory (b : Build) : Type := {p : AivpnPacket // b.Holds p.bytes}

end AivpnPacket

/-- `AckPacket::decode` returns on every input but those of five or six bytes, and
`from_bytes_with_mdh_len` where the declared lengths agree with the size of the datagram. Both are
inverse to their encoders, as far as these write the lengths that they are given. -/
theorem packet_codecs (b : Build) (data : b.Slice) (mdhLen : Fin b.size) (a : AckPacket)
    (p : AivpnPacket.InMemory b) :
    (Returns (AckPacket.decode data.1) ↔ data.1.length ≠ 5 ∧ data.1.length ≠ 6) ∧
    (Returns (AivpnPacket.fromBytesWithMdhLen b data.1 mdhLen) ↔
      AivpnPacket.LengthsAgree b data.1 mdhLen) ∧
    (AckPacket.decode a.encode = .ok a ↔ a.bitmap.length ≤ 255) ∧
    (∃ wire, p.1.toBytes b = .ok wire ∧
      (AivpnPacket.fromBytesWithMdhLen b wire p.1.maskDependentHeader.length = .ok p.1 ↔
        p.1.padLen.toNat = p.1.randomPadding.length)) :=
  ⟨AckPacket.returns_decode_iff data.1,
    AivpnPacket.fromBytesWithMdhLen_returns_iff data.2 mdhLen.isLt,
    AckPacket.decode_encode_iff a,
    p.1.bytes, if_pos p.2, AivpnPacket.fromBytesWithMdhLen_toBytes_iff p.2⟩

/-- A release build for 64 bits. -/
def release64 : Build := ⟨2 ^ 64, false, by decide⟩

/-- Five bytes of an acknowledgement end its decoder in a panic, and so does a datagram of a tag and
a declared padding of 65535 bytes. -/
theorem packet_codecs_panic :
    (¬ ∀ data : release64.Slice, Returns (AckPacket.decode data.1)) ∧
      ¬ ∀ (data : release64.Slice) (mdhLen : Fin release64.size),
        Returns (AivpnPacket.fromBytesWithMdhLen release64 data.1 mdhLen) := by
  constructor
  · intro h
    exact absurd ((AckPacket.returns_decode_iff _).1 (h ⟨[4, 0, 0, 0, 0], by decide⟩)) (by decide)
  · intro h
    let data : release64.Slice := ⟨[0, 0, 0, 0, 0, 0, 0, 0, 255, 255], by decide⟩
    let mdhLen : Fin release64.size := ⟨0, by decide⟩
    have hagree := (AivpnPacket.fromBytesWithMdhLen_returns_iff data.2 mdhLen.isLt).1
      (h data mdhLen)
    rw [AivpnPacket.LengthsAgree, if_pos (by decide)] at hagree
    exact absurd hagree (by decide)

end Aivpn
