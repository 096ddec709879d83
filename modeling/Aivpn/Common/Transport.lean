import Aivpn.Common.Protocol
import Aivpn.Lib.Framing

/-!
# Stream framing

`transport.rs`: over a byte stream each packet travels behind its length, two bytes in big-endian
order. `FrameDecoder` collects the bytes and takes complete frames off the front. Packets of 1 to
1500 bytes come out as they went in, whatever the chunks in which the bytes arrive
(`frames_chunk_invariant`).
-/

set_option autoImplicit false

namespace Aivpn

open Aivpn.Lib

/-- `MAX_FRAMED_PACKET_SIZE`. -/
def maxFramedPacketSize : Nat := 1500

/-- `frame_packet`. The length is cast to `u16`. -/
def framePacket (packet : Bytes) : Bytes :=
  let len := packet.length % 65536
  [UInt8.ofNat (len / 256), UInt8.ofNat (len % 256)] ++ packet

/-- `decode_frame`. -/
def decodeFrame (buf : Bytes) : Except Error (Option (Bytes × Nat)) :=
  match buf with
  | b0 :: b1 :: _ =>
      let pktLen := b0.toNat * 256 + b1.toNat
      if pktLen = 0 then .error (.invalidPacket "Zero-length frame")
      else if maxFramedPacketSize < pktLen then
        .error (.invalidPacket "Frame exceeds max packet size")
      else
        let total := 2 + pktLen
        if buf.length < total then .ok none
        else .ok (some ((buf.take total).drop 2, total))
  | _ => .ok none

/-- `FrameDecoder`. -/
structure FrameDecoder where
  buf : Bytes
deriving DecidableEq, Repr

namespace FrameDecoder

/-- `FrameDecoder::new`. -/
def new : FrameDecoder := ⟨[]⟩

/-- `FrameDecoder::push`. -/
def push (d : FrameDecoder) (data : Bytes) : FrameDecoder := ⟨d.buf ++ data⟩

/-- `FrameDecoder::next_packet`. -/
def nextPacket (d : FrameDecoder) : Except Error (Option Bytes) × FrameDecoder :=
  match decodeFrame d.buf with
  | .error e => (.error e, d)
  | .ok (some (packet, consumed)) => (.ok (some packet), ⟨d.buf.drop consumed⟩)
  | .ok none => (.ok none, d)

/-- `FrameDecoder::is_empty`. -/
def isEmpty (d : FrameDecoder) : Bool := d.buf.isEmpty

/-- `next_packet` until it returns no packet: the packets, the error if there was one, and the
decoder. Each packet takes bytes off the buffer, so its length bounds the number of calls. -/
def drainFuel : Nat → FrameDecoder → List Bytes × Option Error × FrameDecoder
  | 0, d => ([], none, d)
  | fuel + 1, d => match d.nextPacket with
    | (.error e, d') => ([], some e, d')
    | (.ok none, d') => ([], none, d')
    | (.ok (some packet), d') =>
        let r := drainFuel fuel d'
        (packet :: r.1, r.2)

/-- `while let Some(packet) = decoder.next_packet()?`. -/
def drain (d : FrameDecoder) : List Bytes × Option Error × FrameDecoder :=
  d.drainFuel (d.buf.length + 1)

/-- The decoder is drained after each chunk that it is pushed. -/
def receive : FrameDecoder → List Bytes → List Bytes × Option Error × FrameDecoder
  | d, [] => ([], none, d)
  | d, chunk :: chunks => match (d.push chunk).drain with
    | (packets, some e, d') => (packets, some e, d')
    | (packets, none, d') =>
        let r := d'.receive chunks
        (packets ++ r.1, r.2)

end FrameDecoder

/-! ## The format -/

/-- The framing of packets. -/
def transport : Framing Bytes UInt8 Error := ⟨framePacket, decodeFrame⟩

/-- The packets that a frame can carry. -/
def Framable (packet : Bytes) : Prop := 1 ≤ packet.length ∧ packet.length ≤ maxFramedPacketSize

instance decidableFramable (packet : Bytes) : Decidable (Framable packet) :=
  inferInstanceAs (Decidable (1 ≤ packet.length ∧ packet.length ≤ maxFramedPacketSize))

theorem framePacket_eq (packet : Bytes) : framePacket packet =
    UInt8.ofNat (packet.length % 65536 / 256) :: UInt8.ofNat (packet.length % 65536 % 256) ::
      packet := rfl

@[simp] theorem length_framePacket (packet : Bytes) :
    (framePacket packet).length = 2 + packet.length := by
  rw [framePacket_eq, List.length_cons, List.length_cons]
  omega

/-- The two bytes of a length below `2 ^ 16`. -/
theorem length_bytes_toNat {n : Nat} (hn : n < 65536) :
    (UInt8.ofNat (n / 256)).toNat * 256 + (UInt8.ofNat (n % 256)).toNat = n := by
  simp only [UInt8.toNat_ofNat']
  omega

/-- The decoder on a buffer that begins with the length of a framable packet. -/
theorem decodeFrame_of_length {packet : Bytes} (h : Framable packet) (rest : Bytes) :
    decodeFrame (UInt8.ofNat (packet.length % 65536 / 256) ::
        UInt8.ofNat (packet.length % 65536 % 256) :: rest) =
      if rest.length < packet.length then .ok none
      else .ok (some (rest.take packet.length, 2 + packet.length)) := by
  obtain ⟨hpos, hmax⟩ := h
  unfold maxFramedPacketSize at hmax
  have hmod : packet.length % 65536 = packet.length := Nat.mod_eq_of_lt (by omega)
  have hlen := length_bytes_toNat (show packet.length < 65536 by omega)
  unfold decodeFrame
  rw [hmod]
  simp only [hlen, List.length_cons]
  rw [if_neg (by omega), if_neg (by unfold maxFramedPacketSize; omega)]
  by_cases hrest : rest.length < packet.length
  · rw [if_pos hrest, if_pos (by omega)]
  · rw [if_neg hrest, if_neg (by omega), Nat.add_comm 2 packet.length]
    rfl

theorem transport_sound : transport.Sound Framable where
  nonempty := fun packet _ => by
    show 0 < (framePacket packet).length
    rw [length_framePacket]
    omega
  whole := by
    intro packet h t
    show decodeFrame (framePacket packet ++ t) = _
    rw [framePacket_eq, List.cons_append, List.cons_append, decodeFrame_of_length h,
      if_neg (by simp), List.take_left]
    show _ = Except.ok (some (packet, (framePacket packet).length))
    rw [length_framePacket]
  part := by
    intro packet h buf hpre hlt
    show decodeFrame buf = _
    change buf.length < (framePacket packet).length at hlt
    change buf <+: framePacket packet at hpre
    rw [length_framePacket] at hlt
    rw [framePacket_eq] at hpre
    -- a buffer without the two length bytes, or with a part of the packet behind them
    match buf with
    | [] => rfl
    | [b0] => rfl
    | b0 :: b1 :: rest =>
        obtain ⟨h0, htail⟩ := List.cons_prefix_cons.1 hpre
        obtain ⟨h1, -⟩ := List.cons_prefix_cons.1 htail
        subst h0 h1
        simp only [List.length_cons] at hlt
        rw [decodeFrame_of_length h, if_pos (by omega)]
  empty := rfl
  consumed := by
    intro buf packet n h
    change decodeFrame buf = _ at h
    show n = (framePacket packet).length ∧ _
    rw [length_framePacket]
    match buf with
    | [] => cases h
    | [b0] => cases h
    | b0 :: b1 :: rest =>
        unfold decodeFrame at h
        simp only at h
        split_ifs at h with hzero hmax hlen
        · cases h
        · cases h
          simp only [List.length_drop, List.length_take, List.length_cons] at hlen ⊢
          omega

/-! ## The decoder over a stream -/

namespace FrameDecoder

theorem drainFuel_eq (fuel : Nat) (d : FrameDecoder) : d.drainFuel fuel =
    ((transport.drainFuel fuel d.buf).packets, (transport.drainFuel fuel d.buf).error,
      ⟨(transport.drainFuel fuel d.buf).buf⟩) := by
  induction fuel generalizing d with
  | zero => rfl
  | succ fuel ih =>
      have hdecode : transport.decode d.buf = decodeFrame d.buf := rfl
      unfold drainFuel nextPacket Framing.drainFuel
      rw [hdecode]
      cases hdec : decodeFrame d.buf with
      | error e => rfl
      | ok r => cases r with
          | none => rfl
          | some r =>
              obtain ⟨packet, consumed⟩ := r
              simp only [ih]

theorem drain_eq (d : FrameDecoder) : d.drain =
    ((transport.drain d.buf).packets, (transport.drain d.buf).error,
      ⟨(transport.drain d.buf).buf⟩) :=
  drainFuel_eq _ d

theorem receive_eq (d : FrameDecoder) (chunks : List Bytes) : d.receive chunks =
    ((transport.receive d.buf chunks).packets, (transport.receive d.buf chunks).error,
      ⟨(transport.receive d.buf chunks).buf⟩) := by
  induction chunks generalizing d with
  | nil => rfl
  | cons chunk chunks ih =>
      have hdrain := drain_eq (d.push chunk)
      have hbuf : (d.push chunk).buf = d.buf ++ chunk := rfl
      rw [hbuf] at hdrain
      unfold receive Framing.receive
      cases herror : (transport.drain (d.buf ++ chunk)).error with
      | some e =>
          rw [herror] at hdrain
          simp only [hdrain, herror]
      | none =>
          rw [herror] at hdrain
          simp only [hdrain, herror, ih]

end FrameDecoder

/-- Packets of 1 to 1500 bytes, framed and cut into chunks in any way: after any number of chunks
the decoder has handed on the packets whose frames have arrived completely, without an error, and
behind the last chunk it has handed on all packets and is empty. -/
theorem frames_chunk_invariant (packets : List Bytes)
    (hpackets : ∀ packet ∈ packets, 1 ≤ packet.length ∧ packet.length ≤ 1500)
    (chunks : List Bytes) (hchunks : chunks.flatten = (packets.map framePacket).flatten) :
    (∃ d, FrameDecoder.new.receive chunks = (packets, none, d) ∧ d.isEmpty = true) ∧
    ∀ pre post, chunks = pre ++ post →
      ∃ n d, FrameDecoder.new.receive pre = (packets.take n, none, d) ∧
        ((packets.take n).map framePacket).flatten.length ≤ pre.flatten.length ∧
        (n < packets.length →
          pre.flatten.length < ((packets.take (n + 1)).map framePacket).flatten.length) := by
  have hstream : chunks.flatten = transport.stream packets := hchunks
  constructor
  · refine ⟨⟨[]⟩, ?_, rfl⟩
    rw [FrameDecoder.receive_eq, FrameDecoder.new, transport_sound.receive_all hpackets hstream]
  · rintro pre post rfl
    have hpre : pre.flatten <+: transport.stream packets := by
      rw [← hstream, List.flatten_append]
      exact List.prefix_append _ _
    refine ⟨transport.complete packets pre.flatten.length, ⟨(transport.receive [] pre).buf⟩, ?_,
      transport.length_stream_take_le packets _, transport.lt_length_stream_take packets _⟩
    rw [FrameDecoder.receive_eq, FrameDecoder.new, transport_sound.receive_stream hpackets hpre]

/-- Two packets, cut inside a length and inside a packet. -/
theorem frames_chunk_invariant_split :
    ∃ d, FrameDecoder.new.receive [[0], [], [1, 170, 0], [2, 187], [204]] =
      ([[170], [187, 204]], none, d) ∧ d.isEmpty = true :=
  (frames_chunk_invariant [[170], [187, 204]] (by decide) [[0], [], [1, 170, 0], [2, 187], [204]]
    (by decide)).1

end Aivpn
