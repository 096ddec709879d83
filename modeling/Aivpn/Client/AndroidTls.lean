import Aivpn.Common.Transport
import Aivpn.Client.AndroidTunnel
import Aivpn.Client.Delivery

/-!
# The Android tunnel over TLS

`run_tls_tunnel` of `android_tunnel.rs` reads one byte stream with two decoders. The handshake
pushes what it reads into the first, asks it for one packet after each read, and drops it with the
packet that it returns; the reader task starts with an empty decoder. What the first decoder holds
behind the ServerHello is lost, so all frames are handed on exactly if a read ends where the
ServerHello ends (`frames_handedOn_iff`).

The timers of the handshake and the channel to the forwarding loop are left out.
-/

set_option autoImplicit false

namespace Aivpn

open Aivpn.Lib

namespace AndroidTls

/-- Where the handshake's loop ends: the packet, the decoder behind it and the reads to come. -/
structure Awaited where
  packet : Bytes
  decoder : FrameDecoder
  rest : List Bytes

/-- The loop that waits for the ServerHello. It asks the decoder once after each read; without a
packet it goes on waiting. A read without bytes is the end of the connection. -/
def awaitServerHello : FrameDecoder → List Bytes → Except Error (Option Awaited)
  | _, [] => .ok none
  | decoder, read :: reads =>
      if read.isEmpty then .error (.session "TLS connection closed during handshake")
      else match (decoder.push read).nextPacket with
        | (.error e, _) => .error e
        | (.ok (some packet), decoder') => .ok (some ⟨packet, decoder', reads⟩)
        | (.ok none, decoder') => awaitServerHello decoder' reads

/-- The reader task: `while let Ok(Some(pkt)) = decoder.next_packet()` after each read, until the
end of the connection. An error of the decoder ends the inner loop only. -/
def readerTask : FrameDecoder → List Bytes → List Bytes
  | _, [] => []
  | decoder, read :: reads =>
      if read.isEmpty then []
      else
        let (packets, _, decoder') := (decoder.push read).drain
        packets ++ readerTask decoder' reads

variable (P : Primitives) (env : ClientEnv)

/-- `run_tls_tunnel` behind the handshake datagram: the packets that go to
`process_server_hello_with_mdh_len` and, when that takes the ServerHello, to the forwarding loop. -/
def runTlsTunnel (c : AndroidTunnel) (reads : List Bytes) : List Bytes :=
  match awaitServerHello FrameDecoder.new reads with
  | .ok (some awaited) =>
      awaited.packet ::
        if (c.receiveHello P env awaited.packet).stage = .forwarding then
          readerTask FrameDecoder.new awaited.rest
        else []
  | _ => []

/-! ## The handshake's decoder -/

theorem nextPacket_eq_none {decoder : FrameDecoder} {packet : Bytes} (h : Framable packet)
    (hpre : decoder.buf <+: framePacket packet)
    (hlt : decoder.buf.length < (framePacket packet).length) :
    decoder.nextPacket = (.ok none, decoder) := by
  have hpart : decodeFrame decoder.buf = .ok none := transport_sound.part packet h _ hpre hlt
  unfold FrameDecoder.nextPacket
  rw [hpart]

theorem nextPacket_eq_some {packet : Bytes} (h : Framable packet) (t : Bytes) :
    (FrameDecoder.mk (framePacket packet ++ t)).nextPacket = (.ok (some packet), ⟨t⟩) := by
  have hwhole : decodeFrame (framePacket packet ++ t) =
      .ok (some (packet, (framePacket packet).length)) := transport_sound.whole packet h t
  unfold FrameDecoder.nextPacket
  rw [hwhole]
  simp only [List.drop_left]

/-- The loop returns the first packet behind the first read with which its frame is complete. -/
theorem awaitServerHello_eq {hello : Bytes} (hhello : Framable hello) {t buf : Bytes}
    {reads : List Bytes} (hreads : ∀ read ∈ reads, read ≠ [])
    (hstream : buf ++ reads.flatten = framePacket hello ++ t)
    (hbuf : buf.length < (framePacket hello).length) :
    ∃ k kept, awaitServerHello ⟨buf⟩ reads = .ok (some ⟨hello, ⟨kept⟩, reads.drop k⟩) ∧
      buf ++ (reads.take k).flatten = framePacket hello ++ kept ∧
      ∀ j, j < k → (buf ++ (reads.take j).flatten).length < (framePacket hello).length := by
  induction reads generalizing buf with
  | nil =>
      have hlen := congrArg List.length hstream
      simp only [List.flatten_nil, List.append_nil, List.length_append] at hlen
      omega
  | cons read reads ih =>
      have hread : read.isEmpty = false := by
        rw [List.isEmpty_eq_false_iff]
        exact hreads read List.mem_cons_self
      rw [List.flatten_cons, ← List.append_assoc] at hstream
      have hpre : buf ++ read <+: framePacket hello ++ t := hstream ▸ List.prefix_append _ _
      unfold awaitServerHello
      rw [hread, if_neg Bool.false_ne_true]
      by_cases hlt : (buf ++ read).length < (framePacket hello).length
      · -- the frame is not complete with this read
        have hpart : buf ++ read <+: framePacket hello :=
          List.prefix_of_prefix_length_le hpre (List.prefix_append _ _) (Nat.le_of_lt hlt)
        have hnone : (FrameDecoder.push ⟨buf⟩ read).nextPacket = _ :=
          nextPacket_eq_none hhello hpart hlt
        obtain ⟨k, kept, hawait, htake, hfirst⟩ :=
          ih (fun r hr => hreads r (List.mem_cons_of_mem _ hr)) hstream hlt
        rw [hnone]
        refine ⟨k + 1, kept, hawait, ?_, ?_⟩
        · rw [List.take_succ_cons, List.flatten_cons, ← List.append_assoc]
          exact htake
        · intro j hj
          cases j with
          | zero =>
              rw [List.take_zero, List.flatten_nil, List.append_nil]
              exact hbuf
          | succ j =>
              rw [List.take_succ_cons, List.flatten_cons, ← List.append_assoc]
              exact hfirst j (Nat.lt_of_succ_lt_succ hj)
      · obtain ⟨kept, hkept⟩ : framePacket hello <+: buf ++ read :=
          List.prefix_of_prefix_length_le (List.prefix_append _ _) hpre (Nat.le_of_not_lt hlt)
        have hsome : (FrameDecoder.push ⟨buf⟩ read).nextPacket = (.ok (some hello), ⟨kept⟩) := by
          unfold FrameDecoder.push
          rw [← hkept]
          exact nextPacket_eq_some hhello kept
        rw [hsome]
        refine ⟨1, kept, rfl, ?_, ?_⟩
        · simp only [List.take_succ_cons, List.take_zero, List.flatten_cons, List.flatten_nil,
            List.append_nil]
          exact hkept.symm
        · intro j hj
          obtain rfl : j = 0 := Nat.lt_one_iff.1 hj
          rw [List.take_zero, List.flatten_nil, List.append_nil]
          exact hbuf

/-! ## The reader's decoder -/

/-- Where the decoder meets no error, the reader hands on what it receives. -/
theorem readerTask_eq_receive {decoder : FrameDecoder} {reads : List Bytes}
    (hreads : ∀ read ∈ reads, read ≠ []) (h : (decoder.receive reads).2.1 = none) :
    readerTask decoder reads = (decoder.receive reads).1 := by
  induction reads generalizing decoder with
  | nil => rfl
  | cons read reads ih =>
      have hread : read.isEmpty = false := by
        rw [List.isEmpty_eq_false_iff]
        exact hreads read List.mem_cons_self
      unfold readerTask
      unfold FrameDecoder.receive at h ⊢
      rw [hread, if_neg Bool.false_ne_true]
      generalize (decoder.push read).drain = drained at h ⊢
      obtain ⟨packets, error, decoder'⟩ := drained
      cases error with
      | some e => cases h
      | none =>
          simp only at h ⊢
          rw [ih (fun r hr => hreads r (List.mem_cons_of_mem _ hr)) h]

/-- The frames handed on were pushed. -/
theorem length_readerTask_le (decoder : FrameDecoder) (reads : List Bytes) :
    (transport.stream (readerTask decoder reads)).length ≤
      decoder.buf.length + reads.flatten.length := by
  induction reads generalizing decoder with
  | nil => exact Nat.zero_le _
  | cons read reads ih =>
      unfold readerTask
      by_cases hread : read.isEmpty = true
      · rw [if_pos hread]
        exact Nat.zero_le _
      · have hdrain := transport_sound.length_drain (decoder.push read).buf
        rw [if_neg hread, FrameDecoder.drain_eq]
        have hrest := ih ⟨(transport.drain (decoder.push read).buf).buf⟩
        simp only [FrameDecoder.push, List.length_append] at hdrain hrest
        simp only [FrameDecoder.push, Framing.stream_append, List.flatten_cons, List.length_append]
        omega

/-! ## The switch of decoders -/

variable {P} {env}

/-- Of a stream of frames, cut into reads in any way, the tunnel hands on the ServerHello and all
frames behind it if and only if a read ends where the frame of the ServerHello ends. -/
theorem frames_handedOn_iff {c : AndroidTunnel} {hello : Bytes} {packets : List Bytes}
    (hhello : (c.receiveHello P env hello).stage = .forwarding)
    (hpackets : ∀ packet ∈ hello :: packets, Framable packet) {reads : List Bytes}
    (hreads : ∀ read ∈ reads, read ≠ [])
    (hstream : reads.flatten = ((hello :: packets).map framePacket).flatten) :
    runTlsTunnel P env c reads = hello :: packets ↔
      ∃ k, (reads.take k).flatten = framePacket hello := by
  have hframable := hpackets hello List.mem_cons_self
  have hrestFramable : ∀ packet ∈ packets, Framable packet :=
    fun packet h => hpackets packet (List.mem_cons_of_mem _ h)
  rw [List.map_cons, List.flatten_cons] at hstream
  obtain ⟨k, kept, hawait, htake, hfirst⟩ := @awaitServerHello_eq hello hframable _ [] reads
    hreads hstream (by rw [length_framePacket, List.length_nil]; omega)
  rw [List.nil_append] at htake
  -- what is left for the reader, and what the first decoder has taken of it
  have hleft : kept ++ (reads.drop k).flatten = transport.stream packets := by
    have hall : (reads.take k).flatten ++ (reads.drop k).flatten = reads.flatten := by
      rw [← List.flatten_append, List.take_append_drop]
    rw [htake, hstream, List.append_assoc] at hall
    exact List.append_cancel_left hall
  have hrun : runTlsTunnel P env c reads = hello :: readerTask FrameDecoder.new (reads.drop k) := by
    unfold runTlsTunnel
    rw [show FrameDecoder.new = ⟨[]⟩ from rfl, hawait]
    simp only [hhello, if_true]
  rw [hrun]
  constructor
  · intro h
    have htail : readerTask FrameDecoder.new (reads.drop k) = packets := (List.cons.inj h).2
    have hlen := length_readerTask_le FrameDecoder.new (reads.drop k)
    rw [htail, ← hleft, List.length_append] at hlen
    obtain rfl : kept = [] := by
      apply List.eq_nil_of_length_eq_zero
      simp only [FrameDecoder.new, List.length_nil] at hlen
      omega
    exact ⟨k, by rw [htake, List.append_nil]⟩
  · rintro ⟨j, hj⟩
    -- the loop cannot have returned behind the end of the frame
    have hjk : k ≤ j := by
      by_contra hlt
      have hshort := hfirst j (Nat.lt_of_not_le hlt)
      rw [List.nil_append, hj] at hshort
      exact Nat.lt_irrefl _ hshort
    obtain rfl : kept = [] := by
      have hpre : (reads.take k).flatten <+: (reads.take j).flatten := by
        obtain ⟨t, ht⟩ := List.take_prefix_take_left hjk (l := reads)
        rw [← ht, List.flatten_append]
        exact List.prefix_append _ _
      have hlen := hpre.length_le
      rw [htake, hj, List.length_append] at hlen
      apply List.eq_nil_of_length_eq_zero
      omega
    have hreceive := FrameDecoder.receive_eq FrameDecoder.new (reads.drop k)
    rw [FrameDecoder.new, transport_sound.receive_all hrestFramable hleft] at hreceive
    have hreader : readerTask FrameDecoder.new (reads.drop k) = _ :=
      readerTask_eq_receive (fun read h => hreads read (List.mem_of_mem_drop h))
        (by rw [FrameDecoder.new, hreceive])
    rw [hreader, FrameDecoder.new, hreceive]

/-- A tunnel that waits for the ServerHello. -/
def sampleTunnel : AndroidTunnel :=
  AndroidTunnel.step samplePrimitives
    (AndroidTunnel.new (ByteArr.replicate 32 7) none
      (samplePrimitives.fromPrivateKey (ByteArr.replicate 32 5)))
    (AivpnClient.sampleClientEnv, .begin)

/-- A ServerHello and the packet behind it. -/
def sampleFrames : List Bytes :=
  [AivpnClient.sampleHello (ByteArr.replicate 32 9), AivpnClient.sampleData (ByteArr.replicate 32 9)]

/-- The stream in two reads, of which the first ends where the frame of the ServerHello ends. -/
theorem frames_handedOn_sample :
    runTlsTunnel samplePrimitives AivpnClient.sampleClientEnv sampleTunnel
        (sampleFrames.map framePacket) = sampleFrames ↔
      ∃ k, ((sampleFrames.map framePacket).take k).flatten =
        framePacket (AivpnClient.sampleHello (ByteArr.replicate 32 9)) :=
  frames_handedOn_iff (by decide +kernel) (by decide +kernel) (by decide +kernel) rfl

/-- The stream in one read: the packet behind the ServerHello is lost. -/
theorem frame_lost_with_serverHello :
    (sampleTunnel.receiveHello samplePrimitives AivpnClient.sampleClientEnv
        (AivpnClient.sampleHello (ByteArr.replicate 32 9))).stage = .forwarding ∧
      (∀ packet ∈ sampleFrames, Framable packet) ∧
      runTlsTunnel samplePrimitives AivpnClient.sampleClientEnv sampleTunnel
        [(sampleFrames.map framePacket).flatten] ≠ sampleFrames := by
  decide +kernel

end AndroidTls

end Aivpn
