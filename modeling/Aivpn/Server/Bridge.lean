import Aivpn.Common.Transport
import Aivpn.Lib.Runs
import Mathlib.Data.List.TakeWhile

/-!
# The TLS and QUIC bridges

`handle_tls_client` of `tls_bridge.rs` and `handle_quic_client` of `quic_bridge.rs`. Both run two tasks
between a byte stream of the client and a UDP socket connected to the gateway: one cuts the stream
into frames and sends each as a datagram, the other frames each datagram and writes it to the stream.
When a task ends the function returns, but the other task goes on by itself.

Whatever the client sends and however it arrives, the gateway gets the frames of the stream up to the
first malformed one (`bridge_upstream`). In the other direction the client reads the gateway's
datagrams exactly if each of them fits into a frame (`bridge_downstream_iff`).
-/

set_option autoImplicit false

namespace Aivpn

open Aivpn.Lib

/-- What the two functions differ in: the size of the buffer for datagrams, and after how many
datagrams the stream is flushed. -/
structure BridgeBuffers where
  datagramBuf : Nat
  flushEvery : Option Nat
deriving DecidableEq, Repr

/-- `handle_tls_client`. -/
def handleTlsClient : BridgeBuffers := ⟨8192, some 8⟩

/-- `handle_quic_client`. -/
def handleQuicClient : BridgeBuffers := ⟨4096, none⟩

/-- `tls_to_udp`, `quic_to_udp`: the decoder, and the datagrams that were sent to the gateway. -/
structure StreamToUdp where
  decoder : FrameDecoder
  sent : List Bytes
  running : Bool
deriving DecidableEq, Repr

/-- `udp_to_tls`, `udp_to_quic`: the bytes that the stream has taken, and the datagrams since the last
flush. -/
structure UdpToStream where
  written : Bytes
  pendingWrites : Nat
  running : Bool
deriving DecidableEq, Repr

/-- The two tasks of a connection. -/
structure Bridge where
  upstream : StreamToUdp
  downstream : UdpToStream
deriving DecidableEq, Repr

namespace StreamToUdp

/-- The task at its start. -/
def new : StreamToUdp := ⟨FrameDecoder.new, [], true⟩

/-- All complete frames are decoded and sent; `sendOk i` tells whether the `i`-th datagram of the
connection leaves the socket. Each frame takes bytes off the buffer, so its length bounds the number
of rounds. -/
def forwardFuel (sendOk : Nat → Bool) : Nat → StreamToUdp → StreamToUdp
  | 0, t => t
  | fuel + 1, t => match t.decoder.nextPacket with
    | (.error _, decoder) => { t with decoder := decoder, running := false }
    | (.ok none, decoder) => { t with decoder := decoder }
    | (.ok (some packet), decoder) =>
        if sendOk t.sent.length then
          forwardFuel sendOk fuel { t with decoder := decoder, sent := t.sent ++ [packet] }
        else { t with decoder := decoder, running := false }

/-- One read of the stream. A read of no bytes is the end of the stream. -/
def read (sendOk : Nat → Bool) (bytes : Bytes) (t : StreamToUdp) : StreamToUdp :=
  if t.running then
    if bytes.isEmpty then { t with running := false }
    else
      let t := { t with decoder := t.decoder.push bytes }
      t.forwardFuel sendOk (t.decoder.buf.length + 1)
  else t

/-- A read that fails. -/
def readError (t : StreamToUdp) : StreamToUdp := { t with running := false }

end StreamToUdp

namespace UdpToStream

/-- The task at its start. -/
def new : UdpToStream := ⟨[], 0, true⟩

/-- The count of the datagrams since the last flush, and the flush when it is due. -/
def flush (b : BridgeBuffers) (flushOk : Bool) (t : UdpToStream) : UdpToStream :=
  match b.flushEvery with
  | none => t
  | some n =>
      if n ≤ t.pendingWrites + 1 then
        if flushOk then { t with pendingWrites := 0 }
        else { t with pendingWrites := t.pendingWrites + 1, running := false }
      else { t with pendingWrites := t.pendingWrites + 1 }

/-- One datagram of the gateway, cut to the size of the buffer. `write` is `none` when `write_all`
succeeds, and otherwise the number of bytes that the stream has taken before it failed. -/
def recv (b : BridgeBuffers) (packet : Bytes) (write : Option Nat) (flushOk : Bool)
    (t : UdpToStream) : UdpToStream :=
  if t.running then
    let framed := framePacket (packet.take b.datagramBuf)
    match write with
    | none => { t with written := t.written ++ framed }.flush b flushOk
    | some n => { t with written := t.written ++ framed.take n, running := false }
  else t

/-- A receive that fails. -/
def recvError (t : UdpToStream) : UdpToStream := { t with running := false }

end UdpToStream

namespace Bridge

/-- Both tasks at their start. -/
def new : Bridge := ⟨StreamToUdp.new, UdpToStream.new⟩

/-- The stream is read, or the socket receives a datagram. -/
inductive Event where
  | read (bytes : Bytes)
  | readError
  | recv (packet : Bytes) (write : Option Nat) (flushOk : Bool)
  | recvError
deriving DecidableEq, Repr

/-- One step of one of the tasks. -/
def step (b : BridgeBuffers) (sendOk : Nat → Bool) (c : Bridge) : Event → Bridge
  | .read bytes => { c with upstream := c.upstream.read sendOk bytes }
  | .readError => { c with upstream := c.upstream.readError }
  | .recv packet write flushOk => { c with downstream := c.downstream.recv b packet write flushOk }
  | .recvError => { c with downstream := c.downstream.recvError }

/-- What is read from the stream before it ends. -/
def streamRead : List Event → Bytes
  | [] => []
  | .read bytes :: es => if bytes.isEmpty then [] else bytes ++ streamRead es
  | .readError :: _ => []
  | .recv _ _ _ :: es => streamRead es
  | .recvError :: es => streamRead es

/-- The stream has not ended. -/
def streamOpen : List Event → Bool
  | [] => true
  | .read bytes :: es => !bytes.isEmpty && streamOpen es
  | .readError :: _ => false
  | .recv _ _ _ :: es => streamOpen es
  | .recvError :: es => streamOpen es

/-- The datagrams that come from the gateway. -/
def datagrams : List Event → List Bytes
  | [] => []
  | .recv packet _ _ :: es => packet :: datagrams es
  | .read _ :: es => datagrams es
  | .readError :: es => datagrams es
  | .recvError :: es => datagrams es

/-- The stream takes all that is written to it, and the socket receives without an error. -/
def StreamTakes : Event → Prop
  | .recv _ write flushOk => write = none ∧ flushOk = true
  | .recvError => False
  | .read _ => True
  | .readError => True

end Bridge

/-! ## The frames of a stream -/

/-- A frame that the decoder finds is the frame of a packet that fits, and it stands at the front. -/
theorem framePacket_of_decodeFrame {buf packet : Bytes} {n : Nat}
    (h : decodeFrame buf = .ok (some (packet, n))) :
    Framable packet ∧ n = (framePacket packet).length ∧ framePacket packet <+: buf := by
  match buf with
  | [] => cases h
  | [b0] => cases h
  | b0 :: b1 :: rest =>
      unfold decodeFrame at h
      simp only at h
      split_ifs at h with hzero hmax hlen
      · cases h
      · simp only [Except.ok.injEq, Option.some.injEq, Prod.mk.injEq] at h
        obtain ⟨rfl, rfl⟩ := h
        have h0 := b0.toNat_lt
        have h1 := b1.toNat_lt
        simp only [List.length_cons] at hlen
        have htake : (List.take (2 + (b0.toNat * 256 + b1.toNat)) (b0 :: b1 :: rest)).drop 2 =
            rest.take (b0.toNat * 256 + b1.toNat) := by
          rw [Nat.add_comm 2]
          rfl
        rw [htake]
        have hlength : (rest.take (b0.toNat * 256 + b1.toNat)).length =
            b0.toNat * 256 + b1.toNat := by
          rw [List.length_take]
          omega
        refine ⟨⟨by omega, by omega⟩, by rw [length_framePacket, hlength], ?_⟩
        rw [framePacket_eq, hlength]
        -- the two length bytes are those that were read
        have hhigh : UInt8.ofNat ((b0.toNat * 256 + b1.toNat) % 65536 / 256) = b0 := by
          rw [show (b0.toNat * 256 + b1.toNat) % 65536 / 256 = b0.toNat by omega]
          exact UInt8.ofNat_toNat
        have hlow : UInt8.ofNat ((b0.toNat * 256 + b1.toNat) % 65536 % 256) = b1 := by
          rw [show (b0.toNat * 256 + b1.toNat) % 65536 % 256 = b1.toNat by omega]
          exact UInt8.ofNat_toNat
        rw [hhigh, hlow, List.cons_prefix_cons, List.cons_prefix_cons]
        exact ⟨rfl, rfl, List.take_prefix _ _⟩

theorem transport_stable : transport.Stable where
  error := by
    intro buf e h t
    change decodeFrame buf = _ at h
    show decodeFrame (buf ++ t) = _
    match buf with
    | [] => cases h
    | [b0] => cases h
    | b0 :: b1 :: rest =>
        unfold decodeFrame at h ⊢
        simp only [List.cons_append] at h ⊢
        split_ifs at h with hzero hmax hlen
        · rw [if_pos hzero]
          exact h
        · rw [if_neg hzero, if_pos hmax]
          exact h
  frame := by
    intro buf packet n h
    obtain ⟨hframable, hn, hpre⟩ := framePacket_of_decodeFrame h
    refine ⟨?_, hn ▸ hpre.length_le, fun t => ?_⟩
    · rw [hn, length_framePacket]
      omega
    · obtain ⟨rest, rfl⟩ := hpre
      rw [List.append_assoc, hn]
      exact transport_sound.whole packet hframable (rest ++ t)

/-! ## Upstream -/

/-- The datagrams that leave the socket, the `i`-th of the connection first, until one does not. -/
def sendsUntilFailure (sendOk : Nat → Bool) : Nat → List Bytes → List Bytes
  | _, [] => []
  | i, packet :: packets =>
      if sendOk i then packet :: sendsUntilFailure sendOk (i + 1) packets else []

/-- All of them leave the socket. -/
def allSent (sendOk : Nat → Bool) : Nat → List Bytes → Bool
  | _, [] => true
  | i, _ :: packets => sendOk i && allSent sendOk (i + 1) packets

theorem sendsUntilFailure_append (sendOk : Nat → Bool) (i : Nat) (packets more : List Bytes) :
    sendsUntilFailure sendOk i (packets ++ more) = sendsUntilFailure sendOk i packets ++
      if allSent sendOk i packets then sendsUntilFailure sendOk (i + packets.length) more else [] := by
  induction packets generalizing i with
  | nil => rfl
  | cons packet packets ih =>
      have hshift : i + (packet :: packets).length = i + 1 + packets.length := by
        rw [List.length_cons]
        omega
      rw [List.cons_append, sendsUntilFailure, sendsUntilFailure, allSent, hshift]
      cases hsend : sendOk i with
      | true => simp [ih]
      | false => rfl

theorem allSent_append (sendOk : Nat → Bool) (i : Nat) (packets more : List Bytes) :
    allSent sendOk i (packets ++ more) =
      (allSent sendOk i packets && allSent sendOk (i + packets.length) more) := by
  induction packets generalizing i with
  | nil => simp [allSent]
  | cons packet packets ih =>
      have hshift : i + (packet :: packets).length = i + 1 + packets.length := by
        rw [List.length_cons]
        omega
      rw [List.cons_append, allSent, allSent, ih, hshift, Bool.and_assoc]

theorem sendsUntilFailure_of_allSent {sendOk : Nat → Bool} {i : Nat} {packets : List Bytes}
    (h : allSent sendOk i packets = true) : sendsUntilFailure sendOk i packets = packets := by
  induction packets generalizing i with
  | nil => rfl
  | cons packet packets ih =>
      rw [allSent, Bool.and_eq_true] at h
      rw [sendsUntilFailure, if_pos h.1, ih h.2]

theorem sendsUntilFailure_prefix (sendOk : Nat → Bool) (i : Nat) (packets : List Bytes) :
    sendsUntilFailure sendOk i packets <+: packets := by
  induction packets generalizing i with
  | nil => exact List.prefix_refl _
  | cons packet packets ih =>
      unfold sendsUntilFailure
      split_ifs
      · exact List.cons_prefix_cons.2 ⟨rfl, ih (i + 1)⟩
      · exact List.nil_prefix

namespace StreamToUdp

variable {sendOk : Nat → Bool} {t : StreamToUdp}

/-- The rounds of one read send the frames of the buffer, and go on waiting if there was no malformed
frame and every send succeeded. -/
theorem forwardFuel_eq (sendOk : Nat → Bool) {fuel : Nat} (hfuel : t.decoder.buf.length < fuel) :
    (t.forwardFuel sendOk fuel).sent = t.sent ++
        sendsUntilFailure sendOk t.sent.length (transport.drain t.decoder.buf).packets ∧
      (t.forwardFuel sendOk fuel).running = (t.running &&
        ((transport.drain t.decoder.buf).error.isNone &&
          allSent sendOk t.sent.length (transport.drain t.decoder.buf).packets)) ∧
      ((t.forwardFuel sendOk fuel).running = true →
        (t.forwardFuel sendOk fuel).decoder.buf = (transport.drain t.decoder.buf).buf) := by
  induction fuel generalizing t with
  | zero => exact absurd hfuel (Nat.not_lt_zero _)
  | succ fuel ih =>
      unfold forwardFuel FrameDecoder.nextPacket
      cases hdec : decodeFrame t.decoder.buf with
      | error e =>
          rw [Framing.drain_of_error (F := transport) hdec]
          simp [sendsUntilFailure]
      | ok r => cases r with
          | none =>
              rw [Framing.drain_of_none (F := transport) hdec]
              simp [sendsUntilFailure, allSent]
          | some r =>
              obtain ⟨packet, n⟩ := r
              obtain ⟨hpos, hle, -⟩ := transport_stable.frame _ _ _ hdec
              rw [transport_stable.drain_of_some hdec]
              simp only [sendsUntilFailure, allSent]
              cases hsend : sendOk t.sent.length with
              | false => simp
              | true =>
                  have hlen : (t.decoder.buf.drop n).length < fuel := by
                    rw [List.length_drop]
                    omega
                  have hrest := @ih { t with
                    decoder := ⟨t.decoder.buf.drop n⟩, sent := t.sent ++ [packet] } hlen
                  simp only [List.length_append, List.length_singleton, List.append_assoc,
                    List.singleton_append] at hrest
                  simpa using hrest

theorem read_of_stopped (h : t.running = false) (bytes : Bytes) : t.read sendOk bytes = t := by
  unfold read
  rw [h]
  rfl

end StreamToUdp

namespace Bridge

variable {b : BridgeBuffers} {sendOk : Nat → Bool} {c : Bridge}

/-- A task that has stopped sends nothing more. -/
theorem upstream_of_stopped (sendOk : Nat → Bool) (h : c.upstream.running = false) (es : List Event) :
    (runFrom (step b sendOk) c es).upstream = c.upstream := by
  induction es generalizing c with
  | nil => rfl
  | cons e es ih =>
      have hstep : (step b sendOk c e).upstream = c.upstream := by
        cases e with
        | read bytes => exact StreamToUdp.read_of_stopped h bytes
        | readError =>
            show { c.upstream with running := false } = c.upstream
            rw [← h]
        | recv packet write flushOk => rfl
        | recvError => rfl
      rw [runFrom, ih (by rw [hstep, h]), hstep]

/-- From a task that waits for more of a frame: it sends the frames of what it holds and of what is
still read. -/
theorem upstream_of_waiting (sendOk : Nat → Bool) (hrunning : c.upstream.running = true)
    (hwaits : decodeFrame c.upstream.decoder.buf = .ok none) (es : List Event) :
    let r := transport.drain (c.upstream.decoder.buf ++ streamRead es)
    let t := (runFrom (step b sendOk) c es).upstream
    t.sent = c.upstream.sent ++ sendsUntilFailure sendOk c.upstream.sent.length r.packets ∧
      (t.running = true ↔ streamOpen es = true ∧ r.error = none ∧
        allSent sendOk c.upstream.sent.length r.packets = true) := by
  induction es generalizing c with
  | nil =>
      simp only [streamRead, List.append_nil, Framing.drain_of_none (F := transport) hwaits,
        sendsUntilFailure, allSent, streamOpen, runFrom]
      exact ⟨trivial, iff_of_true hrunning ⟨trivial, trivial, trivial⟩⟩
  | cons e es ih =>
      cases e with
      | recv packet write flushOk => exact @ih (step b sendOk c _) hrunning hwaits
      | recvError => exact @ih (step b sendOk c _) hrunning hwaits
      | readError =>
          have hstop := upstream_of_stopped (b := b) sendOk
            (c := step b sendOk c .readError) rfl es
          simp only [runFrom, hstop, streamRead, List.append_nil,
            Framing.drain_of_none (F := transport) hwaits, sendsUntilFailure, streamOpen]
          exact ⟨rfl, iff_of_false Bool.false_ne_true fun h => Bool.false_ne_true h.1⟩
      | read bytes =>
          by_cases hempty : bytes.isEmpty = true
          · have hread : (step b sendOk c (.read bytes)).upstream =
                { c.upstream with running := false } := by
              show c.upstream.read sendOk bytes = _
              unfold StreamToUdp.read
              rw [if_pos hrunning, if_pos hempty]
            have hstop := upstream_of_stopped (b := b) sendOk
              (c := step b sendOk c (.read bytes)) (by rw [hread]) es
            simp only [runFrom, hstop, hread, streamRead, if_pos hempty, List.append_nil,
              Framing.drain_of_none (F := transport) hwaits, sendsUntilFailure, streamOpen]
            refine ⟨trivial, iff_of_false Bool.false_ne_true fun h => ?_⟩
            rw [hempty] at h
            cases h.1
          · have hread : (step b sendOk c (.read bytes)).upstream =
                { c.upstream with decoder := c.upstream.decoder.push bytes }.forwardFuel sendOk
                  ((c.upstream.decoder.push bytes).buf.length + 1) := by
              show c.upstream.read sendOk bytes = _
              unfold StreamToUdp.read
              rw [if_pos hrunning, if_neg hempty]
            obtain ⟨hsent, hruns, hbuf⟩ := StreamToUdp.forwardFuel_eq sendOk
              (t := { c.upstream with decoder := c.upstream.decoder.push bytes })
              (Nat.lt_succ_self _)
            rw [← hread] at hsent hruns hbuf
            have hpush : (c.upstream.decoder.push bytes).buf = c.upstream.decoder.buf ++ bytes := rfl
            simp only [hpush, hrunning, Bool.true_and] at hsent hruns hbuf
            have hopen : streamOpen (.read bytes :: es) = streamOpen es := by
              simp [streamOpen, hempty]
            have hstream : streamRead (.read bytes :: es) = bytes ++ streamRead es := if_neg hempty
            rw [hopen, hstream, ← List.append_assoc, transport_stable.drain_append]
            generalize hD : transport.drain (c.upstream.decoder.buf ++ bytes) = D
              at hsent hruns hbuf ⊢
            cases herror : D.error with
            -- a malformed frame ends the task
            | some e =>
                rw [herror] at hruns
                have hstop := upstream_of_stopped (b := b) sendOk hruns es
                simp only [runFrom, hstop, Drained.followedBy, herror]
                refine ⟨hsent, iff_of_false (by rw [hruns]; exact Bool.false_ne_true) ?_⟩
                exact fun h => Option.some_ne_none e h.2.1
            | none =>
                have hsplit : ∀ r : Drained Bytes UInt8 Error,
                    (D.followedBy (streamRead es) r).packets = D.packets ++ r.packets ∧
                      (D.followedBy (streamRead es) r).error = r.error := by
                  intro r
                  simp only [Drained.followedBy, herror]
                  exact ⟨trivial, trivial⟩
                obtain ⟨hpackets, herror'⟩ := hsplit (transport.drain (D.buf ++ streamRead es))
                simp only [hpackets, herror', sendsUntilFailure_append, allSent_append]
                rw [herror] at hruns
                cases hall : allSent sendOk c.upstream.sent.length D.packets with
                -- so does a send that fails
                | false =>
                    rw [hall] at hruns
                    have hstop := upstream_of_stopped (b := b) sendOk hruns es
                    simp only [runFrom, hstop]
                    refine ⟨by simpa using hsent, iff_of_false (by rw [hruns]; simp) (by simp)⟩
                | true =>
                    rw [hall] at hruns
                    have hwaits' : decodeFrame D.buf = .ok none := by
                      rw [← hD] at herror ⊢
                      exact transport_stable.decode_drain herror
                    have hrest := @ih (step b sendOk c (.read bytes)) hruns
                      (by rw [hbuf hruns]; exact hwaits')
                    rw [hbuf hruns, hsent, sendsUntilFailure_of_allSent hall] at hrest
                    rw [sendsUntilFailure_of_allSent hall]
                    simp only [runFrom, List.length_append, List.append_assoc] at hrest ⊢
                    simpa using hrest

/-! ## Downstream -/

/-- Where the stream takes everything, the task goes on, and the stream has the frame of each
datagram. -/
theorem written_eq (sendOk : Nat → Bool) {es : List Event} (hes : ∀ e ∈ es, StreamTakes e)
    (hrunning : c.downstream.running = true) :
    (runFrom (step b sendOk) c es).downstream.running = true ∧
      (runFrom (step b sendOk) c es).downstream.written = c.downstream.written ++
        ((datagrams es).map fun packet => framePacket (packet.take b.datagramBuf)).flatten := by
  induction es generalizing c with
  | nil => exact ⟨hrunning, (List.append_nil _).symm⟩
  | cons e es ih =>
      obtain ⟨he, hrest⟩ := List.forall_mem_cons.1 hes
      cases e with
      | read bytes => exact @ih (step b sendOk c _) hrest hrunning
      | readError => exact @ih (step b sendOk c _) hrest hrunning
      | recvError => exact absurd he id
      | recv packet write flushOk =>
          obtain ⟨rfl, rfl⟩ := he
          have hstep : (step b sendOk c (.recv packet none true)).downstream.running = true ∧
              (step b sendOk c (.recv packet none true)).downstream.written =
                c.downstream.written ++ framePacket (packet.take b.datagramBuf) := by
            simp only [step, UdpToStream.recv, if_pos hrunning, UdpToStream.flush]
            split
            · exact ⟨hrunning, rfl⟩
            · split_ifs
              · exact ⟨hrunning, rfl⟩
              · exact ⟨hrunning, rfl⟩
          obtain ⟨hrunning', hwritten⟩ := hstep
          obtain ⟨hruns, heq⟩ := ih hrest hrunning'
          refine ⟨hruns, ?_⟩
          rw [runFrom, heq, hwritten, datagrams, List.map_cons, List.flatten_cons,
            List.append_assoc]

end Bridge

/-- The decoder refuses the frame of a packet that is empty or too long. -/
theorem decodeFrame_of_not_framable {packet : Bytes} (h : ¬ Framable packet)
    (hlen : packet.length < 65536) (rest : Bytes) :
    ∃ e, decodeFrame (framePacket packet ++ rest) = .error e := by
  have hmod : packet.length % 65536 = packet.length := Nat.mod_eq_of_lt hlen
  rw [framePacket_eq, hmod, List.cons_append, List.cons_append]
  unfold decodeFrame
  simp only [length_bytes_toNat hlen]
  by_cases hzero : packet.length = 0
  · rw [if_pos hzero]
    exact ⟨_, rfl⟩
  · have hmax : maxFramedPacketSize < packet.length := by
      by_contra hle
      exact h ⟨Nat.pos_of_ne_zero hzero, Nat.not_lt.1 hle⟩
    rw [if_neg hzero, if_pos hmax]
    exact ⟨_, rfl⟩

/-- From the frames of cut datagrams the decoder takes those that fit, up to the first that does
not. -/
theorem drain_datagrams {size : Nat} (hsize : maxFramedPacketSize < size) (hmax : size < 65536)
    (packets : List Bytes) :
    let r := transport.drain (packets.map fun packet => framePacket (packet.take size)).flatten
    r.packets = packets.takeWhile (fun packet => Framable packet) ∧
      (r.error = none ↔ ∀ packet ∈ packets, Framable packet) := by
  induction packets with
  | nil => exact ⟨rfl, iff_of_true rfl fun packet h => absurd h List.not_mem_nil⟩
  | cons packet packets ih =>
      simp only [List.map_cons, List.flatten_cons]
      by_cases hframable : Framable packet
      · have htake : packet.take size = packet :=
          List.take_of_length_le (le_of_lt (lt_of_le_of_lt hframable.2 hsize))
        have hdecode : transport.decode (framePacket packet ++
            (packets.map fun packet => framePacket (packet.take size)).flatten) =
              .ok (some (packet, (framePacket packet).length)) :=
          transport_sound.whole packet hframable _
        have hdrop : (framePacket packet ++
            (packets.map fun packet => framePacket (packet.take size)).flatten).drop
              (framePacket packet).length =
            (packets.map fun packet => framePacket (packet.take size)).flatten := List.drop_left
        obtain ⟨hpackets, herror⟩ := ih
        rw [htake, transport_stable.drain_of_some hdecode, hdrop,
          List.takeWhile_cons_of_pos (by simpa using hframable)]
        refine ⟨congrArg _ hpackets, ?_⟩
        rw [List.forall_mem_cons, ← herror]
        exact ⟨fun h => ⟨hframable, h⟩, And.right⟩
      · -- what is cut off a datagram does not make it fit
        have hcut : ¬ Framable (packet.take size) := by
          rintro ⟨hpos, hle⟩
          rw [List.length_take] at hpos hle
          exact hframable ⟨by omega, by omega⟩
        have hlen : (packet.take size).length < 65536 := by
          rw [List.length_take]
          omega
        obtain ⟨e, he⟩ : ∃ e, transport.decode (framePacket (packet.take size) ++
            (packets.map fun packet => framePacket (packet.take size)).flatten) = .error e :=
          decodeFrame_of_not_framable hcut hlen _
        rw [Framing.drain_of_error he,
          List.takeWhile_cons_of_neg (by simpa using hframable)]
        refine ⟨rfl, iff_of_false (Option.some_ne_none e) fun h => ?_⟩
        exact hframable (h packet List.mem_cons_self)

/-! ## Both directions -/

/-- In every run of a bridge, whatever the stream brings in whatever pieces, and whatever the other
task does: the datagrams that reach the gateway are the frames of the stream up to the first malformed
one, as far as the sends succeed. They are packets that fit into a frame, in the order and with the
bytes of the stream, and the task goes on exactly while the stream is open and nothing has failed. -/
theorem bridge_upstream (b : BridgeBuffers) (sendOk : Nat → Bool) (es : List Bridge.Event) :
    let task := (runFrom (Bridge.step b sendOk) Bridge.new es).upstream
    task.sent = sendsUntilFailure sendOk 0 (transport.drain (Bridge.streamRead es)).packets ∧
    (∀ packet ∈ task.sent, Framable packet) ∧
    (task.sent.map framePacket).flatten <+: Bridge.streamRead es ∧
    (∀ packets, (∀ packet ∈ packets, Framable packet) →
      Bridge.streamRead es = (packets.map framePacket).flatten →
        task.sent = sendsUntilFailure sendOk 0 packets) ∧
    (task.running = true ↔ Bridge.streamOpen es = true ∧
      (transport.drain (Bridge.streamRead es)).error = none ∧
      allSent sendOk 0 (transport.drain (Bridge.streamRead es)).packets = true) := by
  intro task
  obtain ⟨hsent, hruns⟩ := Bridge.upstream_of_waiting (b := b) (c := Bridge.new) sendOk rfl rfl es
  have hempty : Bridge.new.upstream.decoder.buf = [] := rfl
  have hnone : Bridge.new.upstream.sent = [] := rfl
  simp only [hempty, hnone, List.nil_append, List.length_nil] at hsent hruns
  have htask : task = (runFrom (Bridge.step b sendOk) Bridge.new es).upstream := rfl
  rw [← htask] at hsent hruns
  obtain ⟨hstream, hvalid⟩ := transport_stable.stream_drain
    (fun buf packet n h => framePacket_of_decodeFrame h) (Bridge.streamRead es)
  have hpre := sendsUntilFailure_prefix sendOk 0
    (transport.drain (Bridge.streamRead es)).packets
  refine ⟨hsent, ?_, ?_, ?_, hruns⟩
  · rw [hsent]
    exact fun packet hmem => hvalid packet (hpre.subset hmem)
  · rw [hsent]
    generalize transport.drain (Bridge.streamRead es) = r at hpre hstream
    obtain ⟨more, hmore⟩ := hpre
    generalize sendsUntilFailure sendOk 0 r.packets = sent at hmore
    rw [← hstream, ← hmore, transport.stream_append, List.append_assoc]
    exact List.prefix_append _ _
  · intro packets hpackets heq
    have hprefix : Bridge.streamRead es <+: transport.stream packets := heq ▸ List.prefix_refl _
    have hdrain := transport_sound.drain_prefix hpackets hprefix
    have hall : transport.complete packets (Bridge.streamRead es).length = packets.length := by
      rw [heq]
      exact transport.complete_stream packets
    rw [hall, List.take_length] at hdrain
    rw [hsent, hdrain]

/-- In every run of a bridge whose stream takes what is written: however the written bytes arrive at
the client, it reads the gateway's datagrams up to the first one that does not fit into a frame. It
reads all of them exactly if all fit, and it fails exactly if one does not. -/
theorem bridge_downstream_iff {b : BridgeBuffers} (hb : b = handleTlsClient ∨ b = handleQuicClient)
    (sendOk : Nat → Bool) (es : List Bridge.Event) (hes : ∀ e ∈ es, Bridge.StreamTakes e)
    {chunks : List Bytes} (hchunks : chunks.flatten =
      (runFrom (Bridge.step b sendOk) Bridge.new es).downstream.written) :
    (FrameDecoder.new.receive chunks).1 =
      (Bridge.datagrams es).takeWhile (fun packet => Framable packet) ∧
    ((FrameDecoder.new.receive chunks).1 = Bridge.datagrams es ↔
      ∀ packet ∈ Bridge.datagrams es, 1 ≤ packet.length ∧ packet.length ≤ 1500) ∧
    ((FrameDecoder.new.receive chunks).2.1 = none ↔
      ∀ packet ∈ Bridge.datagrams es, 1 ≤ packet.length ∧ packet.length ≤ 1500) := by
  have hsize : maxFramedPacketSize < b.datagramBuf ∧ b.datagramBuf < 65536 := by
    rcases hb with rfl | rfl
    · exact ⟨by decide, by decide⟩
    · exact ⟨by decide, by decide⟩
  obtain ⟨-, hwritten⟩ := Bridge.written_eq (b := b) (c := Bridge.new) sendOk hes rfl
  rw [hwritten] at hchunks
  obtain ⟨hpackets, herror, -⟩ := transport_stable.receive_eq_drain
    transport_sound.empty chunks
  obtain ⟨htaken, hnone⟩ := drain_datagrams hsize.1 hsize.2 (Bridge.datagrams es)
  have hstream : [] ++ chunks.flatten = ((Bridge.datagrams es).map fun packet =>
      framePacket (packet.take b.datagramBuf)).flatten := by
    rw [hchunks]
    rfl
  rw [hstream] at hpackets herror
  have hall : (Bridge.datagrams es).takeWhile (fun packet => Framable packet) =
      Bridge.datagrams es ↔ ∀ packet ∈ Bridge.datagrams es, Framable packet := by
    rw [List.takeWhile_eq_self_iff]
    simp only [decide_eq_true_eq]
  rw [FrameDecoder.receive_eq]
  have hstart : FrameDecoder.new.buf = [] := rfl
  simp only [hstart, hpackets, herror, htaken]
  exact ⟨trivial, hall, hnone⟩

/-- A datagram too long for a frame. -/
def sampleLongDatagram : Bytes := List.replicate 1501 0

theorem length_sampleLongDatagram : sampleLongDatagram.length = 1501 := List.length_replicate

/-- A client of the TLS bridge that reads two datagrams, and one that reads a datagram and fails at the
next, which is too long for a frame. -/
theorem bridge_downstream_sample :
    ((FrameDecoder.new.receive [[0, 2, 7], [8, 0], [1, 9]]).1 = [[7, 8], [9]] ∧
      (FrameDecoder.new.receive [[0, 2, 7], [8, 0], [1, 9]]).2.1 = none) ∧
    (FrameDecoder.new.receive [framePacket [7, 8], framePacket sampleLongDatagram]).1 = [[7, 8]] ∧
      (FrameDecoder.new.receive [framePacket [7, 8], framePacket sampleLongDatagram]).2.1 ≠ none := by
  have hshort : ∀ packet ∈ ([[7, 8], [9]] : List Bytes),
      1 ≤ packet.length ∧ packet.length ≤ 1500 := by decide
  obtain ⟨-, hreads, hfits⟩ := @bridge_downstream_iff _ (Or.inl rfl) (fun _ => true)
    [.recv [7, 8] none true, .read [0, 1], .recv [9] none true] (by simp [Bridge.StreamTakes])
    [[0, 2, 7], [8, 0], [1, 9]] (by decide)
  have hes : ∀ e ∈ [Bridge.Event.recv [7, 8] none true, .recv sampleLongDatagram none true],
      Bridge.StreamTakes e := by simp [Bridge.StreamTakes]
  have hwritten := (@Bridge.written_eq handleTlsClient Bridge.new (fun _ => true) _ hes rfl).2
  have hwhole : sampleLongDatagram.take handleTlsClient.datagramBuf = sampleLongDatagram :=
    List.take_of_length_le (by rw [length_sampleLongDatagram]; decide)
  have hlong : ¬ Framable sampleLongDatagram := by
    rintro ⟨-, hle⟩
    rw [length_sampleLongDatagram] at hle
    exact absurd hle (by decide)
  obtain ⟨hread, -, hfails⟩ := @bridge_downstream_iff _ (Or.inl rfl) (fun _ => true) _ hes
    [framePacket [7, 8], framePacket sampleLongDatagram] (by
      rw [hwritten]
      simp only [Bridge.datagrams, List.map_cons, List.map_nil, hwhole]
      rfl)
  refine ⟨⟨hreads.2 hshort, hfits.2 hshort⟩, hread.trans ?_, fun hnone => ?_⟩
  · simp only [Bridge.datagrams]
    rw [List.takeWhile_cons_of_pos (by decide), List.takeWhile_cons_of_neg (by simpa using hlong)]
  · exact hlong (hfails.1 hnone _ (List.mem_cons_of_mem _ List.mem_cons_self))

end Aivpn
