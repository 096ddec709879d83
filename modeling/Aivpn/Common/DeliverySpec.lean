import Aivpn.Common.RecvWindow
import Aivpn.Lib.Runs

/-!
# What the decoder delivers

Datagrams reach `decode_packet_with_mdh_len` one after the other, with one receive window: genuine
ones, built by `build_zero_mdh_packet` under the keys of the receiver, in any order and multiplicity,
and other byte strings in between. `Deliverable` is the specification: which genuine datagrams are to
be decoded, from the counters decoded so far. The decoder meets it at every arrival of every sequence
(`meetsSpec_of_arrivals`); every other datagram is refused and leaves the window alone.
-/

set_option autoImplicit false

namespace Aivpn

open Aivpn.Lib

/-- A datagram: one that `build_zero_mdh_packet` has built at `sentMs` for a counter, or any other
bytes. -/
inductive Datagram where
  | genuine (sentMs counter : Nat) (header : InnerHeader) (payload : Bytes) (r : PacketRandomness)
  | other (bytes : Bytes)

/-- A datagram that reaches the decoder at `nowMs`. -/
structure Arrival where
  nowMs : Nat
  datagram : Datagram

/-- The decoder's window, and the counters decoded so far, newest first. -/
structure Receiver where
  window : RecvWindow
  decoded : List Nat

/-- The time window of the arrival. -/
def Arrival.timeWindow (a : Arrival) : Nat := computeTimeWindow a.nowMs defaultWindowMs

section

variable (P : Primitives) (keys : SessionKeys)

/-- The bytes on the wire. -/
def Datagram.bytes : Datagram → Bytes
  | genuine sentMs counter header payload r =>
      (buildZeroMdhPacket P (computeTimeWindow sentMs defaultWindowMs) r keys counter
        (buildInnerPacket header.innerType header.seqNum payload) none).1
  | other bytes => bytes

/-- The decoder on an arrival. -/
def Receiver.decode (s : Receiver) (a : Arrival) : Outcome DecodedPacket × RecvWindow :=
  decodePacketWithMdhLen P a.timeWindow (a.datagram.bytes P keys) keys s.window 4

/-- The receiver behind an arrival. -/
def Receiver.step (s : Receiver) (a : Arrival) : Receiver where
  window := (s.decode P keys a).2
  decoded := match (s.decode P keys a).1 with
    | .ok packet => packet.counter :: s.decoded
    | .error _ => s.decoded

/-- The specification of delivery: the counter is not a decoded one, not too far below or above the
highest of these, and the two time windows differ by at most one. -/
structure Deliverable (decoded : List Nat) (now sent counter : Nat) : Prop where
  fresh : counter ∉ decoded
  reach : ∀ highest, decoded.max? = some highest →
    highest ≤ counter + 255 ∧ counter ≤ highest + 4096
  first : decoded = [] → counter < 4096
  window : sent ≤ now + 1 ∧ now ≤ sent + 1

/-- The datagram is refused and leaves the window alone. -/
def Receiver.Refuses (s : Receiver) (a : Arrival) : Prop :=
  (∃ e, (s.decode P keys a).1 = err e) ∧ (s.decode P keys a).2 = s.window

/-- The decoder does what the specification says. -/
def MeetsSpec (s : Receiver) (a : Arrival) : Prop :=
  match a.datagram with
  | .genuine sentMs counter header payload _ =>
      ((s.decode P keys a).1 = .ok ⟨counter, header, payload⟩ ↔
        Deliverable s.decoded a.timeWindow (computeTimeWindow sentMs defaultWindowMs) counter) ∧
      (¬ Deliverable s.decoded a.timeWindow (computeTimeWindow sentMs defaultWindowMs) counter →
        s.Refuses P keys a)
  | .other _ => s.Refuses P keys a

/-- The bytes authenticate: they carry the tag of a counter, and a ciphertext for its nonce. -/
def Authentic (bytes : Bytes) : Prop :=
  ∃ counter tw, P.generateResonanceTag keys.tagSecret counter tw = readArray 8 0 bytes ∧
    (P.decrypt keys.sessionKey (counterToNonce counter) (bytes.drop 12)).isSome

/-- What is assumed of an arrival: timestamps are `u64` values, counters are below `2 ^ 63`, the tags
that the search compares are those of triples in `D`, and bytes that were not built for these keys do
not authenticate. -/
def Expected (D : Set (Key × Nat × Nat)) (s : Receiver) (a : Arrival) : Prop :=
  a.nowMs < 2 ^ 64 ∧ s.window.searched a.timeWindow keys.tagSecret ⊆ D ∧
  match a.datagram with
  | .genuine sentMs counter _ _ _ => sentMs < 2 ^ 64 ∧ counter < 2 ^ 63 ∧
      (keys.tagSecret, counter, computeTimeWindow sentMs defaultWindowMs) ∈ D
  | .other bytes => ¬ Authentic P keys bytes

/-- The AEAD under a key: the ciphertext is longer by the authentication tag, and decryption undoes
encryption. -/
structure SoundAead (key : Key) : Prop where
  size : ∀ nonce p, (P.encrypt key nonce p).length = p.length + poly1305TagSize
  opens : ∀ nonce p, P.decrypt key nonce (P.encrypt key nonce p) = some p

end

/-! ## Windows -/

/-- The three windows of a search are those that differ by at most one. -/
theorem mem_windows_iff {nowMs sentMs : Nat} (hnow : nowMs < 2 ^ 64) (hsent : sentMs < 2 ^ 64) :
    (computeTimeWindow sentMs defaultWindowMs ∈
      [computeTimeWindow nowMs defaultWindowMs,
        wrappingPred (computeTimeWindow nowMs defaultWindowMs),
        wrappingAdd (computeTimeWindow nowMs defaultWindowMs) 1]) ↔
      computeTimeWindow sentMs defaultWindowMs ≤ computeTimeWindow nowMs defaultWindowMs + 1 ∧
        computeTimeWindow nowMs defaultWindowMs ≤ computeTimeWindow sentMs defaultWindowMs + 1 := by
  have hsmall : ∀ ms < 2 ^ 64, computeTimeWindow ms defaultWindowMs < 2 ^ 60 := by
    intro ms hms
    unfold computeTimeWindow defaultWindowMs
    omega
  have h1 := hsmall nowMs hnow
  have h2 := hsmall sentMs hsent
  simp only [List.mem_cons, List.not_mem_nil, or_false, wrappingPred, wrappingAdd, u64Max]
  omega

/-- In terms of the window: a counter is deliverable exactly when it is new and the search reaches
it. -/
theorem deliverable_iff {w : RecvWindow} {decoded : List Nat} (h : w.Holds { c | c ∈ decoded })
    (secret : Key) (c : Nat) {nowMs sentMs : Nat} (hnow : nowMs < 2 ^ 64)
    (hsent : sentMs < 2 ^ 64) :
    Deliverable decoded (computeTimeWindow nowMs defaultWindowMs)
      (computeTimeWindow sentMs defaultWindowMs) c ↔
    w.isNew c = true ∧ (secret, c, computeTimeWindow sentMs defaultWindowMs) ∈
      w.searched (computeTimeWindow nowMs defaultWindowMs) secret := by
  have hsearched : (secret, c, computeTimeWindow sentMs defaultWindowMs) ∈
      w.searched (computeTimeWindow nowMs defaultWindowMs) secret ↔
        w.searchStart ≤ c ∧ c < w.searchEnd ∧
        computeTimeWindow sentMs defaultWindowMs ≤ computeTimeWindow nowMs defaultWindowMs + 1 ∧
        computeTimeWindow nowMs defaultWindowMs ≤
          computeTimeWindow sentMs defaultWindowMs + 1 := by
    rw [← mem_windows_iff hnow hsent]
    exact ⟨fun hx => hx.2, fun hx => ⟨rfl, hx⟩⟩
  rw [h.isNew_iff, hsearched]
  unfold RecvWindow.searchStart RecvWindow.searchEnd recvReorderWindow recvFutureSearchWindow
  -- `highest < 0` means that nothing was decoded yet, and the search starts at 0
  by_cases hneg : w.highest < 0
  · obtain rfl := h.eq_nil hneg
    simp only [hneg, if_true]
    constructor
    · intro hd
      exact ⟨⟨hd.fresh, fun hpos => absurd hneg (not_lt.2 hpos)⟩, Nat.zero_le _, hd.first rfl,
        hd.window⟩
    · rintro ⟨⟨hnot, -⟩, -, hlt, hwin⟩
      exact ⟨hnot, nofun, fun _ => hlt, hwin⟩
  -- otherwise the highest counter decoded is the maximum of the list
  · have hpos : 0 ≤ w.highest := not_lt.1 hneg
    have hmax := h.max?_eq hpos
    simp only [hneg, if_false, hpos, true_imp_iff]
    constructor
    · intro hd
      have hreach := hd.reach _ hmax
      exact ⟨⟨hd.fresh, by omega⟩, by omega, by omega, hd.window⟩
    · rintro ⟨⟨hnot, hlow⟩, hstart, hend, hwin⟩
      refine ⟨hnot, fun highest hh => ?_, fun hnil => ?_, hwin⟩
      · rw [hmax, Option.some.injEq] at hh
        omega
      · rw [hnil] at hmax
        cases hmax

/-! ## The decoder -/

section

variable {P : Primitives} {keys : SessionKeys} {D : Set (Key × Nat × Nat)}

theorem not_short_assemble (haead : SoundAead P keys.sessionKey) (tw counter : Nat) {mdh : Bytes}
    (hmdh : mdh.length = 4) (padded : Bytes) :
    ¬ (assemble P tw keys counter mdh padded).length < tagSize + 4 + 16 := by
  unfold assemble Primitives.encryptPayload
  rw [List.length_append, List.length_append, haead.size, ByteArr.length_toList, hmdh]
  simp only [tagSize, poly1305TagSize]
  omega

/-- The decoder on a genuine datagram, with any header of four bytes: it is decoded when its counter
is new and the search reaches it, and refused otherwise. -/
theorem decode_genuine (haead : SoundAead P keys.sessionKey) (hD : P.CollisionFree D)
    {w : RecvWindow} {tw sent counter : Nat} (hsearched : w.searched tw keys.tagSecret ⊆ D)
    (hmem : (keys.tagSecret, counter, sent) ∈ D) (header : InnerHeader) (payload : Bytes)
    {padding : Bytes} (hpad : padding.length < 65536) {mdh : Bytes} (hmdh : mdh.length = 4) :
    let d := assemble P sent keys counter mdh (padPlaintext (header.encode ++ payload) padding)
    (w.isNew counter = true ∧ (keys.tagSecret, counter, sent) ∈ w.searched tw keys.tagSecret ∧
      decodePacketWithMdhLen P tw d keys w 4 =
        (.ok ⟨counter, header, payload⟩, w.mark counter)) ∨
    (¬ (w.isNew counter = true ∧ (keys.tagSecret, counter, sent) ∈ w.searched tw keys.tagSecret) ∧
      decodePacketWithMdhLen P tw d keys w 4 =
        (err (.invalidPacket "Invalid resonance tag"), w)) := by
  intro d
  have hd : d = assemble P sent keys counter mdh (padPlaintext (header.encode ++ payload) padding) :=
    rfl
  have hdrop : d.drop (tagSize + 4) = P.encrypt keys.sessionKey (counterToNonce counter)
      (padPlaintext (header.encode ++ payload) padding) := by
    rw [hd, ← hmdh]
    exact drop_assemble P sent keys counter mdh _
  have hpadded := decodePadded_padPlaintext counter header payload padding hpad
  unfold decodePacketWithMdhLen
  rw [hdrop, hd, if_neg (not_short_assemble haead _ _ hmdh _), readArray_assemble]
  by_cases hfound : w.isNew counter = true ∧
      (keys.tagSecret, counter, sent) ∈ w.searched tw keys.tagSecret
  · refine Or.inl ⟨hfound.1, hfound.2, ?_⟩
    have hfind := (RecvWindow.findCounter_eq_some_iff hD hmem hsearched).2 ⟨rfl, hfound⟩
    simp only [hfind, Primitives.decryptPayload, haead.opens, hpadded]
  · refine Or.inr ⟨hfound, ?_⟩
    -- a counter that is found would be this one, as no two tags of the searched set meet
    have hnone : w.findCounter P tw (P.generateResonanceTag keys.tagSecret counter sent) keys =
        none := by
      by_contra hsome
      obtain ⟨c', hc'⟩ := Option.ne_none_iff_exists'.1 hsome
      exact hfound ((RecvWindow.findCounter_eq_some_iff hD hmem hsearched).1 hc').2
    simp only [hnone]

/-- Bytes that do not authenticate are refused. -/
theorem decode_other {w : RecvWindow} {bytes : Bytes} (h : ¬ Authentic P keys bytes) (tw : Nat) :
    (∃ e, (decodePacketWithMdhLen P tw bytes keys w 4).1 = err e) ∧
      (decodePacketWithMdhLen P tw bytes keys w 4).2 = w := by
  rcases decodePacketWithMdhLen_cases P tw bytes keys w 4 with
    ⟨e, heq⟩ | ⟨counter, padded, hfind, hdec, -⟩
  · rw [heq]
    exact ⟨⟨e, rfl⟩, rfl⟩
  · obtain ⟨-, t, -, htag⟩ := RecvWindow.searched_of_findCounter hfind
    exact absurd ⟨counter, t, htag, Option.isSome_iff_exists.2 ⟨padded, hdec⟩⟩ h

/-! ## Sequences of arrivals -/

/-- The window holds the counters decoded so far. -/
def Receiver.Inv (s : Receiver) : Prop := s.window.Holds { c | c ∈ s.decoded }

theorem Receiver.Refuses.inv {s : Receiver} {a : Arrival} (h : s.Inv) (hr : s.Refuses P keys a) :
    (s.step P keys a).Inv := by
  obtain ⟨⟨e, he⟩, hw⟩ := hr
  unfold Receiver.Inv Receiver.step
  simp only [he, hw]
  exact h

/-- One arrival: the decoder meets the specification, and the window keeps track. -/
theorem Receiver.Inv.arrival {s : Receiver} (h : s.Inv) (haead : SoundAead P keys.sessionKey)
    (hD : P.CollisionFree D) {a : Arrival} (he : Expected P keys D s a) :
    MeetsSpec P keys s a ∧ (s.step P keys a).Inv := by
  obtain ⟨nowMs, datagram⟩ := a
  obtain ⟨hnow, hsearched, hrest⟩ := he
  cases datagram with
  | other bytes =>
      have hrefuses : s.Refuses P keys ⟨nowMs, .other bytes⟩ := decode_other hrest _
      exact ⟨hrefuses, hrefuses.inv h⟩
  | genuine sentMs counter header payload r =>
      obtain ⟨hsent, hcounter, hmem⟩ := hrest
      have hiff := deliverable_iff h keys.tagSecret counter hnow hsent
      have hpad : (r.fill (8 + r.draw % 16)).length < 65536 := by
        rw [PacketRandomness.length_fill]
        omega
      have hmdh : defaultZeroMdh.length = 4 := rfl
      rcases decode_genuine haead hD hsearched hmem header payload hpad hmdh with
        ⟨hnew, hin, hdec⟩ | ⟨hnot, hdec⟩
      -- the counter is new and in reach, and the datagram opens
      · have hresult : s.decode P keys ⟨nowMs, .genuine sentMs counter header payload r⟩ =
            (.ok ⟨counter, header, payload⟩, s.window.mark counter) := hdec
        have hdeliverable := hiff.2 ⟨hnew, hin⟩
        refine ⟨⟨?_, fun hn => absurd hdeliverable hn⟩, ?_⟩
        · rw [hresult]
          exact ⟨fun _ => hdeliverable, fun _ => rfl⟩
        · unfold Receiver.Inv Receiver.step
          simp only [hresult]
          have hset : { c | c ∈ counter :: s.decoded } = insert counter { c | c ∈ s.decoded } := by
            ext x
            exact List.mem_cons
          rw [hset]
          exact RecvWindow.Holds.mark h hcounter
      -- the tag is not found, so that nothing changes
      · have hresult : s.decode P keys ⟨nowMs, .genuine sentMs counter header payload r⟩ =
            (err (.invalidPacket "Invalid resonance tag"), s.window) := hdec
        have hrefuses : s.Refuses P keys ⟨nowMs, .genuine sentMs counter header payload r⟩ := by
          unfold Receiver.Refuses
          rw [hresult]
          exact ⟨⟨_, rfl⟩, rfl⟩
        refine ⟨⟨?_, fun _ => hrefuses⟩, hrefuses.inv h⟩
        rw [hresult]
        exact ⟨nofun, fun hd => absurd (hiff.1 hd) hnot⟩

end

/-- The delivery specification: at every arrival of every sequence, a genuine datagram is decoded to
its counter, header and payload exactly when the specification says so, and every other datagram is
refused and leaves the window alone. -/
theorem meetsSpec_of_arrivals (P : Primitives) (keys : SessionKeys) (D : Set (Key × Nat × Nat))
    (haead : SoundAead P keys.sessionKey) (hD : P.CollisionFree D) (arrivals : List Arrival)
    (hexpected : Along (Receiver.step P keys) (Expected P keys D) ⟨RecvWindow.new, []⟩ arrivals) :
    Along (Receiver.step P keys) (MeetsSpec P keys) ⟨RecvWindow.new, []⟩ arrivals := by
  have hinit : Receiver.Inv ⟨RecvWindow.new, []⟩ := by
    have hempty : { c | c ∈ ([] : List Nat) } = ∅ := by
      ext x
      simp
    unfold Receiver.Inv
    rw [hempty]
    exact RecvWindow.holds_new
  exact Along.imp_of_invariant (fun s a h he => (h.arrival haead hD he).2)
    (fun s a h he => (h.arrival haead hD he).1) hinit hexpected

/-! ## A sequence of arrivals -/

/-- Keys for evaluating the decoder. -/
def sampleWireKeys : SessionKeys :=
  ⟨ByteArr.replicate 32 1, ByteArr.replicate 32 2, ByteArr.replicate 32 3⟩

/-- A genuine datagram for counter 5, three other bytes, and the datagram again. -/
def sampleArrivals : List Arrival :=
  [⟨1000000, .genuine 1000000 5 ⟨.data, 0⟩ [0x45] ⟨0, 0, fun _ => 0⟩⟩, ⟨1000000, .other [1, 2, 3]⟩,
    ⟨1000000, .genuine 1000000 5 ⟨.data, 0⟩ [0x45] ⟨0, 0, fun _ => 0⟩⟩]

theorem samplePrimitives_soundAead (key : Key) : SoundAead samplePrimitives key where
  size nonce p := by simp [samplePrimitives, poly1305TagSize]
  opens nonce p := by
    have hlen : (p ++ (key.toList.take 2 ++ leBytes 2 p.length ++ nonce.toList)).length - 16 =
        p.length := by
      simp
    simp only [samplePrimitives, hlen, List.drop_left, List.take_left, if_true]

theorem sampleArrivals_expected :
    Along (Receiver.step samplePrimitives sampleWireKeys)
      (Expected samplePrimitives sampleWireKeys (smallTriples [sampleWireKeys.tagSecret]))
      ⟨RecvWindow.new, []⟩ sampleArrivals := by
  have hsearched : ∀ w : RecvWindow, w.highest < 2 ^ 20 →
      w.searched 100 sampleWireKeys.tagSecret ⊆ smallTriples [sampleWireKeys.tagSecret] :=
    fun w hw => RecvWindow.searched_subset_smallTriples (by simp) hw (by decide) (by decide)
  have hgenuine : (1000000 < 2 ^ 64 ∧ 5 < 2 ^ 63 ∧ (sampleWireKeys.tagSecret, 5, 100) ∈
      smallTriples [sampleWireKeys.tagSecret]) := ⟨by decide, by decide, by simp, by decide, by decide⟩
  have hother : ¬ Authentic samplePrimitives sampleWireKeys [1, 2, 3] := by
    rintro ⟨counter, tw, -, hsome⟩
    rw [samplePrimitives_decrypt_eq_none (by decide)] at hsome
    cases hsome
  refine ⟨⟨by decide, hsearched _ (by decide), hgenuine⟩, ⟨by decide, hsearched _ ?_, hother⟩,
    ⟨by decide, hsearched _ ?_, hgenuine⟩, trivial⟩
  · decide +kernel
  · decide +kernel

/-- The first datagram is decoded, the other two are refused. -/
theorem sampleArrivals_meetSpec :
    Along (Receiver.step samplePrimitives sampleWireKeys)
      (MeetsSpec samplePrimitives sampleWireKeys) ⟨RecvWindow.new, []⟩ sampleArrivals :=
  meetsSpec_of_arrivals samplePrimitives sampleWireKeys _ (samplePrimitives_soundAead _)
    (samplePrimitives_collisionFree (by decide)) sampleArrivals sampleArrivals_expected

end Aivpn
