import Aivpn.Client.AivpnCrypto
import Aivpn.Common.DeliverySpec

/-!
# The receive window of the Kotlin client

`decryptDataPacket`, `isCounterNew` and `markCounter` of `AivpnCrypto.kt`, between two ratchets. The
window is one Long, and `Holds` relates it to the set of counters that were received: the highest of
them, and a bit for each of the last 64. A datagram of the server is opened when its counter is not a
received one and the search reaches it; opened or refused, the client keeps the relation, so that it
answers from the set at every arrival of every sequence (`receives_once`).

Longs are integers here; counters at least 258 below `2 ^ 63` leave every sum of the code in range
(`longs_in_range`).
-/

set_option autoImplicit false

namespace Aivpn

open Aivpn.Lib

namespace AivpnCrypto

/-- `toInt` of a Long: the low 32 bits, with their sign. -/
def toInt (x : Int) : Int := x.bmod (2 ^ 32)

/-- `shl` of a Long, which reads six bits of the distance. -/
def shl (x : BitVec 64) (distance : Int) : BitVec 64 := x <<< (distance % 64).toNat

/-- `markCounter`. -/
def markCounter (counter : Int) (c : AivpnCrypto) : AivpnCrypto :=
  if counter > c.recvHighest then
    let shift := counter - c.recvHighest
    let recvWindow := if 64 ≤ shift then 0#64 else shl c.recvWindow (toInt shift)
    { c with recvWindow := recvWindow ||| 1#64, recvHighest := counter }
  else
    let diff := toInt (c.recvHighest - counter)
    if diff < 64 then { c with recvWindow := c.recvWindow ||| shl 1#64 diff } else c

/-- The end of `decryptDataPacket`, behind the decryption. An exception leaves the function with
`none`. -/
def readPlaintext (plaintext : Bytes) (validCounter : Int) (c : AivpnCrypto) :
    Option (Option Bytes × AivpnCrypto) := do
  if plaintext.length < 2 then return (none, c)
  let padLen : Int := (plaintext.getD 0 0).toNat + 256 * (plaintext.getD 1 0).toNat
  if 2 + padLen > plaintext.length then return (none, c)
  let inner ← copyOfRange plaintext 2 (plaintext.length - padLen)
  if inner.length < 4 then return (none, c)
  let innerType := inner.getD 0 0
  let c := c.markCounter validCounter
  if innerType = 0x01 then
    let ipPacket ← copyOfRange inner 4 inner.length
    return (some ipPacket, c)
  else return (none, c)

/-- `decryptDataPacket` in time window `timeWindow`: the IP packet or null, and the state behind the
call. An exception leaves the function with `none`. -/
def decryptDataPacket (P : Primitives) (timeWindow : Int) (packet : Bytes) (c : AivpnCrypto) :
    Option (Option Bytes × AivpnCrypto) := do
  if packet.length < 8 + 4 + 16 then return (none, c)
  let tag ← copyOfRange packet 0 8
  match findCounter P timeWindow (readArray 8 0 tag) c with
  | none => return (none, c)
  | some validCounter => do
      let ciphertext ← copyOfRange packet 12 packet.length
      match P.decrypt c.sessionKey (counterToNonce validCounter) ciphertext with
      | none => return (none, c)
      | some plaintext => readPlaintext plaintext validCounter c

/-! ## The window and the set of received counters -/

/-- The window has marked the counters in `seen`. -/
structure Holds (c : AivpnCrypto) (seen : Set Nat) : Prop where
  empty : c.recvHighest < 0 → c.recvHighest = -1 ∧ c.recvWindow = 0#64 ∧ seen = ∅
  mem : 0 ≤ c.recvHighest → c.recvHighest.toNat ∈ seen
  le : ∀ n ∈ seen, n ≤ c.recvHighest.toNat
  tracks : 0 ≤ c.recvHighest →
    SlidingWindow.Tracks c.recvWindow.getLsbD 64 c.recvHighest.toNat seen

/-- The client that the constructor or a ratchet leaves. -/
def Fresh (c : AivpnCrypto) : Prop := c.recvHighest = -1 ∧ c.recvWindow = 0#64

theorem Fresh.holds {c : AivpnCrypto} (h : c.Fresh) : c.Holds ∅ where
  empty _ := ⟨h.1, h.2, rfl⟩
  mem hpos := absurd hpos (by rw [h.1]; decide)
  le _ hn := absurd hn (Set.notMem_empty _)
  tracks hpos := absurd hpos (by rw [h.1]; decide)

variable {c : AivpnCrypto} {seen : Set Nat}

theorem toInt_of_lt {x : Int} (h0 : 0 ≤ x) (h : x < 2 ^ 31) : toInt x = x :=
  Int.bmod_eq_of_le (by omega) (by omega)

theorem shl_of_lt (x : BitVec 64) {n : Nat} (h : n < 64) : shl x n = x <<< n := by
  have hmod : ((n : Int) % 64).toNat = n := by omega
  unfold shl
  rw [hmod]

theorem ushr_and_one (x : BitVec 64) (i : Nat) :
    (x >>> i &&& 1#64 == 0#64) = !x.getLsbD i := by
  have hbit : x >>> i &&& 1#64 = if x.getLsbD i then 1#64 else 0#64 := by
    apply BitVec.eq_of_getLsbD_eq
    intro j hj
    by_cases h0 : j = 0
    · subst h0
      cases hx : x.getLsbD i <;> simp [hx]
    · cases hx : x.getLsbD i <;> simp [BitVec.getLsbD_one, h0]
  rw [hbit]
  cases x.getLsbD i <;> decide

theorem getLsbD_or_one_shiftLeft (x : BitVec 64) (k : Nat) {i : Nat} (hi : i < 64) :
    (x ||| 1#64 <<< k).getLsbD i = (decide (k = i) || x.getLsbD i) := by
  rw [BitVec.getLsbD_or, WideBits.getLsbD_one_shiftLeft, Bool.or_comm]
  simp only [hi, decide_true, Bool.true_and]

/-- The word that `markCounter` keeps when the highest counter moves by `k`. -/
theorem getLsbD_moved (x : BitVec 64) (k : Nat) {i : Nat} (hi : i < 64) :
    (if 64 ≤ k then 0#64 else x <<< k).getLsbD i = (decide (k ≤ i) && x.getLsbD (i - k)) := by
  by_cases hfar : 64 ≤ k
  · have hk : ¬ k ≤ i := by omega
    simp [hfar, hk]
  · by_cases hk : k ≤ i
    · have hk' : ¬ i < k := by omega
      rw [if_neg hfar, BitVec.getLsbD_shiftLeft]
      simp [hi, hk, hk']
    · have hk' : i < k := by omega
      rw [if_neg hfar, BitVec.getLsbD_shiftLeft]
      simp [hk, hk']

/-- A counter is new when it was not received and lies no more than 63 below the highest one. -/
theorem Holds.isCounterNew_iff (h : c.Holds seen) (n : Nat) :
    c.isCounterNew n = true ↔ n ∉ seen ∧ c.recvHighest < n + 64 := by
  unfold isCounterNew
  by_cases hgt : (n : Int) > c.recvHighest
  · simp only [hgt, if_true, true_iff]
    refine ⟨fun hmem => ?_, by omega⟩
    have hle := h.le n hmem
    by_cases hneg : c.recvHighest < 0
    · rw [(h.empty hneg).2.2] at hmem
      exact Set.notMem_empty _ hmem
    · omega
  · have hpos : 0 ≤ c.recvHighest := by omega
    simp only [hgt, if_false]
    -- too far behind the highest, or on a bit of the window
    by_cases hold : 64 ≤ c.recvHighest - n
    · simp only [hold, if_true, Bool.false_eq_true, false_iff, not_and, not_lt]
      intro _
      omega
    · have hbit := h.tracks hpos (c.recvHighest - n).toNat (by omega) (by omega)
      have hback : c.recvHighest.toNat - (c.recvHighest - n).toNat = n := by omega
      rw [hback] at hbit
      simp only [hold, if_false, ushr_and_one, Bool.not_eq_true', ← Bool.not_eq_true, hbit]
      constructor
      · exact fun hnot => ⟨hnot, by omega⟩
      · exact fun hboth => hboth.1

/-- Above the highest counter the window moves up. -/
theorem markCounter_above {n : Nat} (hgt : c.recvHighest < n) :
    c.markCounter n = { c with
      recvWindow := (if 64 ≤ (n - c.recvHighest).toNat then 0#64
        else c.recvWindow <<< (n - c.recvHighest).toNat) ||| 1#64 <<< 0
      recvHighest := n } := by
  unfold markCounter
  rw [if_pos hgt]
  by_cases hfar : 64 ≤ (n : Int) - c.recvHighest
  · have hfar' : 64 ≤ ((n : Int) - c.recvHighest).toNat := by omega
    simp only [hfar, hfar', if_true]
    rfl
  · have hfar' : ¬ 64 ≤ ((n : Int) - c.recvHighest).toNat := by omega
    have hshift : toInt (n - c.recvHighest) = ((n - c.recvHighest).toNat : Nat) := by
      rw [toInt_of_lt (by omega) (by omega)]
      omega
    simp only [hfar, hfar', if_false, hshift]
    rw [shl_of_lt _ (by omega)]
    rfl

/-- Inside the window the bit of the counter is set. -/
theorem markCounter_inside {n : Nat} (hle : n ≤ c.recvHighest) (hin : c.recvHighest < n + 64) :
    c.markCounter n = { c with
      recvWindow := c.recvWindow ||| (1#64 <<< (c.recvHighest - n).toNat) } := by
  have hdiff : toInt (c.recvHighest - n) = ((c.recvHighest - n).toNat : Nat) := by
    rw [toInt_of_lt (by omega) (by omega)]
    omega
  unfold markCounter
  rw [if_neg (not_lt.2 hle)]
  simp only [hdiff]
  rw [if_pos (by omega), shl_of_lt _ (by omega)]

/-- A client whose highest counter is `n`. -/
theorem holds_of_tracks {n : Nat} (hhighest : c.recvHighest = n) (hmem : n ∈ seen)
    (hle : ∀ x ∈ seen, x ≤ n) (htracks : SlidingWindow.Tracks c.recvWindow.getLsbD 64 n seen) :
    c.Holds seen := by
  have hnat : c.recvHighest.toNat = n := by omega
  refine ⟨fun hneg => absurd hneg (by omega), fun _ => ?_, ?_, fun _ => ?_⟩
  · rwa [hnat]
  · rwa [hnat]
  · rwa [hnat]

/-- The first counter, or one above the highest. -/
theorem Holds.markCounter_above (h : c.Holds seen) {n : Nat} (hgt : c.recvHighest < n) :
    (c.markCounter n).Holds (insert n seen) := by
  rw [AivpnCrypto.markCounter_above hgt]
  by_cases hneg : c.recvHighest < 0
  · obtain ⟨-, hwindow, rfl⟩ := h.empty hneg
    apply holds_of_tracks (n := n) rfl (Set.mem_insert n ∅)
    · intro x hx
      rcases Set.mem_insert_iff.1 hx with rfl | hold
      · exact le_rfl
      · exact absurd hold (Set.notMem_empty x)
    · -- no bit was set, so that none moves
      have hempty : SlidingWindow.Tracks (fun _ => false) 64 n ∅ :=
        SlidingWindow.tracks_empty (fun _ _ => rfl) n
      apply hempty.mark le_rfl
      intro i hi
      rw [getLsbD_or_one_shiftLeft _ _ hi, getLsbD_moved _ _ hi, hwindow, Nat.sub_self]
      simp
  · have hpos : 0 ≤ c.recvHighest := not_lt.1 hneg
    have hdist : (n - c.recvHighest).toNat = n - c.recvHighest.toNat := by omega
    apply holds_of_tracks (n := n) rfl (Set.mem_insert n seen)
    · intro x hx
      rcases Set.mem_insert_iff.1 hx with rfl | hold
      · exact le_rfl
      · have hle := h.le x hold
        omega
    · apply (h.tracks hpos).advance h.le (by omega)
      intro i hi
      rw [getLsbD_or_one_shiftLeft _ _ hi, getLsbD_moved _ _ hi, hdist]

/-- A counter that is neither above the highest nor below the window. -/
theorem Holds.markCounter_inside (h : c.Holds seen) {n : Nat} (hle : n ≤ c.recvHighest)
    (hin : c.recvHighest < n + 64) : (c.markCounter n).Holds (insert n seen) := by
  have hpos : 0 ≤ c.recvHighest := by omega
  have hdist : (c.recvHighest - n).toNat = c.recvHighest.toNat - n := by omega
  rw [AivpnCrypto.markCounter_inside hle hin]
  apply holds_of_tracks (n := c.recvHighest.toNat)
  · exact (Int.toNat_of_nonneg hpos).symm
  · exact Set.mem_insert_of_mem n (h.mem hpos)
  · intro x hx
    rcases Set.mem_insert_iff.1 hx with rfl | hold
    · omega
    · exact h.le x hold
  · apply (h.tracks hpos).mark (by omega)
    intro i hi
    rw [getLsbD_or_one_shiftLeft _ _ hi, hdist]

/-- Marking a counter that is not below the window adds it. -/
theorem Holds.markCounter (h : c.Holds seen) {n : Nat} (hin : c.recvHighest < n + 64) :
    (c.markCounter n).Holds (insert n seen) := by
  by_cases hgt : c.recvHighest < n
  · exact h.markCounter_above hgt
  · exact h.markCounter_inside (not_lt.1 hgt) hin

/-- While the counters stay 258 below `2 ^ 63`, the sums of the search are Longs. -/
theorem longs_in_range (h : c.Holds seen) (hseen : ∀ n ∈ seen, n + 257 < 2 ^ 63) :
    -1 ≤ c.recvHighest ∧ c.recvHighest + 257 < 2 ^ 63 := by
  by_cases hneg : c.recvHighest < 0
  · rw [(h.empty hneg).1]
    decide
  · have hhighest := hseen _ (h.mem (not_lt.1 hneg))
    omega

/-! ## The search -/

/-- The client has the keys of the server's session. -/
def KeyedBy (c : AivpnCrypto) (keys : SessionKeys) : Prop :=
  c.sessionKey = keys.sessionKey ∧ c.tagSecret = keys.tagSecret

theorem KeyedBy.markCounter {keys : SessionKeys} (h : c.KeyedBy keys) (n : Int) :
    (c.markCounter n).KeyedBy keys := by
  unfold AivpnCrypto.markCounter
  simp only
  split_ifs <;> exact h

/-- The counters that the search reaches. -/
def InReach (c : AivpnCrypto) (n : Nat) : Prop :=
  (c.recvHighest < 0 → n < 256) ∧
    (0 ≤ c.recvHighest → c.recvHighest - 63 ≤ n ∧ n ≤ c.recvHighest + 256)

instance (c : AivpnCrypto) (n : Nat) : Decidable (c.InReach n) :=
  inferInstanceAs (Decidable (_ ∧ _))

theorem mem_searchCounters_iff (hrange : -1 ≤ c.recvHighest) (n : Nat) :
    n ∈ c.searchCounters ↔ c.InReach n := by
  unfold searchCounters InReach
  rw [List.mem_range'_1]
  by_cases hneg : c.recvHighest < 0
  · have hstart : max (256 : Int) (c.recvHighest + 257) = 256 := by omega
    simp only [hneg, if_true, hstart, true_imp_iff]
    omega
  · have hend : max (256 : Int) (c.recvHighest + 257) = c.recvHighest + 257 := by omega
    have hstart : 0 ≤ max (0 : Int) (c.recvHighest - 63) := le_max_left _ _
    simp only [hneg, if_false, hend, false_imp_iff, true_and]
    omega

variable {P : Primitives}

/-- A counter that is found is new and in reach, and the tag is its tag in one of the three
windows. -/
theorem searched_of_findCounter {tw n : Nat} {tag : Tag} (h : findCounter P tw tag c = some n) :
    c.isCounterNew n = true ∧ ∃ t, (c.tagSecret, n, t) ∈ c.searched tw ∧
      P.generateResonanceTag c.tagSecret n t = tag := by
  rw [findCounter_eq] at h
  obtain ⟨t, ht, hfind⟩ := List.exists_of_findSome?_eq_some h
  have hmem := List.mem_of_find?_eq_some hfind
  have hn := List.find?_some hfind
  simp only [Bool.and_eq_true, decide_eq_true_eq] at hn
  exact ⟨hn.1, t, ⟨rfl, hmem, ht⟩, hn.2⟩

/-- The search for the tag of counter `n` in window `t` finds that counter or none. -/
theorem findCounter_eq_some_iff {D : Set (Key × Nat × Nat)} (hD : P.CollisionFree D)
    {tw n n' t : Nat} (hmem : (c.tagSecret, n, t) ∈ D) (hsearched : c.searched tw ⊆ D) :
    findCounter P tw (P.generateResonanceTag c.tagSecret n t) c = some n' ↔
      n' = n ∧ c.isCounterNew n = true ∧ (c.tagSecret, n, t) ∈ c.searched tw := by
  constructor
  · intro h
    obtain ⟨hnew, t', ht', htag⟩ := searched_of_findCounter h
    -- the tags are those of two triples in `D`, so the triples are the same
    have htriple := hD (hsearched ht') hmem htag
    simp only [Prod.mk.injEq, true_and] at htriple
    obtain ⟨rfl, rfl⟩ := htriple
    exact ⟨rfl, hnew, ht'⟩
  · rintro ⟨rfl, hnew, ht⟩
    exact findCounter_eq_some hD hsearched hnew ht

end AivpnCrypto

/-! ## Datagrams of the server -/

/-- A datagram of the server, sealed at `sentMs`: any inner packet behind four bytes of header, with
any padding. -/
structure ServerDatagram where
  sentMs : Nat
  counter : Nat
  header : InnerHeader
  payload : Bytes
  mdh : ByteArr 4
  padding : Bytes
  padding_lt : padding.length < 65536

namespace ServerDatagram

/-- The time window of the tag. -/
def timeWindow (d : ServerDatagram) : Nat := computeTimeWindow d.sentMs defaultWindowMs

/-- The bytes on the wire. -/
def bytes (P : Primitives) (keys : SessionKeys) (d : ServerDatagram) : Bytes :=
  assemble P d.timeWindow keys d.counter d.mdh.toList
    (padPlaintext (d.header.encode ++ d.payload) d.padding)

/-- What the client is to return: the IP packet of a Data datagram. -/
def ipPacket (d : ServerDatagram) : Option Bytes :=
  if d.header.innerType = .data then some d.payload else none

end ServerDatagram

namespace AivpnCrypto

variable {P : Primitives} {keys : SessionKeys} {c : AivpnCrypto}

/-- The decrypted datagram is parsed to its payload, and its counter is marked. -/
theorem readPlaintext_padPlaintext (d : ServerDatagram) (n : Int) (c : AivpnCrypto) :
    readPlaintext (padPlaintext (d.header.encode ++ d.payload) d.padding) n c =
      some (d.ipPacket, c.markCounter n) := by
  set plaintext := padPlaintext (d.header.encode ++ d.payload) d.padding with hplaintext
  have hlen : plaintext.length = 2 + (4 + d.payload.length) + d.padding.length := by
    rw [hplaintext, length_padPlaintext, List.length_append, InnerHeader.length_encode]
  have hpadLen : ((plaintext.getD 0 0).toNat : Int) + 256 * (plaintext.getD 1 0).toNat =
      d.padding.length := by
    have htake : (plaintext.getD 0 0).toNat + 256 * (plaintext.getD 1 0).toNat =
        d.padding.length :=
      leNat_take_padPlaintext (d.header.encode ++ d.payload) d.padding_lt
    omega
  have hcopy : copyOfRange plaintext 2 (plaintext.length - (d.padding.length : Int)) =
      some (d.header.encode ++ d.payload) := by
    have hcast : (plaintext.length : Int) - d.padding.length =
        ((plaintext.length - d.padding.length : Nat) : Int) := by omega
    rw [hcast]
    refine (copyOfRange_eq 2 _ (by omega) (by omega)).trans ?_
    rw [← List.drop_take, drop_take_padPlaintext]
  have hinner : (d.header.encode ++ d.payload).length = 4 + d.payload.length := by
    rw [List.length_append, InnerHeader.length_encode]
  have hpayload : copyOfRange (d.header.encode ++ d.payload) 4
      (d.header.encode ++ d.payload).length = some d.payload := by
    refine (copyOfRange_eq 4 _ (by omega) le_rfl).trans ?_
    rw [List.drop_left' (InnerHeader.length_encode _), List.take_of_length_le (by omega)]
  have htype : (d.header.encode ++ d.payload).getD 0 0 = 0x01 ↔ d.header.innerType = .data := by
    unfold InnerHeader.encode u16Bytes
    cases d.header.innerType <;> simp [InnerType.toU16, leBytes]
  unfold readPlaintext ServerDatagram.ipPacket
  rw [if_neg (by omega)]
  simp only [hpadLen, hcopy]
  rw [if_neg (by omega)]
  simp only [bind, Option.bind_some, hpayload, htype]
  rw [if_neg (by omega)]
  split_ifs <;> rfl

theorem readArray_take (n : Nat) (data : Bytes) :
    readArray n 0 (data.take n) = readArray n 0 data := by
  apply ByteArr.ext
  unfold readArray
  apply List.map_congr_left
  intro i hi
  have hlt : 0 + i < n := by
    rw [List.mem_range] at hi
    omega
  rw [List.getD_eq_getElem?_getD, List.getD_eq_getElem?_getD, List.getElem?_take_of_lt hlt]

theorem copyOfRange_tag {packet : Bytes} (h : 8 ≤ packet.length) :
    copyOfRange packet 0 8 = some (packet.take 8) :=
  copyOfRange_eq 0 8 (by omega) (by omega)

theorem copyOfRange_ciphertext {packet : Bytes} (h : 12 ≤ packet.length) :
    copyOfRange packet 12 packet.length = some (packet.drop 12) := by
  refine (copyOfRange_eq 12 _ h le_rfl).trans ?_
  rw [List.take_of_length_le (by simp)]

/-- A datagram of the server: it is opened when its counter is new and the search reaches it, and
otherwise null is returned and nothing changes. -/
theorem decryptDataPacket_genuine {D : Set (Key × Nat × Nat)} (haead : SoundAead P keys.sessionKey)
    (hD : P.CollisionFree D) (hkeys : c.KeyedBy keys) {tw : Nat} (hsearched : c.searched tw ⊆ D)
    (d : ServerDatagram) (hmem : (keys.tagSecret, d.counter, d.timeWindow) ∈ D) :
    (c.isCounterNew d.counter = true ∧ (c.tagSecret, d.counter, d.timeWindow) ∈ c.searched tw ∧
      decryptDataPacket P tw (d.bytes P keys) c = some (d.ipPacket, c.markCounter d.counter)) ∨
    (¬ (c.isCounterNew d.counter = true ∧
        (c.tagSecret, d.counter, d.timeWindow) ∈ c.searched tw) ∧
      decryptDataPacket P tw (d.bytes P keys) c = some (none, c)) := by
  have hlen : ¬ (d.bytes P keys).length < 8 + 4 + 16 :=
    not_short_assemble haead d.timeWindow d.counter (ByteArr.length_toList d.mdh) _
  have hdrop : (d.bytes P keys).drop 12 = P.encrypt keys.sessionKey (Aivpn.counterToNonce d.counter)
      (padPlaintext (d.header.encode ++ d.payload) d.padding) := by
    have hwire := drop_assemble P d.timeWindow keys d.counter d.mdh.toList
      (padPlaintext (d.header.encode ++ d.payload) d.padding)
    rw [ByteArr.length_toList] at hwire
    exact hwire
  have htag : (readArray 8 0 ((d.bytes P keys).take 8) : Tag) =
      P.generateResonanceTag c.tagSecret d.counter d.timeWindow := by
    have htake : (d.bytes P keys).take 8 =
        (P.generateResonanceTag keys.tagSecret d.counter d.timeWindow).toList := by
      unfold ServerDatagram.bytes assemble
      rw [List.append_assoc, List.take_left' (ByteArr.length_toList _)]
    rw [htake, readArray_toList, hkeys.2]
  have hmem' : (c.tagSecret, d.counter, d.timeWindow) ∈ D := hkeys.2 ▸ hmem
  unfold decryptDataPacket
  rw [if_neg hlen, copyOfRange_tag (by omega), copyOfRange_ciphertext (by omega), hdrop]
  simp only [bind, Option.bind_some, htag, hkeys.1]
  by_cases hfound : c.isCounterNew d.counter = true ∧
      (c.tagSecret, d.counter, d.timeWindow) ∈ c.searched tw
  · refine Or.inl ⟨hfound.1, hfound.2, ?_⟩
    have hfind := (findCounter_eq_some_iff hD hmem' hsearched).2 ⟨rfl, hfound⟩
    simp only [hfind, counterToNonce_eq, haead.opens, readPlaintext_padPlaintext]
  · refine Or.inr ⟨hfound, ?_⟩
    -- a counter that is found would be this one
    have hnone : findCounter P tw
        (P.generateResonanceTag c.tagSecret d.counter d.timeWindow) c = none := by
      by_contra hsome
      obtain ⟨n, hn⟩ := Option.ne_none_iff_exists'.1 hsome
      exact hfound ((findCounter_eq_some_iff hD hmem' hsearched).1 hn).2
    simp only [hnone]
    rfl

/-- Bytes that do not authenticate are refused. -/
theorem decryptDataPacket_other (hkeys : c.KeyedBy keys) {bytes : Bytes}
    (h : ¬ Authentic P keys bytes) (tw : Nat) :
    decryptDataPacket P tw bytes c = some (none, c) := by
  unfold decryptDataPacket
  by_cases hshort : bytes.length < 8 + 4 + 16
  · rw [if_pos hshort]
    rfl
  rw [if_neg hshort, copyOfRange_tag (by omega), copyOfRange_ciphertext (by omega)]
  simp only [bind, Option.bind_some, hkeys.1]
  cases hfind : findCounter P tw (readArray 8 0 (bytes.take 8)) c with
  | none => rfl
  | some n =>
      obtain ⟨-, t, -, htag⟩ := searched_of_findCounter hfind
      cases hdec : P.decrypt keys.sessionKey (Aivpn.counterToNonce n) (bytes.drop 12) with
      | none => simp only [counterToNonce_eq, hdec, pure]
      | some plaintext =>
          rw [readArray_take, hkeys.2] at htag
          exact absurd ⟨n, t, htag, Option.isSome_iff_exists.2 ⟨plaintext, hdec⟩⟩ h

end AivpnCrypto

/-! ## Sequences of datagrams -/

/-- What reaches the client at `nowMs`: a datagram of the server, or any other bytes. -/
structure KotlinArrival where
  nowMs : Nat
  datagram : ServerDatagram ⊕ Bytes

/-- The client, with the counters of the server's datagrams that were received so far and of those
whose payload was returned. -/
structure Reception where
  client : AivpnCrypto
  received : List Nat
  returned : List Nat

/-- The time window of the arrival. -/
def KotlinArrival.timeWindow (a : KotlinArrival) : Nat := computeTimeWindow a.nowMs defaultWindowMs

namespace Reception

variable (P : Primitives) (keys : SessionKeys)

/-- The specification: the counter was not received, it is in reach of the highest one, and the two
time windows differ by at most one. -/
structure Receivable (s : Reception) (now : Nat) (d : ServerDatagram) : Prop where
  fresh : d.counter ∉ s.received
  reach : s.client.InReach d.counter
  window : d.timeWindow ≤ now + 1 ∧ now ≤ d.timeWindow + 1

instance (s : Reception) (now : Nat) (d : ServerDatagram) : Decidable (s.Receivable now d) :=
  decidable_of_iff (d.counter ∉ s.received ∧ s.client.InReach d.counter ∧
      d.timeWindow ≤ now + 1 ∧ now ≤ d.timeWindow + 1)
    ⟨fun h => ⟨h.1, h.2.1, h.2.2⟩, fun h => ⟨h.fresh, h.reach, h.window⟩⟩

/-- The bytes of an arrival. -/
def wire (a : KotlinArrival) : Bytes := a.datagram.elim (ServerDatagram.bytes P keys) id

/-- `decryptDataPacket` on an arrival. -/
def decrypt (s : Reception) (a : KotlinArrival) : Option (Option Bytes × AivpnCrypto) :=
  s.client.decryptDataPacket P a.timeWindow (wire P keys a)

/-- The client behind an arrival, and the datagrams received and returned. -/
def step (s : Reception) (a : KotlinArrival) : Reception where
  client := ((s.decrypt P keys a).map Prod.snd).getD s.client
  received := match a.datagram with
    | .inl d => if s.Receivable a.timeWindow d then d.counter :: s.received else s.received
    | .inr _ => s.received
  returned := match a.datagram, s.decrypt P keys a with
    | .inl d, some (some _, _) => d.counter :: s.returned
    | _, _ => s.returned

/-- The call returns null and leaves the client alone. -/
def Ignores (s : Reception) (a : KotlinArrival) : Prop :=
  s.decrypt P keys a = some (none, s.client)

/-- What the client does with an arrival: a datagram of the server whose payload was returned before
is ignored, one that is receivable returns its IP packet if it is a Data datagram, and everything
else is ignored. -/
def MeetsSpec (s : Reception) (a : KotlinArrival) : Prop :=
  match a.datagram with
  | .inl d =>
      (d.counter ∈ s.returned → s.Ignores P keys a) ∧
      (s.Receivable a.timeWindow d → ∃ c, s.decrypt P keys a = some (d.ipPacket, c)) ∧
      (¬ s.Receivable a.timeWindow d → s.Ignores P keys a)
  | .inr _ => s.Ignores P keys a

/-- What is assumed of an arrival: timestamps are `u64` values, the tags that the search compares are
those of triples in `D`, and bytes that the server has not built do not authenticate. -/
def Expected (D : Set (Key × Nat × Nat)) (s : Reception) (a : KotlinArrival) : Prop :=
  a.nowMs < 2 ^ 64 ∧ s.client.searched a.timeWindow ⊆ D ∧
  match a.datagram with
  | .inl d => d.sentMs < 2 ^ 64 ∧ (keys.tagSecret, d.counter, d.timeWindow) ∈ D
  | .inr bytes => ¬ Authentic P keys bytes

/-- The client has the server's keys, its window holds the counters received, and only these were
returned. -/
structure Inv (s : Reception) : Prop where
  keyed : s.client.KeyedBy keys
  holds : s.client.Holds { n | n ∈ s.received }
  returned : s.returned ⊆ s.received

variable {P keys}

/-- In terms of the window: a datagram is receivable exactly when its counter is new and the search
reaches it. -/
theorem Inv.receivable_iff {s : Reception} (h : s.Inv keys) {nowMs : Nat} (hnow : nowMs < 2 ^ 64)
    {d : ServerDatagram} (hsent : d.sentMs < 2 ^ 64) :
    s.Receivable (computeTimeWindow nowMs defaultWindowMs) d ↔
      s.client.isCounterNew d.counter = true ∧ (s.client.tagSecret, d.counter, d.timeWindow) ∈
        s.client.searched (computeTimeWindow nowMs defaultWindowMs) := by
  have hrange : -1 ≤ s.client.recvHighest := by
    by_cases hneg : s.client.recvHighest < 0
    · rw [(h.holds.empty hneg).1]
    · omega
  have hsearched : (s.client.tagSecret, d.counter, d.timeWindow) ∈
      s.client.searched (computeTimeWindow nowMs defaultWindowMs) ↔
        s.client.InReach d.counter ∧
        d.timeWindow ≤ computeTimeWindow nowMs defaultWindowMs + 1 ∧
        computeTimeWindow nowMs defaultWindowMs ≤ d.timeWindow + 1 := by
    unfold ServerDatagram.timeWindow
    rw [← mem_windows_iff hnow hsent, ← AivpnCrypto.mem_searchCounters_iff hrange]
    exact ⟨fun hx => hx.2, fun hx => ⟨rfl, hx⟩⟩
  rw [h.holds.isCounterNew_iff, hsearched]
  constructor
  · rintro ⟨hfresh, hreach, hwindow⟩
    refine ⟨⟨hfresh, ?_⟩, hreach, hwindow⟩
    by_cases hneg : s.client.recvHighest < 0
    · omega
    · have hlow := hreach.2 (not_lt.1 hneg)
      omega
  · rintro ⟨⟨hfresh, -⟩, hreach, hwindow⟩
    exact ⟨hfresh, hreach, hwindow⟩

/-- A receivable datagram is opened, and every other one ignored. -/
theorem Inv.decrypt_genuine {D : Set (Key × Nat × Nat)} {s : Reception} (h : s.Inv keys)
    (haead : SoundAead P keys.sessionKey) (hD : P.CollisionFree D) {nowMs : Nat}
    {d : ServerDatagram} (he : Expected P keys D s ⟨nowMs, .inl d⟩) :
    (s.Receivable (computeTimeWindow nowMs defaultWindowMs) d ∧
      s.decrypt P keys ⟨nowMs, .inl d⟩ = some (d.ipPacket, s.client.markCounter d.counter)) ∨
    (¬ s.Receivable (computeTimeWindow nowMs defaultWindowMs) d ∧
      s.Ignores P keys ⟨nowMs, .inl d⟩) := by
  obtain ⟨hnow, hsearched, hsent, hmem⟩ := he
  have hiff := h.receivable_iff hnow hsent
  rcases AivpnCrypto.decryptDataPacket_genuine haead hD h.keyed hsearched d hmem with
    ⟨hnew, hin, hdec⟩ | ⟨hnot, hdec⟩
  · exact Or.inl ⟨hiff.2 ⟨hnew, hin⟩, hdec⟩
  · exact Or.inr ⟨fun hr => hnot (hiff.1 hr), hdec⟩

theorem Ignores.inv {s : Reception} {a : KotlinArrival} (h : s.Inv keys) (hi : s.Ignores P keys a)
    (hreceived : (s.step P keys a).received = s.received) : (s.step P keys a).Inv keys := by
  have hdec : s.decrypt P keys a = some (none, s.client) := hi
  have hclient : (s.step P keys a).client = s.client := by
    simp only [step, hdec, Option.map_some, Option.getD_some]
  have hreturned : (s.step P keys a).returned = s.returned := by
    simp only [step, hdec]
    cases a.datagram <;> rfl
  refine ⟨?_, ?_, ?_⟩
  · rw [hclient]
    exact h.keyed
  · rw [hclient, hreceived]
    exact h.holds
  · rw [hreturned, hreceived]
    exact h.returned

/-- One arrival: the client meets the specification, and its window keeps track. -/
theorem Inv.arrival {D : Set (Key × Nat × Nat)} {s : Reception} (h : s.Inv keys)
    (haead : SoundAead P keys.sessionKey) (hD : P.CollisionFree D) {a : KotlinArrival}
    (he : Expected P keys D s a) : s.MeetsSpec P keys a ∧ (s.step P keys a).Inv keys := by
  obtain ⟨nowMs, d | bytes⟩ := a
  · rcases h.decrypt_genuine haead hD he with ⟨hr, hdec⟩ | ⟨hnot, hi⟩
    · -- what was returned was received, and is not receivable any more
      have hspec : s.MeetsSpec P keys ⟨nowMs, .inl d⟩ :=
        ⟨fun hmem => absurd (h.returned hmem) hr.fresh, fun _ => ⟨_, hdec⟩,
          fun hnot => absurd hr hnot⟩
      have hreceived : (s.step P keys ⟨nowMs, .inl d⟩).received = d.counter :: s.received :=
        if_pos hr
      have hclient : (s.step P keys ⟨nowMs, .inl d⟩).client = s.client.markCounter d.counter := by
        simp only [step, hdec, Option.map_some, Option.getD_some]
      have hset : { n | n ∈ d.counter :: s.received } = insert d.counter { n | n ∈ s.received } := by
        ext x
        exact List.mem_cons
      refine ⟨hspec, ?_, ?_, ?_⟩
      · rw [hclient]
        exact h.keyed.markCounter d.counter
      · rw [hclient, hreceived, hset]
        have hlow := ((h.receivable_iff he.1 he.2.2.1).1 hr).1
        exact h.holds.markCounter ((h.holds.isCounterNew_iff d.counter).1 hlow).2
      · rw [hreceived]
        simp only [step, hdec]
        cases d.ipPacket with
        | none => exact List.subset_cons_of_subset d.counter h.returned
        | some ip => exact List.cons_subset_cons d.counter h.returned
    · have hspec : s.MeetsSpec P keys ⟨nowMs, .inl d⟩ :=
        ⟨fun _ => hi, fun hr => absurd hr hnot, fun _ => hi⟩
      exact ⟨hspec, hi.inv h (if_neg hnot)⟩
  · have hi : s.Ignores P keys ⟨nowMs, .inr bytes⟩ :=
      AivpnCrypto.decryptDataPacket_other h.keyed he.2.2 _
    exact ⟨hi, hi.inv h rfl⟩

end Reception

/-- Between two ratchets, in every sequence of datagrams: no datagram of the server returns its
payload twice, a Data datagram that was not received and is in reach returns its IP packet, and bytes
that do not authenticate change nothing. -/
theorem receives_once (P : Primitives) (keys : SessionKeys) (D : Set (Key × Nat × Nat))
    (haead : SoundAead P keys.sessionKey) (hD : P.CollisionFree D) (c : AivpnCrypto)
    (hfresh : c.Fresh) (hkeys : c.KeyedBy keys) (arrivals : List KotlinArrival)
    (hexpected : Along (Reception.step P keys) (Reception.Expected P keys D) ⟨c, [], []⟩ arrivals) :
    Along (Reception.step P keys) (Reception.MeetsSpec P keys) ⟨c, [], []⟩ arrivals := by
  have hinit : Reception.Inv keys ⟨c, [], []⟩ := by
    have hempty : { n | n ∈ ([] : List Nat) } = ∅ := by
      ext x
      simp
    refine ⟨hkeys, ?_, List.Subset.refl _⟩
    show c.Holds { n | n ∈ ([] : List Nat) }
    rw [hempty]
    exact hfresh.holds
  exact Along.imp_of_invariant (fun s a h he => (h.arrival haead hD he).2)
    (fun s a h he => (h.arrival haead hD he).1) hinit hexpected

/-- A client under `sampleWireKeys`. -/
def sampleKotlinClient : AivpnCrypto where
  serverStaticPub := ByteArr.replicate 32 0
  psk := none
  clientPrivate := ByteArr.replicate 32 0
  clientPublic := ByteArr.replicate 32 0
  sessionKey := sampleWireKeys.sessionKey
  tagSecret := sampleWireKeys.tagSecret
  sendCounter := 0
  sendSeq := 0
  recvHighest := -1
  recvWindow := 0#64

/-- A datagram for counter 5. -/
def sampleServerDatagram : ServerDatagram where
  sentMs := 1000000
  counter := 5
  header := ⟨.data, 0⟩
  payload := [0x45]
  mdh := ByteArr.replicate 4 0
  padding := []
  padding_lt := by decide

/-- The datagram, three other bytes, and the datagram again. -/
def sampleKotlinArrivals : List KotlinArrival :=
  [⟨1000000, .inl sampleServerDatagram⟩, ⟨1000000, .inr [1, 2, 3]⟩,
    ⟨1000000, .inl sampleServerDatagram⟩]

theorem searched_subset_sampleTriples {c : AivpnCrypto}
    (hc : c.tagSecret = sampleWireKeys.tagSecret ∧ -1 ≤ c.recvHighest ∧ c.recvHighest < 2 ^ 20) :
    c.searched 100 ⊆ smallTriples [sampleWireKeys.tagSecret] := by
  rintro ⟨secret, n, t⟩ ⟨hsecret, hn, ht⟩
  simp only at hsecret hn ht
  rw [AivpnCrypto.mem_searchCounters_iff hc.2.1] at hn
  have hsmall : n < 2 ^ 24 := by
    unfold AivpnCrypto.InReach at hn
    omega
  have ht' : t < 2 ^ 24 := by
    simp only [List.mem_cons, List.not_mem_nil, or_false, wrappingPred, wrappingAdd, u64Max] at ht
    omega
  exact ⟨by simp [hsecret, hc.1], hsmall, ht'⟩

theorem sampleKotlinArrivals_expected :
    Along (Reception.step samplePrimitives sampleWireKeys)
      (Reception.Expected samplePrimitives sampleWireKeys (smallTriples [sampleWireKeys.tagSecret]))
      ⟨sampleKotlinClient, [], []⟩ sampleKotlinArrivals := by
  have hgenuine : sampleServerDatagram.sentMs < 2 ^ 64 ∧
      (sampleWireKeys.tagSecret, sampleServerDatagram.counter, sampleServerDatagram.timeWindow) ∈
        smallTriples [sampleWireKeys.tagSecret] := ⟨by decide, by simp, by decide, by decide⟩
  have hother : ¬ Authentic samplePrimitives sampleWireKeys [1, 2, 3] := by
    rintro ⟨counter, tw, -, hsome⟩
    rw [samplePrimitives_decrypt_eq_none (by decide)] at hsome
    cases hsome
  refine ⟨⟨by decide, searched_subset_sampleTriples (by decide), hgenuine⟩,
    ⟨by decide, searched_subset_sampleTriples ?_, hother⟩,
    ⟨by decide, searched_subset_sampleTriples ?_, hgenuine⟩, trivial⟩
  · decide +kernel
  · decide +kernel

/-- The first datagram returns its IP packet, the other two are ignored. -/
theorem sampleKotlinArrivals_meetSpec :
    Along (Reception.step samplePrimitives sampleWireKeys)
      (Reception.MeetsSpec samplePrimitives sampleWireKeys) ⟨sampleKotlinClient, [], []⟩
      sampleKotlinArrivals :=
  receives_once samplePrimitives sampleWireKeys _ (samplePrimitives_soundAead _)
    (samplePrimitives_collisionFree (by decide)) sampleKotlinClient ⟨rfl, rfl⟩ ⟨rfl, rfl⟩
    sampleKotlinArrivals sampleKotlinArrivals_expected

end Aivpn
