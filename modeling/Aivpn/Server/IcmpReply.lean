import Aivpn.Lib.OnesComplement
import Aivpn.Server.Gateway

/-!
# ICMP echo replies

`build_icmp_echo_reply` and `compute_checksum` of `gateway.rs` as they run: the reply is pushed field
by field, the words are summed in a `u32` whose overflow panics, and the carries are folded in a loop.
For a packet from the TUN device nothing overflows and the loop ends, with the reply that the
gateway's model uses (`buildIcmpEchoReply_eq`); its checksum makes the one's complement sum of the
ICMP message a word of ones (`echoReply_correct`).
-/

set_option autoImplicit false

namespace Aivpn.IcmpReply

open Aivpn.Lib

/-! ## The functions -/

/-- `+` on `u32`. -/
def checkedAdd (a b : UInt32) : Outcome UInt32 :=
  if a.toNat + b.toNat < 2 ^ 32 then .ok (a + b) else .error .panic

/-- The words of `compute_checksum` added to `sum`. -/
def sumWords : UInt32 → Bytes → Outcome UInt32
  | sum, b0 :: b1 :: rest => do
      let sum ← checkedAdd sum (UInt32.ofNat (b0.toNat * 256 + b1.toNat))
      sumWords sum rest
  | sum, [b0] => checkedAdd sum (b0.toUInt32 <<< 8)
  | sum, [] => .ok sum

/-- The folding loop of `compute_checksum`. A loop that does not end within `rounds` tests counts as a
panic. -/
def foldCarries : Nat → UInt32 → Outcome UInt32
  | 0, _ => .error .panic
  | rounds + 1, sum =>
      if sum >>> 16 ≠ 0 then do
        let sum ← checkedAdd (sum &&& 0xFFFF) (sum >>> 16)
        foldCarries rounds sum
      else .ok sum

/-- `compute_checksum`, with three tests of the folding loop. -/
def computeChecksum (data : Bytes) : Outcome UInt16 := do
  let sum ← sumWords 0 data
  let sum ← foldCarries 3 sum
  pure (~~~sum).toUInt16

/-- `u16::to_be_bytes`. -/
def beBytes (n : UInt16) : Bytes := [(n >>> 8).toUInt8, n.toUInt8]

/-- `build_icmp_echo_reply`. -/
def buildIcmpEchoReply (request : Bytes) (serverIp : Ipv4Addr) : Outcome (Option Bytes) := do
  if request.length < 28 then pure none
  else
    let srcIp ← slice request 12 16
    let icmpType ← index request 20
    if icmpType ≠ 8 then pure none
    else
      let identification ← slice request 4 6
      let flags ← slice request 6 8
      let code ← index request 21
      let idAndSequence ← slice request 24 28
      let data ← slice request 28 request.length
      let reply := [0x45, 0x00] ++ beBytes (UInt16.ofNat request.length) ++ identification ++ flags ++
        [64, 1, 0, 0] ++ Gateway.octets serverIp ++ srcIp ++ [0, code, 0, 0] ++ idAndSequence ++ data
      let icmp ← slice reply 20 reply.length
      let checksum ← computeChecksum icmp
      pure (some ((reply.set 22 (checksum >>> 8).toUInt8).set 23 (checksum &&& 0xFF).toUInt8))

/-! ## The checksum -/

theorem checkedAdd_of_lt {a b : UInt32} (h : a.toNat + b.toNat < 2 ^ 32) :
    checkedAdd a b = .ok (UInt32.ofNat (a.toNat + b.toNat)) := by
  unfold checkedAdd
  rw [if_pos h]
  congr 1

theorem toNat_toUInt32_shiftLeft (b : UInt8) : (b.toUInt32 <<< 8).toNat = b.toNat * 256 := by
  have hb := b.toNat_lt
  rw [UInt32.toNat_shiftLeft, UInt8.toNat_toUInt32]
  simp only [UInt32.reduceToNat, Nat.shiftLeft_eq, Nat.reduceMod, Nat.reducePow]
  omega

/-- The sum of the words, while it is below `2 ^ 32`. -/
theorem sumWords_of_lt {data : Bytes} {acc : UInt32}
    (h : acc.toNat + (OnesComplement.words data).sum < 2 ^ 32) :
    sumWords acc data = .ok (UInt32.ofNat (acc.toNat + (OnesComplement.words data).sum)) := by
  induction data using OnesComplement.words.induct generalizing acc with
  | case1 b0 b1 rest ih =>
      have hword : (UInt32.ofNat (b0.toNat * 256 + b1.toNat)).toNat = b0.toNat * 256 + b1.toNat := by
        have h0 := b0.toNat_lt
        have h1 := b1.toNat_lt
        rw [UInt32.toNat_ofNat']
        omega
      rw [OnesComplement.words, List.sum_cons] at h ⊢
      have hadd : checkedAdd acc (UInt32.ofNat (b0.toNat * 256 + b1.toNat)) =
          .ok (UInt32.ofNat (acc.toNat + (b0.toNat * 256 + b1.toNat))) := by
        rw [checkedAdd_of_lt (by omega), hword]
      have hacc : (UInt32.ofNat (acc.toNat + (b0.toNat * 256 + b1.toNat))).toNat =
          acc.toNat + (b0.toNat * 256 + b1.toNat) := by
        rw [UInt32.toNat_ofNat']
        omega
      rw [sumWords, hadd]
      refine (ih (by omega)).trans ?_
      rw [hacc, Nat.add_assoc]
  | case2 b0 =>
      have hword := toNat_toUInt32_shiftLeft b0
      rw [OnesComplement.words, List.sum_cons, List.sum_nil, Nat.add_zero] at h ⊢
      rw [sumWords, checkedAdd_of_lt (by omega), hword]
  | case3 =>
      rw [sumWords, OnesComplement.words, List.sum_nil, Nat.add_zero, UInt32.ofNat_toNat]

theorem toNat_low (x : UInt32) : (x &&& 0xFFFF).toNat = x.toNat % 65536 := by
  rw [UInt32.toNat_and]
  exact Nat.and_two_pow_sub_one_eq_mod x.toNat 16

theorem toNat_high (x : UInt32) : (x >>> 16).toNat = x.toNat / 65536 := by
  rw [UInt32.toNat_shiftRight]
  simp only [UInt32.reduceToNat, Nat.shiftRight_eq_div_pow]

/-- One test of the folding loop. -/
theorem foldCarries_succ (rounds : Nat) (sum : UInt32) :
    foldCarries (rounds + 1) sum =
      if 65536 ≤ sum.toNat then
        foldCarries rounds (UInt32.ofNat (OnesComplement.fold 65536 sum.toNat))
      else .ok sum := by
  have hlt := sum.toNat_lt
  have hhigh : sum >>> 16 ≠ 0 ↔ 65536 ≤ sum.toNat := by
    rw [← UInt32.toNat_inj.ne, toNat_high]
    simp only [UInt32.reduceToNat]
    omega
  have hadd : checkedAdd (sum &&& 0xFFFF) (sum >>> 16) =
      .ok (UInt32.ofNat (OnesComplement.fold 65536 sum.toNat)) := by
    have hsmall : (sum &&& 0xFFFF).toNat + (sum >>> 16).toNat < 2 ^ 32 := by
      rw [toNat_low, toNat_high]
      omega
    rw [checkedAdd_of_lt hsmall, toNat_low, toNat_high]
    rfl
  rw [foldCarries, hadd]
  by_cases hbig : 65536 ≤ sum.toNat
  · rw [if_pos (hhigh.2 hbig), if_pos hbig]
    rfl
  · rw [if_neg (fun h => hbig (hhigh.1 h)), if_neg hbig]

/-- The folding loop ends with its third test at the latest, on the word that the sum stands for. -/
theorem foldCarries_three (sum : UInt32) :
    foldCarries 3 sum = .ok (UInt32.ofNat (OnesComplement.reduce 65536 sum.toNat)) := by
  have hlt := sum.toNat_lt
  have hstop : ∀ (rounds : Nat) (n : Nat), n < 65536 →
      foldCarries (rounds + 1) (UInt32.ofNat n) =
        .ok (UInt32.ofNat (OnesComplement.reduce 65536 n)) := by
    intro rounds n hn
    have htoNat : (UInt32.ofNat n).toNat = n := by
      rw [UInt32.toNat_ofNat']
      omega
    rw [foldCarries_succ, htoNat, if_neg (by omega), OnesComplement.reduce_of_lt hn]
  by_cases h0 : sum.toNat < 65536
  · have hsum := hstop 2 sum.toNat h0
    rw [UInt32.ofNat_toNat] at hsum
    exact hsum
  -- the first fold leaves less than twice a word, the second one a word
  have hfold : OnesComplement.fold 65536 sum.toNat < 131071 := by
    unfold OnesComplement.fold
    omega
  rw [foldCarries_succ, if_pos (by omega)]
  by_cases h1 : OnesComplement.fold 65536 sum.toNat < 65536
  · rw [hstop 1 _ h1, OnesComplement.reduce_fold (by decide)]
  · have htoNat : (UInt32.ofNat (OnesComplement.fold 65536 sum.toNat)).toNat =
        OnesComplement.fold 65536 sum.toNat := by
      rw [UInt32.toNat_ofNat']
      omega
    have htwice : OnesComplement.fold 65536 (OnesComplement.fold 65536 sum.toNat) < 65536 := by
      rw [OnesComplement.fold]
      omega
    rw [foldCarries_succ, htoNat, if_pos (by omega), hstop 0 _ htwice,
      OnesComplement.reduce_fold (by decide), OnesComplement.reduce_fold (by decide)]

/-- `compute_checksum` returns the complement of the one's complement sum. -/
theorem computeChecksum_eq {data : Bytes} (hlen : data.length ≤ 65536) :
    computeChecksum data = .ok (UInt16.ofNat
      (65535 - OnesComplement.reduce 65536 (OnesComplement.words data).sum)) := by
  have hsum := OnesComplement.sum_words_le data
  have hsmall : (OnesComplement.words data).sum < 2 ^ 32 := by omega
  have hreduce : OnesComplement.reduce 65536 (OnesComplement.words data).sum < 65536 := by
    unfold OnesComplement.reduce
    split_ifs <;> omega
  have hwords : sumWords 0 data = .ok (UInt32.ofNat (OnesComplement.words data).sum) := by
    refine (sumWords_of_lt ?_).trans ?_
    · simpa using hsmall
    · simp
  have htoNat : (UInt32.ofNat (OnesComplement.words data).sum).toNat =
      (OnesComplement.words data).sum := by
    rw [UInt32.toNat_ofNat']
    omega
  unfold computeChecksum
  rw [hwords]
  simp only [bind, Except.bind, foldCarries_three, htoNat, pure, Except.pure]
  have hsize : UInt32.size = 2 ^ 32 := rfl
  congr 1
  apply UInt16.toNat.inj
  rw [UInt32.toNat_toUInt16, UInt32.toNat_not, UInt32.toNat_ofNat', UInt16.toNat_ofNat', hsize]
  omega

/-- The gateway's model of `compute_checksum` folds twice. -/
theorem gateway_computeChecksum (data : Bytes) (hlen : data.length ≤ 65536) :
    Gateway.computeChecksum data =
      65535 - OnesComplement.reduce 65536 (OnesComplement.words data).sum := by
  have hwords : Gateway.checksumWords data = (OnesComplement.words data).sum := by
    induction data using OnesComplement.words.induct with
    | case1 b0 b1 rest ih =>
        rw [List.length_cons, List.length_cons] at hlen
        rw [Gateway.checksumWords, OnesComplement.words, List.sum_cons, ih (by omega)]
    | case2 b0 => simp only [Gateway.checksumWords, OnesComplement.words, List.sum_singleton]
    | case3 => rfl
  have hsum := OnesComplement.sum_words_le data
  have htwice : OnesComplement.fold 65536 (OnesComplement.fold 65536
      (OnesComplement.words data).sum) < 65536 := by
    unfold OnesComplement.fold
    omega
  have hreduce := OnesComplement.reduce_of_lt htwice
  rw [OnesComplement.reduce_fold (by decide), OnesComplement.reduce_fold (by decide)] at hreduce
  unfold Gateway.computeChecksum
  rw [hwords, hreduce]
  rfl

/-! ## The reply -/

theorem eq_four_of_length {α : Type} {l : List α} (h : l.length = 4) :
    ∃ a b c d, l = [a, b, c, d] := by
  match l with
  | [a, b, c, d] => exact ⟨a, b, c, d, rfl⟩

/-- The parts of a packet of at least 28 bytes that the reply is made of. -/
theorem exists_parts {request : Bytes} (hlen : 28 ≤ request.length) :
    ∃ i0 i1 i2 i3 s0 s1 s2 s3 k0 k1 k2 k3,
      (request.take 6).drop 4 = [i0, i1] ∧ (request.take 8).drop 6 = [i2, i3] ∧
      (request.take 8).drop 4 = [i0, i1, i2, i3] ∧ (request.take 16).drop 12 = [s0, s1, s2, s3] ∧
      (request.take 28).drop 24 = [k0, k1, k2, k3] ∧
      request.drop 24 = [k0, k1, k2, k3] ++ request.drop 28 := by
  have hi : ((request.take 8).drop 4).length = 4 := by
    rw [List.length_drop, List.length_take]
    omega
  have hs : ((request.take 16).drop 12).length = 4 := by
    rw [List.length_drop, List.length_take]
    omega
  have hk : ((request.take 28).drop 24).length = 4 := by
    rw [List.length_drop, List.length_take]
    omega
  obtain ⟨i0, i1, i2, i3, hi'⟩ := eq_four_of_length hi
  obtain ⟨s0, s1, s2, s3, hs'⟩ := eq_four_of_length hs
  obtain ⟨k0, k1, k2, k3, hk'⟩ := eq_four_of_length hk
  have hident : (request.take 6).drop 4 = ((request.take 8).drop 4).take 2 := by
    rw [List.take_drop, List.take_take]
    rfl
  have hflags : (request.take 8).drop 6 = ((request.take 8).drop 4).drop 2 := by
    rw [List.drop_drop]
  have hsplit : request.drop 24 = (request.take 28).drop 24 ++ request.drop 28 := by
    rw [← List.drop_append_of_le_length (by rw [List.length_take]; omega), List.take_append_drop]
  refine ⟨i0, i1, i2, i3, s0, s1, s2, s3, k0, k1, k2, k3, ?_, ?_, hi', hs', hk', ?_⟩
  · rw [hident, hi']
    rfl
  · rw [hflags, hi']
    rfl
  · rw [hsplit, hk']

theorem toUInt8_high (n : Nat) :
    (UInt16.ofNat n >>> 8).toUInt8 = UInt8.ofNat (n % 65536 / 256) := by
  apply UInt8.toNat.inj
  rw [UInt16.toNat_toUInt8, UInt16.toNat_shiftRight, UInt16.toNat_ofNat', UInt8.toNat_ofNat']
  simp only [UInt16.reduceToNat, Nat.shiftRight_eq_div_pow, Nat.reduceMod, Nat.reducePow]

theorem toUInt8_low (n : Nat) : (UInt16.ofNat n).toUInt8 = UInt8.ofNat (n % 65536 % 256) := by
  apply UInt8.toNat.inj
  rw [UInt16.toNat_toUInt8, UInt16.toNat_ofNat', UInt8.toNat_ofNat']
  omega

theorem beBytes_ofNat (n : Nat) : beBytes (UInt16.ofNat n) =
    [UInt8.ofNat (n % 65536 / 256), UInt8.ofNat (n % 65536 % 256)] := by
  rw [beBytes, toUInt8_high, toUInt8_low]

theorem toUInt8_mask (x : UInt16) : (x &&& 0xFF).toUInt8 = x.toUInt8 := by
  apply UInt8.toNat.inj
  rw [UInt16.toNat_toUInt8, UInt16.toNat_toUInt8, UInt16.toNat_and]
  have hmask : x.toNat &&& 255 = x.toNat % 256 := Nat.and_two_pow_sub_one_eq_mod x.toNat 8
  have hconst : (0xFF : UInt16).toNat = 255 := rfl
  rw [hconst, hmask]
  omega

/-- For a packet that a `u16` can measure the reply is that of the gateway's model: no access is out
of range, no sum overflows, and the folding loop ends. -/
theorem buildIcmpEchoReply_eq {request : Bytes} (hmax : request.length ≤ 65535)
    (serverIp : Ipv4Addr) :
    buildIcmpEchoReply request serverIp = .ok (Gateway.buildIcmpEchoReply request serverIp) := by
  unfold buildIcmpEchoReply Gateway.buildIcmpEchoReply
  by_cases hlen : request.length < 28
  · rw [if_pos hlen, if_pos hlen]
    rfl
  rw [if_neg hlen, if_neg hlen]
  have hlen' : 28 ≤ request.length := not_lt.1 hlen
  obtain ⟨i0, i1, i2, i3, s0, s1, s2, s3, k0, k1, k2, k3, hident, hflags, hi, hs, hk, hrest⟩ :=
    exists_parts hlen'
  have hindex : ∀ i, i < 28 → (index request i : Outcome UInt8) = .ok (request.getD i 0) := by
    intro i h
    rw [List.getD_eq_getElem?_getD, List.getElem?_eq_getElem (by omega), Option.getD_some]
    exact index_of_lt (by omega)
  have hslice : ∀ lo hi, lo ≤ hi → hi ≤ 28 →
      (slice request lo hi : Outcome Bytes) = .ok ((request.take hi).drop lo) := by
    intro lo hi h h'
    rw [slice_of_le h (by omega), List.drop_take]
  have htail : (slice request 28 request.length : Outcome Bytes) = .ok (request.drop 28) := by
    rw [slice_of_le hlen' le_rfl, List.take_of_length_le (by rw [List.length_drop])]
  rw [hslice 12 16 (by omega) (by omega), hindex 20 (by omega), hslice 4 6 (by omega) (by omega),
    hslice 6 8 (by omega) (by omega), hindex 21 (by omega), hslice 24 28 (by omega) (by omega), htail,
    hs, hident, hflags, hk, hi, hrest, beBytes_ofNat]
  simp only [bind, Except.bind]
  by_cases htype : request.getD 20 0 ≠ 8
  · rw [if_pos htype, if_pos htype]
    rfl
  rw [if_neg htype, if_neg htype]
  -- the reply is the header of 20 bytes and the ICMP message
  set code := request.getD 21 0
  set high := UInt8.ofNat (request.length % 65536 / 256)
  set low := UInt8.ofNat (request.length % 65536 % 256)
  have hicmpLength : ([0, code, 0, 0] ++ [k0, k1, k2, k3] ++ request.drop 28).length ≤ 65536 := by
    rw [List.length_append, List.length_drop]
    simp only [List.length_append, List.length_cons, List.length_nil]
    omega
  have hslice' : (slice ([0x45, 0x00] ++ [high, low] ++ [i0, i1] ++ [i2, i3] ++ [64, 1, 0, 0] ++
      Gateway.octets serverIp ++ [s0, s1, s2, s3] ++ [0, code, 0, 0] ++ [k0, k1, k2, k3] ++
      request.drop 28) 20 ([0x45, 0x00] ++ [high, low] ++ [i0, i1] ++ [i2, i3] ++ [64, 1, 0, 0] ++
      Gateway.octets serverIp ++ [s0, s1, s2, s3] ++ [0, code, 0, 0] ++ [k0, k1, k2, k3] ++
      request.drop 28).length : Outcome Bytes) =
        .ok ([0, code, 0, 0] ++ [k0, k1, k2, k3] ++ request.drop 28) := by
    rw [slice_of_le (by simp [Gateway.octets]) le_rfl, List.take_of_length_le (by simp)]
    rfl
  have hmodel := gateway_computeChecksum _ hicmpLength
  rw [List.append_assoc] at hmodel
  have hsmall : ∀ n, (65535 - n) % 65536 = 65535 - n := fun n => Nat.mod_eq_of_lt (by omega)
  rw [hslice']
  simp only [computeChecksum_eq hicmpLength, hmodel, toUInt8_mask, toUInt8_high, toUInt8_low, hsmall]
  rfl

/-! ## What a reply is -/

/-- The total length field. -/
def totalLength (packet : Bytes) : Nat := (packet.getD 2 0).toNat * 256 + (packet.getD 3 0).toNat

/-- The source address. -/
def source (packet : Bytes) : Bytes := (packet.take 16).drop 12

/-- The destination address. -/
def destination (packet : Bytes) : Bytes := (packet.take 20).drop 16

/-- The reply to an echo request in a packet with a header of 20 bytes: the identifier, the sequence
number and the data stand from byte 24 on. -/
structure IsEchoReply (request reply : Bytes) (serverIp : Ipv4Addr) : Prop where
  length : reply.length = request.length
  totalLength : totalLength reply = request.length
  source : source reply = Gateway.octets serverIp
  destination : destination reply = IcmpReply.source request
  icmpType : reply.getD 20 0 = 0
  code : reply.getD 21 0 = request.getD 21 0
  rest : reply.drop 24 = request.drop 24
  checksum : OnesComplement.sum 65536 (OnesComplement.words (reply.drop 20)) = 0xFFFF

/-- A word with the complement of the sum of the others makes the sum a word of ones. -/
theorem sum_with_complement (code : UInt8) (rest : Bytes) {n : Nat}
    (hn : n = OnesComplement.reduce 65536 (OnesComplement.words ([0, code, 0, 0] ++ rest)).sum) :
    OnesComplement.sum 65536 (OnesComplement.words ([0, code, UInt8.ofNat ((65535 - n) / 256),
      UInt8.ofNat ((65535 - n) % 256)] ++ rest)) = 0xFFFF := by
  have hword : (UInt8.ofNat ((65535 - n) / 256)).toNat * 256 +
      (UInt8.ofNat ((65535 - n) % 256)).toNat = 65535 - n := by
    simp only [UInt8.toNat_ofNat']
    omega
  have hwords : ∀ x y : UInt8, (OnesComplement.words ([0, code, x, y] ++ rest)).sum =
      code.toNat + (x.toNat * 256 + y.toNat + (OnesComplement.words rest).sum) := by
    intro x y
    simp only [List.cons_append, List.nil_append, OnesComplement.words, List.sum_cons,
      UInt8.toNat_zero, Nat.zero_mul, Nat.zero_add]
  have hplain : (OnesComplement.words ([0, code, UInt8.ofNat ((65535 - n) / 256),
      UInt8.ofNat ((65535 - n) % 256)] ++ rest)).sum =
      (OnesComplement.words ([0, code, 0, 0] ++ rest)).sum + (65536 - 1 - n) := by
    rw [hwords, hwords, hword]
    simp only [UInt8.toNat_zero]
    omega
  rw [OnesComplement.sum_eq_reduce (by decide) OnesComplement.lt_of_mem_words, hplain, hn,
    OnesComplement.reduce_add_complement (by decide)]

/-- Every echo request of a packet from the TUN device is answered with its reply; on the way no sum
overflows, and the folding loop ends. -/
theorem echoReply_correct (request : Bytes) (serverIp : Ipv4Addr) (hlen : 28 ≤ request.length)
    (hmax : request.length ≤ 1500) (htype : request.getD 20 0 = 8) :
    ∃ reply, buildIcmpEchoReply request serverIp = .ok (some reply) ∧
      IsEchoReply request reply serverIp := by
  obtain ⟨i0, i1, i2, i3, s0, s1, s2, s3, k0, k1, k2, k3, -, -, hi, hs, -, hrest⟩ :=
    exists_parts hlen
  have hicmpLength : ([0, request.getD 21 0, 0, 0] ++ request.drop 24).length ≤ 65536 := by
    rw [List.length_append, List.length_drop]
    simp only [List.length_cons, List.length_nil]
    omega
  have hmodel := gateway_computeChecksum _ hicmpLength
  set n := OnesComplement.reduce 65536
    (OnesComplement.words ([0, request.getD 21 0, 0, 0] ++ request.drop 24)).sum with hn
  have hgateway : Gateway.buildIcmpEchoReply request serverIp =
      some ([0x45, 0x00, UInt8.ofNat (request.length % 65536 / 256),
        UInt8.ofNat (request.length % 65536 % 256)] ++ [i0, i1, i2, i3] ++ [64, 1, 0, 0] ++
        Gateway.octets serverIp ++ [s0, s1, s2, s3] ++ ([0, request.getD 21 0,
          UInt8.ofNat ((65535 - n) / 256), UInt8.ofNat ((65535 - n) % 256)] ++
        request.drop 24)) := by
    unfold Gateway.buildIcmpEchoReply
    rw [if_neg (by omega), if_neg (by rw [htype]; decide)]
    simp only [hmodel, hi, hs, List.append_assoc]
  have hlength : (UInt8.ofNat (request.length % 65536 / 256)).toNat * 256 +
      (UInt8.ofNat (request.length % 65536 % 256)).toNat = request.length := by
    simp only [UInt8.toNat_ofNat']
    omega
  refine ⟨_, (buildIcmpEchoReply_eq (by omega) serverIp).trans (congrArg Except.ok hgateway), ?_⟩
  refine ⟨?_, hlength, rfl, hs.symm, rfl, rfl, rfl, sum_with_complement _ _ hn⟩
  simp only [Gateway.octets, List.length_append, List.length_cons, List.length_nil,
    List.length_drop]
  omega

/-- An echo request of 29 bytes: an odd message. -/
theorem echoReply_odd :
    let request : Bytes := [0x45, 0, 0, 29, 0, 1, 0, 0, 64, 1, 0, 0, 10, 0, 0, 2, 10, 0, 0, 1,
      8, 0, 0x12, 0x34, 0, 7, 0, 9, 0xAB]
    ∃ reply, buildIcmpEchoReply request ⟨10, 0, 0, 1⟩ = .ok (some reply) ∧
      IsEchoReply request reply ⟨10, 0, 0, 1⟩ :=
  echoReply_correct _ _ (by decide) (by decide) rfl

end Aivpn.IcmpReply
