import Aivpn.Common.Crypto
import Aivpn.Lib.PaddedText

/-!
# Masks as text records

`passive_distribution.rs` writes a mask into a DNS record with a base 64 encoder of its own. The loop
takes three bytes at a time, with zeros in place of missing ones, and writes as many characters as the
bytes need; a second loop pads the text.

`base64Encode_correct` says that the encoder returns the text of the bytes.
-/

set_option autoImplicit false

namespace Aivpn.PassiveDistribution

open Aivpn.Lib

/-! ## The encoder -/

/-- `TABLE`, as characters. -/
def table : Text := "ABCDEFGHIJKLMNOPQRSTUVWXYZabcdefghijklmnopqrstuvwxyz0123456789+/".toList

/-- A byte of the data, or zero behind its end. -/
def byteOrZero (data : Bytes) (i : Nat) : Outcome UInt8 :=
  if i < data.length then index data i else pure 0

/-- `result.push(TABLE[n & 0x3F] as char)`. -/
def push (result : Text) (n : Nat) : Outcome Text := do
  let c ← index table (n &&& 0x3F)
  pure (result ++ [c])

/-- The loop of `base64_encode` from the index `i` on. -/
def encodeFrom (data : Bytes) (i : Nat) (result : Text) : Outcome Text :=
  if h : i < data.length then do
    let b0 ← index data i
    let b1 ← byteOrZero data (i + 1)
    let b2 ← byteOrZero data (i + 2)
    let result ← push result (b0.toNat >>> 2)
    let result ← push result (b0.toNat <<< 4 ||| b1.toNat >>> 4)
    let result ← (if i + 1 < data.length then push result (b1.toNat <<< 2 ||| b2.toNat >>> 6)
      else pure result)
    let result ← (if i + 2 < data.length then push result b2.toNat else pure result)
    encodeFrom data (i + 3) result
  else pure result
termination_by data.length - i

/-- The padding loop. -/
def padText (result : Text) : Text :=
  if result.length % 4 ≠ 0 then padText (result ++ ['=']) else result
termination_by 3 - (result.length + 3) % 4
decreasing_by
  rw [List.length_append, List.length_singleton]
  omega

/-- `base64_encode`. -/
def base64Encode (data : Bytes) : Outcome Text := do
  let result ← encodeFrom data 0 []
  pure (padText result)

/-! ## The digits -/

/-- The digits that the loop writes. -/
def digits : Bytes → List Nat
  | [] => []
  | [b0] => [b0.toNat >>> 2 &&& 0x3F, (b0.toNat <<< 4 ||| 0 >>> 4) &&& 0x3F]
  | [b0, b1] => [b0.toNat >>> 2 &&& 0x3F, (b0.toNat <<< 4 ||| b1.toNat >>> 4) &&& 0x3F,
      (b1.toNat <<< 2 ||| 0 >>> 6) &&& 0x3F]
  | b0 :: b1 :: b2 :: rest => (b0.toNat >>> 2 &&& 0x3F) ::
      ((b0.toNat <<< 4 ||| b1.toNat >>> 4) &&& 0x3F) ::
      ((b1.toNat <<< 2 ||| b2.toNat >>> 6) &&& 0x3F) :: (b2.toNat &&& 0x3F) :: digits rest

theorem table_eq : table = Alphabet.base64.chars := by decide

theorem push_eq (result : Text) (n : Nat) :
    push result n = .ok (result ++ [Alphabet.base64.char (n &&& 0x3F)]) := by
  have hlt : n &&& 0x3F < Alphabet.base64.chars.length :=
    Nat.lt_of_le_of_lt Nat.and_le_right (by decide)
  unfold push
  rw [table_eq, index_of_lt hlt, Alphabet.char_eq hlt]
  rfl

theorem index_append (done rest : Bytes) (k : Nat) :
    (index (done ++ rest) (done.length + k) : Outcome UInt8) = index rest k := by
  unfold index
  rw [List.getElem?_append_right (Nat.le_add_right _ _), Nat.add_sub_cancel_left]

theorem byteOrZero_append (done rest : Bytes) (k : Nat) :
    byteOrZero (done ++ rest) (done.length + k) = .ok (rest.getD k 0) := by
  unfold byteOrZero
  by_cases hk : k < rest.length
  · rw [if_pos (by rw [List.length_append]; omega), index_append, index_of_lt hk,
      List.getD_eq_getElem _ _ hk]
  · rw [if_neg (by rw [List.length_append]; omega), List.getD_eq_default _ _ (Nat.le_of_not_lt hk)]
    rfl

/-- One round of the loop. -/
theorem encodeFrom_round (done rest : Bytes) (b0 : UInt8) (result : Text) :
    encodeFrom (done ++ b0 :: rest) done.length result =
      encodeFrom (done ++ b0 :: rest) (done.length + 3)
        (result ++ (digits (b0 :: rest.take 2)).map Alphabet.base64.char) := by
  have hlength : (done ++ b0 :: rest).length = done.length + 1 + rest.length := by
    rw [List.length_append, List.length_cons]
    omega
  have h0 : (index (done ++ b0 :: rest) done.length : Outcome UInt8) = .ok b0 :=
    index_append done (b0 :: rest) 0
  rw [encodeFrom, dif_pos (by omega), h0, byteOrZero_append, byteOrZero_append, hlength]
  simp only [ok_bind, push_eq]
  -- how many bytes are there behind the first one
  match rest with
  | [] =>
      have h1 : ¬ done.length + 1 < done.length + 1 + ([] : Bytes).length := Nat.lt_irrefl _
      have h2 : ¬ done.length + 2 < done.length + 1 + ([] : Bytes).length := by
        rw [List.length_nil]
        omega
      simp only [if_neg h1, if_neg h2, pure_bind, List.append_assoc]
      rfl
  | [b1] =>
      have h1 : done.length + 1 < done.length + 1 + [b1].length := Nat.lt_succ_self _
      have h2 : ¬ done.length + 2 < done.length + 1 + [b1].length := Nat.lt_irrefl _
      simp only [if_pos h1, if_neg h2, ok_bind, pure_bind, List.append_assoc]
      rfl
  | b1 :: b2 :: rest =>
      have h1 : done.length + 1 < done.length + 1 + (b1 :: b2 :: rest).length := by
        simp only [List.length_cons]
        omega
      have h2 : done.length + 2 < done.length + 1 + (b1 :: b2 :: rest).length := by
        simp only [List.length_cons]
        omega
      simp only [if_pos h1, if_pos h2, ok_bind, List.append_assoc]
      rfl

/-- The loop writes the digits of what is left. -/
theorem encodeFrom_append (done rest : Bytes) (result : Text) :
    encodeFrom (done ++ rest) done.length result =
      .ok (result ++ (digits rest).map Alphabet.base64.char) := by
  induction rest using digits.induct generalizing done result with
  | case1 =>
      rw [List.append_nil, encodeFrom, dif_neg (Nat.lt_irrefl _), digits, List.map_nil,
        List.append_nil]
      rfl
  | case2 b0 =>
      have hend : ¬ done.length + 3 < (done ++ [b0]).length := by
        simp only [List.length_append, List.length_cons, List.length_nil]
        omega
      rw [encodeFrom_round, encodeFrom, dif_neg hend]
      rfl
  | case3 b0 b1 =>
      have hend : ¬ done.length + 3 < (done ++ [b0, b1]).length := by
        simp only [List.length_append, List.length_cons, List.length_nil]
        omega
      rw [encodeFrom_round, encodeFrom, dif_neg hend]
      rfl
  | case4 b0 b1 b2 rest ih =>
      -- the next round starts behind the three bytes
      have hnext := ih (done ++ [b0, b1, b2])
      rw [List.length_append, List.append_assoc] at hnext
      rw [encodeFrom_round]
      refine (hnext _).trans ?_
      rw [List.append_assoc, ← List.map_append]
      rfl

/-! ## Their bits -/

theorem digits_lt (data : Bytes) : ∀ d ∈ digits data, d < 2 ^ 6 := by
  have hmask (n : Nat) : n &&& 0x3F < 2 ^ 6 := Nat.lt_of_le_of_lt Nat.and_le_right (by decide)
  induction data using digits.induct with
  | case1 => exact fun d hd => nomatch hd
  | case2 b0 =>
      simp only [digits, List.forall_mem_cons]
      exact ⟨hmask _, hmask _, fun d hd => nomatch hd⟩
  | case3 b0 b1 =>
      simp only [digits, List.forall_mem_cons]
      exact ⟨hmask _, hmask _, hmask _, fun d hd => nomatch hd⟩
  | case4 b0 b1 b2 rest ih =>
      simp only [digits, List.forall_mem_cons]
      exact ⟨hmask _, hmask _, hmask _, hmask _, ih⟩

/-- A digit from the low bits of one byte and the high bits of the next. -/
theorem toBits_join (v : Nat) {w b : Nat} (hw : w ≤ 8) (hb : b < 2 ^ 8) (a : Nat) :
    toBits (v + w) ((a <<< w ||| b >>> (8 - w)) &&& (2 ^ (v + w) - 1)) =
      toBits v a ++ toBits w (b >>> (8 - w)) := by
  have hhigh : b >>> (8 - w) < 2 ^ w := by
    rw [Nat.shiftRight_eq_div_pow]
    apply Nat.div_lt_of_lt_mul
    rwa [← Nat.pow_add, Nat.sub_add_cancel hw]
  rw [toBits_and_mask, toBits_shiftLeft_or v hhigh]

/-- The bits of the digits are those of the bytes, filled up with zeros. -/
theorem bitsOf_digits (data : Bytes) : ∃ fill < 6,
    bitsOf 6 (digits data) = Alphabet.byteBits data ++ List.replicate fill false := by
  -- the bits that each of the four digits takes from its bytes
  have hfirst (a : Nat) : toBits 6 (a >>> 2 &&& 0x3F) = toBits 6 (a >>> 2) := toBits_and_mask 6 _
  have hsecond (a : Nat) (b : UInt8) : toBits 6 ((a <<< 4 ||| b.toNat >>> 4) &&& 0x3F) =
      toBits 2 a ++ toBits 4 (b.toNat >>> 4) := toBits_join 2 (show 4 ≤ 8 by decide) b.toNat_lt a
  have hthird (a : Nat) (b : UInt8) : toBits 6 ((a <<< 2 ||| b.toNat >>> 6) &&& 0x3F) =
      toBits 4 a ++ toBits 2 (b.toNat >>> 6) := toBits_join 4 (show 2 ≤ 8 by decide) b.toNat_lt a
  have hlast (a : Nat) : toBits 6 (a &&& 0x3F) = toBits 6 a := toBits_and_mask 6 a
  -- the same bits, seen from the bytes
  have hcut2 (b : UInt8) : toBits 8 b.toNat = toBits 6 (b.toNat >>> 2) ++ toBits 2 b.toNat :=
    toBits_add 6 2 _
  have hcut4 (b : UInt8) : toBits 8 b.toNat = toBits 4 (b.toNat >>> 4) ++ toBits 4 b.toNat :=
    toBits_add 4 4 _
  have hcut6 (b : UInt8) : toBits 8 b.toNat = toBits 2 (b.toNat >>> 6) ++ toBits 6 b.toNat :=
    toBits_add 2 6 _
  unfold Alphabet.byteBits
  induction data using digits.induct with
  | case1 => exact ⟨0, by decide, rfl⟩
  | case2 b0 =>
      refine ⟨4, by decide, ?_⟩
      have hfilled : toBits 6 ((b0.toNat <<< 4 ||| 0 >>> 4) &&& 0x3F) =
          toBits 2 b0.toNat ++ List.replicate 4 false := hsecond b0.toNat 0
      simp only [digits, bitsOf_cons, bitsOf_nil, List.map_cons, List.map_nil, hfirst, hfilled]
      rw [hcut2 b0]
      simp only [List.append_assoc, List.append_nil]
  | case3 b0 b1 =>
      refine ⟨2, by decide, ?_⟩
      have hfilled : toBits 6 ((b1.toNat <<< 2 ||| 0 >>> 6) &&& 0x3F) =
          toBits 4 b1.toNat ++ List.replicate 2 false := hthird b1.toNat 0
      simp only [digits, bitsOf_cons, bitsOf_nil, List.map_cons, List.map_nil, hfirst, hsecond,
        hfilled]
      rw [hcut2 b0, hcut4 b1]
      simp only [List.append_assoc, List.append_nil]
  | case4 b0 b1 b2 rest ih =>
      obtain ⟨fill, hfill, hbits⟩ := ih
      refine ⟨fill, hfill, ?_⟩
      simp only [digits, bitsOf_cons, List.map_cons, hfirst, hsecond, hthird, hlast, hbits]
      rw [hcut2 b0, hcut4 b1, hcut6 b2]
      simp only [List.append_assoc]

/-! ## The text -/

/-- The padding loop fills the last quantum. -/
theorem padText_eq (result : Text) :
    padText result = result ++ List.replicate ((4 - result.length % 4) % 4) '=' := by
  induction result using padText.induct with
  | case1 result hopen ih =>
      have hcount : (4 - result.length % 4) % 4 = (4 - (result.length + 1) % 4) % 4 + 1 := by omega
      rw [padText, if_pos hopen, ih, List.length_append, List.length_singleton, hcount,
        List.append_assoc, List.replicate_succ, List.singleton_append]
  | case2 result hfull =>
      have hnone : (4 - result.length % 4) % 4 = 0 := by omega
      rw [padText, if_neg hfull, hnone, List.replicate_zero, List.append_nil]

/-- `base64_encode` returns the base 64 text of the bytes, which is read back as these bytes. -/
theorem base64Encode_correct (data : Bytes) : ∃ text, base64Encode data = .ok text ∧
    (∀ t, Alphabet.base64.Encodes data t ↔ t = text) ∧
    text.length = 4 * ((data.length + 2) / 3) ∧
    (∃ body pad, text = body ++ List.replicate pad '=' ∧ pad ≤ 2 ∧
      ∀ c ∈ body, c ∈ Alphabet.base64.chars) ∧
    Alphabet.base64.decode text = some data := by
  have hloop : encodeFrom data 0 [] = .ok ((digits data).map Alphabet.base64.char) :=
    encodeFrom_append [] data []
  obtain ⟨fill, hfill, hbits⟩ := bitsOf_digits data
  have hlength := congrArg List.length hbits
  rw [length_bitsOf, List.length_append, Alphabet.length_byteBits, List.length_replicate] at hlength
  have hpad := padText_eq ((digits data).map Alphabet.base64.char)
  rw [List.length_map] at hpad
  generalize hcount : (4 - (digits data).length % 4) % 4 = pad at hpad
  have htext : (padText ((digits data).map Alphabet.base64.char)).length =
      (digits data).length + pad := by
    rw [hpad, List.length_append, List.length_map, List.length_replicate]
  have hencodes : Alphabet.base64.Encodes data (padText ((digits data).map Alphabet.base64.char)) :=
    ⟨digits data, fill, pad, digits_lt data, hbits, hfill, hpad, show pad < 4 by omega,
      show 4 ∣ _ by omega⟩
  -- the lengths follow from the count of the bits
  refine ⟨_, ?_, fun t => ⟨fun h => h.unique hencodes, fun h => h ▸ hencodes⟩, ?_,
    ⟨_, pad, hpad, ?_, ?_⟩, Alphabet.decode_eq_some_iff.2 hencodes⟩
  · rw [base64Encode, hloop]
    rfl
  · omega
  · omega
  · intro c hc
    obtain ⟨d, hd, rfl⟩ := List.mem_map.1 hc
    exact Alphabet.char_mem (digits_lt data d hd)

end Aivpn.PassiveDistribution
