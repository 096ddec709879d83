import Aivpn.Lib.BitStrings
import Aivpn.Lib.Text

/-!
# Bytes as padded text

The encodings of RFC 4648: the bits of the bytes are cut into digits of `w` bits, the last of them
filled up with zeros, each digit is a character of an alphabet, and the text is padded with `=` to
whole quanta. `Alphabet.Encodes` says so as a relation between bytes and text. `Alphabet.decode` reads
a text back, and accepts nothing but what the relation allows (`decode_eq_some_iff`).
-/

set_option autoImplicit false

namespace Aivpn.Lib

/-- An alphabet for digits of `width` bits, and the length of a quantum of text. -/
structure Alphabet where
  width : Nat
  chars : List Char
  quantum : Nat
  width_pos : 0 < width
  width_le : width ≤ 8
  length_chars : chars.length = 2 ^ width
  nodup : chars.Nodup
  pad_not_mem : '=' ∉ chars

namespace Alphabet

/-- The base 64 alphabet. -/
def base64 : Alphabet where
  width := 6
  chars := "ABCDEFGHIJKLMNOPQRSTUVWXYZ".toList ++ "abcdefghijklmnopqrstuvwxyz".toList ++
    "0123456789".toList ++ ['+', '/']
  quantum := 4
  width_pos := by decide
  width_le := by decide
  length_chars := by decide
  nodup := by decide +kernel
  pad_not_mem := by decide

/-- The base 64 alphabet for URLs. -/
def base64url : Alphabet where
  width := 6
  chars := "ABCDEFGHIJKLMNOPQRSTUVWXYZ".toList ++ "abcdefghijklmnopqrstuvwxyz".toList ++
    "0123456789".toList ++ ['-', '_']
  quantum := 4
  width_pos := by decide
  width_le := by decide
  length_chars := by decide
  nodup := by decide +kernel
  pad_not_mem := by decide

variable (A : Alphabet)

/-- The character of a digit. -/
def char (d : Nat) : Char := A.chars.getD d '='

/-- The digit of a character. -/
def value (c : Char) : Option Nat := if c ∈ A.chars then some (A.chars.idxOf c) else none

/-- The bits of bytes. -/
def byteBits (data : Bytes) : List Bool := bitsOf 8 (data.map UInt8.toNat)

/-- The text is that of the bytes. -/
def Encodes (data : Bytes) (text : Text) : Prop :=
  ∃ digits fill pad, (∀ d ∈ digits, d < 2 ^ A.width) ∧
    bitsOf A.width digits = byteBits data ++ List.replicate fill false ∧ fill < A.width ∧
    text = digits.map A.char ++ List.replicate pad '=' ∧ pad < A.quantum ∧ A.quantum ∣ text.length

/-- The bytes of a text. Filled bits that are not zero and a wrong padding are refused. -/
def decode (text : Text) : Option Bytes :=
  let body := text.takeWhile (· ≠ '=')
  let pad := text.length - body.length
  match body.mapM A.value with
  | none => none
  | some digits =>
      let bits := bitsOf A.width digits
      let n := bits.length / 8
      let fill := bits.length - 8 * n
      if text = body ++ List.replicate pad '=' ∧ pad < A.quantum ∧ A.quantum ∣ text.length ∧
          bits.drop (8 * n) = List.replicate fill false ∧ fill < A.width then
        some ((groups 8 n bits).map UInt8.ofNat)
      else none

/-! ## Characters -/

section

variable {A} {c : Char} {d : Nat}

theorem char_eq (h : d < A.chars.length) : A.char d = A.chars[d] :=
  List.getD_eq_getElem _ _ h

theorem char_mem (h : d < 2 ^ A.width) : A.char d ∈ A.chars := by
  rw [← A.length_chars] at h
  rw [char_eq h]
  exact List.getElem_mem h

theorem value_eq_some_iff : A.value c = some d ↔ d < 2 ^ A.width ∧ A.char d = c := by
  rw [← A.length_chars, value]
  constructor
  · intro h
    split_ifs at h with hmem
    have hd : A.chars.idxOf c = d := Option.some.inj h
    have hlt : A.chars.idxOf c < A.chars.length := List.idxOf_lt_length_of_mem hmem
    subst hd
    exact ⟨hlt, by rw [char_eq hlt, List.getElem_idxOf hlt]⟩
  · rintro ⟨hlt, rfl⟩
    rw [char_eq hlt, if_pos (List.getElem_mem hlt), A.nodup.idxOf_getElem]

theorem mapM_value_eq_some_iff {body : Text} {digits : List Nat} :
    body.mapM A.value = some digits ↔
      (∀ d ∈ digits, d < 2 ^ A.width) ∧ digits.map A.char = body := by
  induction body generalizing digits with
  | nil =>
      rw [List.mapM_nil]
      constructor
      · intro h
        cases h
        exact ⟨(fun _ hd => nomatch hd), rfl⟩
      · rintro ⟨-, h⟩
        rw [List.map_eq_nil_iff.1 h]
        rfl
  | cons c body ih =>
      rw [List.mapM_cons]
      simp only [Option.bind_eq_bind, Option.bind_eq_some_iff, Option.pure_def, Option.some.injEq]
      constructor
      · rintro ⟨d, hd, ds, hds, rfl⟩
        obtain ⟨hlt, rfl⟩ := value_eq_some_iff.1 hd
        obtain ⟨hall, rfl⟩ := ih.1 hds
        exact ⟨List.forall_mem_cons.2 ⟨hlt, hall⟩, rfl⟩
      · rintro ⟨hall, hmap⟩
        obtain ⟨d, ds, rfl, rfl, rfl⟩ := List.map_eq_cons_iff.1 hmap
        obtain ⟨hlt, hrest⟩ := List.forall_mem_cons.1 hall
        exact ⟨d, value_eq_some_iff.2 ⟨hlt, rfl⟩, ds, ih.2 ⟨hrest, rfl⟩, rfl⟩

/-- The digits are the part in front of the first `=`. -/
theorem takeWhile_chars {digits : List Nat} (h : ∀ d ∈ digits, d < 2 ^ A.width) (pad : Nat) :
    (digits.map A.char ++ List.replicate pad '=').takeWhile (· ≠ '=') = digits.map A.char := by
  have hchars : ∀ c ∈ digits.map A.char, decide (c ≠ '=') = true := by
    intro c hc
    obtain ⟨d, hd, rfl⟩ := List.mem_map.1 hc
    apply decide_eq_true
    intro heq
    apply A.pad_not_mem
    rw [← heq]
    exact char_mem (h d hd)
  rw [List.takeWhile_append_of_pos hchars]
  cases pad with
  | zero => exact List.append_nil _
  | succ pad => exact List.append_nil _

end

/-! ## Reading back -/

section

variable {A} {data : Bytes} {text : Text}

theorem length_byteBits (data : Bytes) : (byteBits data).length = 8 * data.length := by
  rw [byteBits, length_bitsOf, List.length_map]

/-- The bytes are found again in their bits. -/
theorem groups_byteBits (data : Bytes) (rest : List Bool) :
    (groups 8 data.length (byteBits data ++ rest)).map UInt8.ofNat = data := by
  have hlt : ∀ n ∈ data.map UInt8.toNat, n < 2 ^ 8 :=
    List.forall_mem_map.2 fun b _ => b.toNat_lt
  have hgroups := groups_bitsOf hlt rest
  rw [List.length_map] at hgroups
  rw [byteBits, hgroups, List.map_map]
  exact List.map_id'' (fun b => UInt8.ofNat_toNat) data

/-- Bytes cut from bits have these bits. -/
theorem byteBits_groups {n : Nat} {bits : List Bool} (h : 8 * n ≤ bits.length) :
    byteBits ((groups 8 n bits).map UInt8.ofNat) = bits.take (8 * n) := by
  have hsame : ((groups 8 n bits).map UInt8.ofNat).map UInt8.toNat = groups 8 n bits := by
    rw [List.map_map]
    calc (groups 8 n bits).map (UInt8.toNat ∘ UInt8.ofNat) = (groups 8 n bits).map id :=
          List.map_congr_left fun g hg => UInt8.toNat_ofNat_of_lt (groups_lt 8 n bits g hg)
      _ = groups 8 n bits := List.map_id _
  rw [byteBits, hsame, bitsOf_groups h]

/-- A text is read as some bytes exactly if it is theirs. -/
theorem decode_eq_some_iff : A.decode text = some data ↔ A.Encodes data text := by
  unfold decode
  simp only
  constructor
  · intro h
    cases hdigits : (text.takeWhile (· ≠ '=')).mapM A.value with
    | none =>
        rw [hdigits] at h
        cases h
    | some digits =>
        rw [hdigits] at h
        simp only at h
        split_ifs at h with hcond
        obtain ⟨htext, hpad, hquantum, hzero, hfill⟩ := hcond
        obtain ⟨hlt, hbody⟩ := mapM_value_eq_some_iff.1 hdigits
        have hdata := Option.some.inj h
        rw [← hbody] at htext hpad
        refine ⟨digits, _, _, hlt, ?_, hfill, htext, hpad, hquantum⟩
        have hwhole : 8 * ((bitsOf A.width digits).length / 8) ≤ (bitsOf A.width digits).length := by
          omega
        rw [← hdata, byteBits_groups hwhole, ← hzero, List.take_append_drop]
  · rintro ⟨digits, fill, pad, hlt, hbits, hfill, rfl, hpad, hquantum⟩
    have hwidth := A.width_le
    have hdigits := mapM_value_eq_some_iff.2 ⟨hlt, rfl⟩
    have hlength : (bitsOf A.width digits).length = 8 * data.length + fill := by
      rw [hbits, List.length_append, length_byteBits, List.length_replicate]
    have hcount : (8 * data.length + fill) / 8 = data.length := by omega
    have hpadding : (digits.map A.char ++ List.replicate pad '=').length -
        (digits.map A.char).length = pad := by
      rw [List.length_append, List.length_replicate, Nat.add_sub_cancel_left]
    rw [takeWhile_chars hlt, hdigits]
    simp only
    rw [hpadding, hlength, hcount, Nat.add_sub_cancel_left, hbits]
    have hzero : (byteBits data ++ List.replicate fill false).drop (8 * data.length) =
        List.replicate fill false := List.drop_left' (length_byteBits data)
    rw [if_pos ⟨rfl, hpad, hquantum, hzero, hfill⟩, groups_byteBits]

example : base64.decode "Zm9vYg==".toList = some [0x66, 0x6f, 0x6f, 0x62] := by decide +kernel

/-- Bytes have one text. -/
theorem Encodes.unique {other : Text} (h : A.Encodes data text) (h' : A.Encodes data other) :
    text = other := by
  obtain ⟨ds, fill, pad, hlt, hbits, hfill, rfl, hpad, hquantum⟩ := h
  obtain ⟨es, fill', pad', hlt', hbits', hfill', rfl, hpad', hquantum'⟩ := h'
  have hds := congrArg List.length hbits
  have hes := congrArg List.length hbits'
  rw [length_bitsOf, List.length_append, length_byteBits, List.length_replicate] at hds hes
  -- one digit more would hold more bits than may be filled
  have hcount {k l f g : Nat} (hk : A.width * k = 8 * data.length + f)
      (hl : A.width * l = 8 * data.length + g) (hg : g < A.width) : l ≤ k := by
    by_contra hmore
    have hmul := Nat.mul_le_mul_left A.width (Nat.lt_of_not_le hmore)
    rw [Nat.succ_eq_add_one, Nat.mul_succ] at hmul
    omega
  have hsame : ds.length = es.length := le_antisymm (hcount hes hds hfill) (hcount hds hes hfill')
  have hfills : fill = fill' := by
    rw [hsame] at hds
    omega
  have hdigits : ds = es := by
    rw [← groups_bitsOf hlt [], ← groups_bitsOf hlt' [], hsame, hbits, hbits', hfills]
  subst hdigits
  -- and one quantum more would be padded with more than a quantum
  have hpads {p q : Nat} (hp : A.quantum ∣ (ds.map A.char ++ List.replicate p '=').length)
      (hq : A.quantum ∣ (ds.map A.char ++ List.replicate q '=').length) (hlt : p < A.quantum) :
      p ≤ q := by
    have hdvd := Nat.dvd_sub hp hq
    simp only [List.length_append, List.length_replicate, Nat.add_sub_add_left] at hdvd
    exact Nat.le_of_sub_eq_zero (Nat.eq_zero_of_dvd_of_lt hdvd (by omega))
  rw [le_antisymm (hpads hquantum hquantum' hpad) (hpads hquantum' hquantum hpad')]

end

end Alphabet

end Aivpn.Lib
