import Aivpn.Client.AivpnCrypto
import Aivpn.Lib.SignedWords
import Mathlib.Order.Fin.Basic
import Mathlib.Tactic.IntervalCases

/-!
# BLAKE3 of the Kotlin client

`Blake3.kt` is an implementation for data of one chunk. Its words are signed, its state is an
array updated in place, and the loop over the blocks of the chunk carries the chaining value and
the last output. `words` reads the signed words as unsigned ones; under it every function here
is the function of the specification (`words_g`, `words_compress`, `words_hashChunk`), and the
two hashes agree for data of at most one chunk.
-/

set_option autoImplicit false

/-! ## The specification

The hash that the `blake3` crate computes and that the Kotlin client implements again, in the
words of its specification: a compression function of seven rounds on sixteen unsigned words, a
chunk of at most 1024 bytes compressed block by block from a chaining value, a binary tree over
the chunks, and the root compressed once more under `ROOT`. The modes differ in the key words
and in the flag that every compression carries. -/

namespace Aivpn.Blake3Spec

open Aivpn.Lib

/-- The initial chaining value. -/
def iv : Vector UInt32 8 :=
  #v[0x6A09E667, 0xBB67AE85, 0x3C6EF372, 0xA54FF53A,
    0x510E527F, 0x9B05688C, 0x1F83D9AB, 0x5BE0CD19]

/-- The permutation of the message words between two rounds. -/
def msgPermutation : Vector (Fin 16) 16 :=
  #v[2, 6, 3, 10, 7, 0, 4, 13, 1, 11, 12, 5, 9, 14, 15, 8]

/-! ### Flags -/

def chunkStart : UInt32 := 1
def chunkEnd : UInt32 := 2
def parent : UInt32 := 4
def root : UInt32 := 8
def keyedHashFlag : UInt32 := 16
def deriveKeyContext : UInt32 := 32
def deriveKeyMaterial : UInt32 := 64

/-! ### The compression function -/

/-- The rotation of a word to the right. -/
def rotr (x : UInt32) (n : Nat) : UInt32 :=
  x >>> UInt32.ofNat n ||| x <<< UInt32.ofNat (32 - n)

/-- The quarter-round on the words at `a`, `b`, `c` and `d`. -/
def g (v : Vector UInt32 16) (a b c d : Fin 16) (x y : UInt32) : Vector UInt32 16 :=
  let v := v.set a (v[a] + v[b] + x)
  let v := v.set d (rotr (v[d] ^^^ v[a]) 16)
  let v := v.set c (v[c] + v[d])
  let v := v.set b (rotr (v[b] ^^^ v[c]) 12)
  let v := v.set a (v[a] + v[b] + y)
  let v := v.set d (rotr (v[d] ^^^ v[a]) 8)
  let v := v.set c (v[c] + v[d])
  v.set b (rotr (v[b] ^^^ v[c]) 7)

/-- A round: the four columns, then the four diagonals. -/
def round (v m : Vector UInt32 16) : Vector UInt32 16 :=
  let v := g v 0 4 8 12 m[0] m[1]
  let v := g v 1 5 9 13 m[2] m[3]
  let v := g v 2 6 10 14 m[4] m[5]
  let v := g v 3 7 11 15 m[6] m[7]
  let v := g v 0 5 10 15 m[8] m[9]
  let v := g v 1 6 11 12 m[10] m[11]
  let v := g v 2 7 8 13 m[12] m[13]
  g v 3 4 9 14 m[14] m[15]

/-- The message words in the order of the next round. -/
def permute (m : Vector UInt32 16) : Vector UInt32 16 := Vector.ofFn fun i => m[msgPermutation[i]]

/-- `n` rounds, each on the permuted words of the one before. -/
def rounds : Nat → Vector UInt32 16 → Vector UInt32 16 → Vector UInt32 16
  | 0, v, _ => v
  | n + 1, v, m => rounds n (round v m) (permute m)

/-- The first and the second half of the output from the state after the rounds. -/
def feedForward (v : Vector UInt32 16) (h : Vector UInt32 8) : Vector UInt32 16 :=
  (Vector.ofFn fun i : Fin 8 => v[i.val] ^^^ v[i.val + 8]) ++
    Vector.ofFn fun i : Fin 8 => v[i.val + 8] ^^^ h[i]

/-- The first eight of sixteen words. -/
def firstWords (w : Vector UInt32 16) : Vector UInt32 8 := Vector.ofFn fun i => w[i.val]

/-- The compression function. -/
def compress (h : Vector UInt32 8) (m : Vector UInt32 16) (t : UInt64) (b d : UInt32) :
    Vector UInt32 16 :=
  let v := h ++ #v[iv[0], iv[1], iv[2], iv[3], t.toUInt32, (t >>> 32).toUInt32, b, d]
  feedForward (rounds 7 v m) h

/-! ### Chunks and the tree -/

/-- The words of a block, zeros after its last byte. -/
def blockWords (block : Bytes) : Vector UInt32 16 :=
  Vector.ofFn fun i => UInt32.ofNat (leNat ((block.drop (4 * i)).take 4))

/-- What is left to do for a node: its last compression, which ends either in a chaining value or
in the output. -/
structure Output where
  inputChainingValue : Vector UInt32 8
  blockWords : Vector UInt32 16
  counter : UInt64
  blockLen : UInt32
  flags : UInt32

/-- The chaining value of a node. -/
def Output.chainingValue (o : Output) : Vector UInt32 8 :=
  firstWords (compress o.inputChainingValue o.blockWords o.counter o.blockLen o.flags)

/-- The first eight words of the output of the root. -/
def Output.rootWords (o : Output) : Vector UInt32 8 :=
  firstWords (compress o.inputChainingValue o.blockWords 0 o.blockLen (o.flags ||| root))

/-- The blocks of a chunk from the chaining value `h` on; `start` is the flag of the first one. -/
def chunkFrom (flags : UInt32) (counter : UInt64) (start : UInt32) (h : Vector UInt32 8)
    (data : Bytes) : Output :=
  if data.length ≤ 64 then
    { inputChainingValue := h
      blockWords := blockWords data
      counter := counter
      blockLen := UInt32.ofNat data.length
      flags := flags ||| start ||| chunkEnd }
  else
    let h := firstWords (compress h (blockWords (data.take 64)) counter 64 (flags ||| start))
    chunkFrom flags counter 0 h (data.drop 64)
termination_by data.length
decreasing_by
  rw [List.length_drop]
  omega

/-- A chunk of at most 1024 bytes. -/
def chunk (key : Vector UInt32 8) (flags : UInt32) (counter : UInt64) (data : Bytes) : Output :=
  chunkFrom flags counter chunkStart key data

/-- The node over two subtrees. -/
def parentNode (key : Vector UInt32 8) (flags : UInt32) (left right : Vector UInt32 8) : Output :=
  { inputChainingValue := key
    blockWords := left ++ right
    counter := 0
    blockLen := 64
    flags := flags ||| parent }

/-- The bytes of the left subtree: the largest power of two of chunks that leaves a byte for the
right one. -/
def leftLen (n : Nat) : Nat := 1024 * 2 ^ ((n - 1) / 1024).log2

theorem leftLen_pos (n : Nat) : 0 < leftLen n := by
  have hpow : 0 < 2 ^ ((n - 1) / 1024).log2 := Nat.two_pow_pos _
  rw [leftLen]
  omega

theorem leftLen_lt {n : Nat} (h : 1024 < n) : leftLen n < n := by
  have hpow : 2 ^ ((n - 1) / 1024).log2 ≤ (n - 1) / 1024 := Nat.log2_self_le (by omega)
  rw [leftLen]
  omega

/-- The tree over the data whose first chunk has the given counter. -/
def tree (key : Vector UInt32 8) (flags : UInt32) (counter : Nat) (data : Bytes) : Output :=
  if h : data.length ≤ 1024 then chunk key flags (UInt64.ofNat counter) data
  else
    let n := leftLen data.length
    parentNode key flags (tree key flags counter (data.take n)).chainingValue
      (tree key flags (counter + n / 1024) (data.drop n)).chainingValue
termination_by data.length
decreasing_by
  · rw [List.length_take]
    exact lt_of_le_of_lt (min_le_left _ _) (leftLen_lt (by omega))
  · have hpos := leftLen_pos data.length
    rw [List.length_drop]
    omega

/-- The output words of a mode on its key words. -/
def hashWords (key : Vector UInt32 8) (flags : UInt32) (data : Bytes) : Vector UInt32 8 :=
  (tree key flags 0 data).rootWords

/-- The bytes of eight words. -/
def wordsBytes (w : Vector UInt32 8) : Key :=
  ⟨(List.finRange 8).flatMap fun i => leBytes 4 w[i].toNat, by simp⟩

/-- The words of a key. -/
def keyWords (key : Key) : Vector UInt32 8 :=
  Vector.ofFn fun i => UInt32.ofNat (leNat ((key.toList.drop (4 * i)).take 4))

/-- The first 32 bytes of `keyed_hash`. -/
def keyedHash (key : Key) (data : Bytes) : Key :=
  wordsBytes (hashWords (keyWords key) keyedHashFlag data)

/-- A context string, a sequence of Unicode characters, in UTF-8. -/
def contextBytes (context : String) : Bytes := context.toUTF8.data.toList

/-- The first 32 bytes of `derive_key`. -/
def deriveKey (context : String) (material : Bytes) : Key :=
  wordsBytes (hashWords (hashWords iv deriveKeyContext (contextBytes context)) deriveKeyMaterial
    material)

/-- Data of one chunk is hashed without the tree. -/
theorem hashWords_of_le {data : Bytes} (h : data.length ≤ 1024) (key : Vector UInt32 8)
    (flags : UInt32) : hashWords key flags data = (chunk key flags 0 data).rootWords := by
  rw [hashWords, tree, dif_pos h]
  rfl

end Aivpn.Blake3Spec

/-! ## The implementation -/

namespace Aivpn.Blake3

open Aivpn.Lib Aivpn.Lib.Signed

/-- `IV`. -/
def iv : Vector Int32 8 :=
  #v[0x6A09E667, 0xBB67AE85, 0x3C6EF372, 0xA54FF53A,
    0x510E527F, 0x9B05688C, 0x1F83D9AB, 0x5BE0CD19]

/-- `MSG_PERMUTATION`. -/
def msgPermutation : Vector (Fin 16) 16 :=
  #v[2, 6, 3, 10, 7, 0, 4, 13, 1, 11, 12, 5, 9, 14, 15, 8]

def chunkStart : Int32 := 1
def chunkEnd : Int32 := 2
def root : Int32 := 8
def keyedHashFlag : Int32 := 16
def deriveKeyContext : Int32 := 32
def deriveKeyMaterial : Int32 := 64

/-- `BLOCK_LEN`. -/
def blockLength : Nat := 64

/-- `ror`. -/
def ror (x : Int32) (n : Nat) : Int32 := ushr x n ||| shl x (32 - n)

/-- `g`. -/
def g (state : Vector Int32 16) (a b c d : Fin 16) (mx my : Int32) : Vector Int32 16 :=
  let state := state.set a (state[a] + state[b] + mx)
  let state := state.set d (ror (state[d] ^^^ state[a]) 16)
  let state := state.set c (state[c] + state[d])
  let state := state.set b (ror (state[b] ^^^ state[c]) 12)
  let state := state.set a (state[a] + state[b] + my)
  let state := state.set d (ror (state[d] ^^^ state[a]) 8)
  let state := state.set c (state[c] + state[d])
  state.set b (ror (state[b] ^^^ state[c]) 7)

/-- The body of the loop of `compress` over the rounds: the state and the message words. -/
def roundStep (s : Vector Int32 16 × Vector Int32 16) (round : Nat) :
    Vector Int32 16 × Vector Int32 16 :=
  let state := s.1
  let m := s.2
  let state := g state 0 4 8 12 m[0] m[1]
  let state := g state 1 5 9 13 m[2] m[3]
  let state := g state 2 6 10 14 m[4] m[5]
  let state := g state 3 7 11 15 m[6] m[7]
  let state := g state 0 5 10 15 m[8] m[9]
  let state := g state 1 6 11 12 m[10] m[11]
  let state := g state 2 7 8 13 m[12] m[13]
  let state := g state 3 4 9 14 m[14] m[15]
  (state, if round < 6 then Vector.ofFn fun i => m[msgPermutation[i]] else m)

/-- The body of the last loop of `compress`. -/
def finalStep (cv : Vector Int32 8) (state : Vector Int32 16) (i : Fin 8) : Vector Int32 16 :=
  let state := state.set i.val (state[i.val] ^^^ state[i.val + 8])
  state.set (i.val + 8) (state[i.val + 8] ^^^ cv[i])

/-- `compress`. -/
def compress (cv : Vector Int32 8) (blockWords : Vector Int32 16) (counter : Int64)
    (blockLen flags : Int32) : Vector Int32 16 :=
  let state := #v[cv[0], cv[1], cv[2], cv[3], cv[4], cv[5], cv[6], cv[7], iv[0], iv[1], iv[2], iv[3],
    counter.toInt32, (counter >>> 32).toInt32, blockLen, flags]
  let rounds := (List.range 7).foldl roundStep (state, blockWords)
  (List.finRange 8).foldl (finalStep cv) rounds.1

/-- The four bytes from `off` as a word. -/
def wordAt (bytes : Bytes) (off : Nat) : Int32 :=
  (toInt (bytes.getD off 0) &&& 0xFF) ||| shl (toInt (bytes.getD (off + 1) 0) &&& 0xFF) 8 |||
    shl (toInt (bytes.getD (off + 2) 0) &&& 0xFF) 16 |||
    shl (toInt (bytes.getD (off + 3) 0) &&& 0xFF) 24

/-- `bytesToWords8`. -/
def bytesToWords8 (bytes : Bytes) : Vector Int32 8 := Vector.ofFn fun i => wordAt bytes (i * 4)

/-- `bytesToWords16`. -/
def bytesToWords16 (bytes : Bytes) : Vector Int32 16 := Vector.ofFn fun i => wordAt bytes (i * 4)

/-- `wordsToBytes` with the count 8. -/
def wordsToBytes (words : Vector Int32 16) : Key :=
  ⟨(List.finRange 8).flatMap fun i => [toByte (words[i.val] &&& 0xFF),
    toByte (shr words[i.val] 8 &&& 0xFF), toByte (shr words[i.val] 16 &&& 0xFF),
    toByte (shr words[i.val] 24 &&& 0xFF)], by simp⟩

/-- The variables of the loop of `hashChunk`. -/
structure ChunkVars where
  chainingValue : Vector Int32 8
  lastOutput : Vector Int32 16

/-- The body of the loop of `hashChunk` over the blocks. -/
def blockStep (data : Bytes) (modeFlags : Int32) (numBlocks : Nat) (s : ChunkVars) (i : Nat) :
    ChunkVars :=
  let start := i * blockLength
  let stop := min (start + blockLength) data.length
  let blockLen := stop - start
  let block := (data.drop start).take blockLen ++ List.replicate (blockLength - blockLen) 0
  let flags := if i = 0 then modeFlags ||| chunkStart else modeFlags
  let flags := if i = numBlocks - 1 then flags ||| chunkEnd ||| root else flags
  let lastOutput :=
    compress s.chainingValue (bytesToWords16 block) 0 (Int32.ofNat blockLen) flags
  { chainingValue :=
      if i < numBlocks - 1 then Vector.ofFn fun j => lastOutput[j.val] else s.chainingValue
    lastOutput := lastOutput }

/-- `hashChunk`. -/
def hashChunk (cv : Vector Int32 8) (data : Bytes) (modeFlags : Int32) : Vector Int32 16 :=
  let numBlocks := max 1 ((data.length + blockLength - 1) / blockLength)
  ((List.range numBlocks).foldl (blockStep data modeFlags numBlocks)
    { chainingValue := cv, lastOutput := Vector.replicate 16 0 }).lastOutput

/-- `deriveKey`. -/
def deriveKey (context : String) (material : Bytes) : Key :=
  let contextOutput := hashChunk iv (Blake3Spec.contextBytes context) deriveKeyContext
  let contextKey := Vector.ofFn fun i : Fin 8 => contextOutput[i.val]
  wordsToBytes (hashChunk contextKey material deriveKeyMaterial)

/-- `keyedHash`, which throws for a key of another size. -/
def keyedHash (key data : Bytes) : Option Key :=
  if key.length = 32 then some (wordsToBytes (hashChunk (bytesToWords8 key) data keyedHashFlag))
  else none

/-! ## Signed words read as unsigned ones -/

/-- The words without their sign. -/
def words {n : Nat} (v : Vector Int32 n) : Vector UInt32 n := v.map Int32.toUInt32

@[simp] theorem getElem_words {n i : Nat} (v : Vector Int32 n) (hi : i < n) :
    (words v)[i] = v[i].toUInt32 := by
  rw [words, Vector.getElem_map]

@[simp] theorem words_set {n i : Nat} (v : Vector Int32 n) (x : Int32) (hi : i < n) :
    words (v.set i x) = (words v).set i x.toUInt32 := by
  rw [words, words, Vector.map_set]

theorem words_firstWords (v : Vector Int32 16) :
    words (Vector.ofFn fun i : Fin 8 => v[i.val]) = Blake3Spec.firstWords (words v) := by
  rw [words, Vector.map_ofFn]
  simp only [Blake3Spec.firstWords, getElem_words]
  rfl

@[simp] theorem toUInt32_ror (x : Int32) (n : Nat) :
    (ror x n).toUInt32 = Blake3Spec.rotr x.toUInt32 n := rfl

/-! ## The compression function -/

section

variable {s : Vector Int32 16} {v : Vector UInt32 16}

theorem words_set_add (h : words s = v) (a b : Fin 16) :
    words (s.set a (s[a] + s[b])) = v.set a (v[a] + v[b]) := by
  subst h
  simp

theorem words_set_add_message (h : words s = v) (a b : Fin 16) (x : Int32) :
    words (s.set a (s[a] + s[b] + x)) = v.set a (v[a] + v[b] + x.toUInt32) := by
  subst h
  simp

theorem words_set_ror (h : words s = v) (a d : Fin 16) (n : Nat) :
    words (s.set d (ror (s[d] ^^^ s[a]) n)) = v.set d (Blake3Spec.rotr (v[d] ^^^ v[a]) n) := by
  subst h
  simp

end

theorem words_g (s : Vector Int32 16) (a b c d : Fin 16) (x y : Int32) :
    words (g s a b c d x y) = Blake3Spec.g (words s) a b c d x.toUInt32 y.toUInt32 := by
  -- the eight updates in the order of the source
  have h1 := words_set_add_message (rfl : words s = words s) a b x
  have h2 := words_set_ror h1 a d 16
  have h3 := words_set_add h2 c d
  have h4 := words_set_ror h3 c b 12
  have h5 := words_set_add_message h4 a b y
  have h6 := words_set_ror h5 a d 8
  have h7 := words_set_add h6 c d
  exact words_set_ror h7 c b 7

/-- The state after a round is that of the specification. -/
theorem words_roundStep (s m : Vector Int32 16) (round : Nat) :
    words (roundStep (s, m) round).1 = Blake3Spec.round (words s) (words m) := by
  simp only [roundStep, Blake3Spec.round, words_g, getElem_words]

theorem words_permute (m : Vector Int32 16) :
    words (Vector.ofFn fun i => m[msgPermutation[i]]) = Blake3Spec.permute (words m) := by
  rw [words, Vector.map_ofFn]
  simp only [Blake3Spec.permute, Fin.getElem_fin, getElem_words]
  rfl

/-- The rounds from `k` on, of which the last leaves the message words alone. -/
theorem words_rounds (n k : Nat) (h : k + n = 7) (s m : Vector Int32 16) :
    words ((List.range' k n).foldl roundStep (s, m)).1 =
      Blake3Spec.rounds n (words s) (words m) := by
  induction n generalizing k s m with
  | zero => rfl
  | succ n ih =>
      rw [List.range'_succ, List.foldl_cons, Blake3Spec.rounds, ← words_roundStep s m k]
      by_cases hk : k < 6
      · have hm : roundStep (s, m) k =
            ((roundStep (s, m) k).1, Vector.ofFn fun i => m[msgPermutation[i]]) := by
          simp only [roundStep, hk, if_true]
        rw [hm, ih (k + 1) (by omega), words_permute]
      · have hn : n = 0 := by omega
        rw [hn]
        rfl

/-- The words that the last loop leaves at the positions `i` and `i + 8`. -/
theorem getElem_finalStep (cv : Vector Int32 8) (l : List (Fin 8)) (hl : l.Nodup)
    (s : Vector Int32 16) (i : Fin 8) :
    (l.foldl (finalStep cv) s)[i.val] =
        (if i ∈ l then s[i.val] ^^^ s[i.val + 8] else s[i.val]) ∧
      (l.foldl (finalStep cv) s)[i.val + 8] =
        if i ∈ l then s[i.val + 8] ^^^ cv[i] else s[i.val + 8] := by
  induction l generalizing s with
  | nil => exact ⟨rfl, rfl⟩
  | cons j l ih =>
      rw [List.nodup_cons] at hl
      obtain ⟨hlow, hhigh⟩ := ih hl.2 (finalStep cv s j)
      rw [List.foldl_cons, hlow, hhigh]
      -- the fold touches each pair of words once, as no index comes twice
      by_cases hij : i = j
      · subst hij
        simp [hl.1, finalStep]
      · have hne : j.val ≠ i.val := fun h => hij (Fin.ext h.symm)
        have h1 : j.val ≠ i.val + 8 := by omega
        have h2 : j.val + 8 ≠ i.val := by omega
        simp [hij, finalStep, hne, h1, h2]

theorem words_final (cv : Vector Int32 8) (s : Vector Int32 16) :
    words ((List.finRange 8).foldl (finalStep cv) s) =
      Blake3Spec.feedForward (words s) (words cv) := by
  apply Vector.ext
  intro i hi
  rw [getElem_words, Blake3Spec.feedForward]
  -- the lower half is mixed with the upper half, the upper half with the chaining value
  by_cases hlow : i < 8
  · have h := (getElem_finalStep cv (List.finRange 8) (List.nodup_finRange 8) s ⟨i, hlow⟩).1
    rw [if_pos (List.mem_finRange _)] at h
    rw [h, Vector.getElem_append_left hlow, Vector.getElem_ofFn, getElem_words, getElem_words,
      Int32.toUInt32_xor]
  · have h := (getElem_finalStep cv (List.finRange 8) (List.nodup_finRange 8) s
      ⟨i - 8, by omega⟩).2
    have hi8 : i - 8 + 8 = i := by omega
    rw [if_pos (List.mem_finRange _)] at h
    simp only [hi8] at h
    rw [h, Vector.getElem_append_right (by omega) (by omega), Vector.getElem_ofFn]
    simp only [getElem_words, Int32.toUInt32_xor, hi8, Fin.getElem_fin]

/-- The two words of a counter: the shift with the sign leaves the high word below it. -/
theorem toUInt32_counter (counter : Int64) :
    counter.toInt32.toUInt32 = counter.toUInt64.toUInt32 ∧
      (counter >>> 32).toInt32.toUInt32 = (counter.toUInt64 >>> 32).toUInt32 := by
  have hlow (x : Int64) : x.toInt32.toUInt32 = x.toUInt64.toUInt32 := by
    apply UInt32.toBitVec_inj.mp
    exact BitVec.signExtend_eq_setWidth_of_le _ (by decide)
  refine ⟨hlow counter, ?_⟩
  rw [hlow]
  apply UInt32.toBitVec_inj.mp
  apply BitVec.eq_of_getLsbD_eq
  -- an arithmetic shift differs from a logical one above bit 32 only
  intro i hi
  have h64 : i < 64 := by omega
  have hlt : 32 + i < 64 := by omega
  show ((counter.toBitVec.sshiftRight 32).setWidth 32).getLsbD i =
    ((counter.toBitVec >>> 32).setWidth 32).getLsbD i
  rw [BitVec.getLsbD_setWidth, BitVec.getLsbD_setWidth, BitVec.getLsbD_sshiftRight,
    BitVec.getLsbD_ushiftRight]
  simp only [hlt, Nat.not_le.mpr h64, decide_false, Bool.not_false, Bool.true_and, if_true]

theorem words_initial (cv : Vector Int32 8) (x y z w : Int32) :
    words #v[cv[0], cv[1], cv[2], cv[3], cv[4], cv[5], cv[6], cv[7], iv[0], iv[1], iv[2], iv[3],
        x, y, z, w] =
      words cv ++ #v[Blake3Spec.iv[0], Blake3Spec.iv[1], Blake3Spec.iv[2], Blake3Spec.iv[3],
        x.toUInt32, y.toUInt32, z.toUInt32, w.toUInt32] := by
  apply Vector.ext
  intro i hi
  by_cases hlow : i < 8
  · rw [getElem_words, Vector.getElem_append_left hlow, getElem_words]
    interval_cases i <;> rfl
  · rw [getElem_words, Vector.getElem_append_right (by omega) (by omega)]
    interval_cases i <;> rfl

theorem words_compress (cv : Vector Int32 8) (m : Vector Int32 16) (counter : Int64)
    (blockLen flags : Int32) :
    words (compress cv m counter blockLen flags) =
      Blake3Spec.compress (words cv) (words m) counter.toUInt64 blockLen.toUInt32
        flags.toUInt32 := by
  have hrounds := words_rounds 7 0 rfl
  rw [← List.range_eq_range'] at hrounds
  rw [compress, words_final, hrounds, words_initial, (toUInt32_counter counter).1,
    (toUInt32_counter counter).2, Blake3Spec.compress]

/-! ## Words and bytes -/

/-- Four bytes are read from a list as if zeros followed it. -/
theorem leNat_take_four (l : Bytes) :
    leNat (l.take 4) = leNat [l.getD 0 0, l.getD 1 0, l.getD 2 0, l.getD 3 0] := by
  match l with
  | [] => rfl
  | [_] => rfl
  | [_, _] => rfl
  | [_, _, _] => rfl
  | _ :: _ :: _ :: _ :: _ => rfl

theorem toUInt32_wordAt (bytes : Bytes) (off : Nat) :
    (wordAt bytes off).toUInt32 = UInt32.ofNat (leNat ((bytes.drop off).take 4)) := by
  have hread : ∀ k, (bytes.drop off).getD k 0 = bytes.getD (off + k) 0 := by
    intro k
    rw [List.getD_eq_getElem?_getD, List.getElem?_drop, List.getD_eq_getElem?_getD]
  rw [wordAt, toUInt32_word, leNat_take_four, hread, hread, hread, hread]
  rfl

theorem words_bytesToWords16 (bytes : Bytes) :
    words (bytesToWords16 bytes) = Blake3Spec.blockWords bytes := by
  rw [words, bytesToWords16, Vector.map_ofFn, Blake3Spec.blockWords]
  congr 1
  funext i
  rw [Function.comp_apply, toUInt32_wordAt, Nat.mul_comm]

theorem words_bytesToWords8 (key : Key) :
    words (bytesToWords8 key.toList) = Blake3Spec.keyWords key := by
  rw [words, bytesToWords8, Vector.map_ofFn, Blake3Spec.keyWords]
  congr 1
  funext i
  rw [Function.comp_apply, toUInt32_wordAt, Nat.mul_comm]

/-- The zeros that fill up a block are those of the specification. -/
theorem blockWords_append_zeros (block : Bytes) (k : Nat) :
    Blake3Spec.blockWords (block ++ List.replicate k 0) = Blake3Spec.blockWords block := by
  have hread : ∀ j, (block ++ List.replicate k 0).getD j 0 = block.getD j 0 := by
    intro j
    grind
  rw [Blake3Spec.blockWords, Blake3Spec.blockWords]
  congr 1
  funext i
  simp only [leNat_take_four, List.getD_eq_getElem?_getD, List.getElem?_drop] at hread ⊢
  rw [hread, hread, hread, hread]

/-- The bytes of the first eight words. -/
theorem wordsToBytes_eq (output : Vector Int32 16) :
    wordsToBytes output = Blake3Spec.wordsBytes (Blake3Spec.firstWords (words output)) := by
  apply ByteArr.ext
  simp only [wordsToBytes, Blake3Spec.wordsBytes, Blake3Spec.firstWords, bytes_eq_leBytes,
    Fin.getElem_fin, Vector.getElem_ofFn, getElem_words]

/-! ## The loop over the blocks -/

/-- The flags of block `i`. -/
theorem toUInt32_flags (modeFlags : Int32) (i numBlocks : Nat) :
    (if i = numBlocks - 1 then (if i = 0 then modeFlags ||| chunkStart else modeFlags) |||
        chunkEnd ||| root
      else if i = 0 then modeFlags ||| chunkStart else modeFlags).toUInt32 =
    if i = numBlocks - 1 then
      modeFlags.toUInt32 ||| (if i = 0 then Blake3Spec.chunkStart else 0) |||
        Blake3Spec.chunkEnd ||| Blake3Spec.root
    else modeFlags.toUInt32 ||| if i = 0 then Blake3Spec.chunkStart else 0 := by
  split <;> split <;> simp <;> rfl

/-- A pass through the loop compresses the block at its position. -/
theorem words_blockStep (data : Bytes) (modeFlags : Int32) (numBlocks : Nat) (s : ChunkVars)
    (i : Nat) :
    words (blockStep data modeFlags numBlocks s i).lastOutput =
      Blake3Spec.compress (words s.chainingValue)
        (Blake3Spec.blockWords ((data.drop (i * 64)).take 64)) 0
        (UInt32.ofNat ((data.drop (i * 64)).take 64).length)
        (if i = numBlocks - 1 then
          modeFlags.toUInt32 ||| (if i = 0 then Blake3Spec.chunkStart else 0) |||
            Blake3Spec.chunkEnd ||| Blake3Spec.root
        else modeFlags.toUInt32 ||| if i = 0 then Blake3Spec.chunkStart else 0) := by
  -- the last block is what is left, and the others are whole
  have hlength : min (i * blockLength + blockLength) data.length - i * blockLength =
      ((data.drop (i * 64)).take 64).length := by
    rw [List.length_take, List.length_drop, blockLength]
    omega
  have htake : (data.drop (i * blockLength)).take ((data.drop (i * 64)).take 64).length =
      (data.drop (i * 64)).take 64 := by
    rw [blockLength, List.take_eq_take_iff, List.length_take]
    omega
  simp only [blockStep, words_compress, words_bytesToWords16, blockWords_append_zeros, hlength,
    htake, toUInt32_flags]
  rfl

theorem chainingValue_blockStep {data : Bytes} {modeFlags : Int32} {numBlocks : Nat}
    {s : ChunkVars} {i : Nat} (hi : i < numBlocks - 1) :
    words (blockStep data modeFlags numBlocks s i).chainingValue =
      Blake3Spec.firstWords (words (blockStep data modeFlags numBlocks s i).lastOutput) := by
  rw [← words_firstWords]
  simp only [blockStep, hi, if_true]

/-- The blocks from `k` on. -/
theorem firstWords_blocks {data : Bytes} {modeFlags : Int32} {numBlocks : Nat}
    (hblocks : numBlocks = max 1 ((data.length + 63) / 64)) (n k : Nat) (hk : k + n = numBlocks)
    (hn : n ≠ 0) (s : ChunkVars) :
    Blake3Spec.firstWords (words
        ((List.range' k n).foldl (blockStep data modeFlags numBlocks) s).lastOutput) =
      (Blake3Spec.chunkFrom modeFlags.toUInt32 0 (if k = 0 then Blake3Spec.chunkStart else 0)
        (words s.chainingValue) (data.drop (k * 64))).rootWords := by
  induction n generalizing k s with
  | zero => exact absurd rfl hn
  | succ n ih =>
      rw [List.range'_succ, List.foldl_cons, Blake3Spec.chunkFrom]
      by_cases hlast : n = 0
      · -- the last block, which no other follows
        have hlength : (data.drop (k * 64)).length ≤ 64 := by
          rw [List.length_drop]
          omega
        have hi : k = numBlocks - 1 := by omega
        rw [hlast, List.range'_zero, List.foldl_nil, words_blockStep, if_pos hi, if_pos hlength,
          List.take_of_length_le hlength]
        rfl
      · -- a whole block, whose output is the chaining value of the next
        have hlength : 64 < (data.drop (k * 64)).length := by
          rw [List.length_drop]
          omega
        have hlt : k < numBlocks - 1 := by omega
        have hstart : k + 1 ≠ 0 := by omega
        have hdrop : (data.drop (k * 64)).drop 64 = data.drop ((k + 1) * 64) := by
          rw [List.drop_drop]
          congr 1
          omega
        have htake : ((data.drop (k * 64)).take 64).length = 64 := by
          rw [List.length_take]
          omega
        rw [ih (k + 1) (by omega) hlast, if_neg hstart, if_neg (Nat.not_le.mpr hlength), hdrop,
          chainingValue_blockStep hlt, words_blockStep, if_neg (Nat.ne_of_lt hlt), htake]
        rfl

/-- For data of one chunk the first words of the output are the root of the specification. -/
theorem words_hashChunk (cv : Vector Int32 8) {data : Bytes} (h : data.length ≤ 1024)
    (modeFlags : Int32) :
    Blake3Spec.firstWords (words (hashChunk cv data modeFlags)) =
      Blake3Spec.hashWords (words cv) modeFlags.toUInt32 data := by
  have hpos : max 1 ((data.length + 63) / 64) ≠ 0 := by omega
  rw [hashChunk, List.range_eq_range', Blake3Spec.hashWords_of_le h]
  exact firstWords_blocks rfl _ 0 (Nat.zero_add _) hpos
    { chainingValue := cv, lastOutput := Vector.replicate 16 0 }

/-! ## The two hashes -/

theorem words_iv : words iv = Blake3Spec.iv := by
  decide +kernel

/-- `deriveKey` is `derive_key` for a context and material of one chunk. -/
theorem deriveKey_of_le {context : String} {material : Bytes}
    (hcontext : (Blake3Spec.contextBytes context).length ≤ 1024) (hmaterial : material.length ≤ 1024) :
    deriveKey context material = Blake3Spec.deriveKey context material := by
  rw [deriveKey, wordsToBytes_eq, words_hashChunk _ hmaterial, words_firstWords,
    words_hashChunk _ hcontext, words_iv, Blake3Spec.deriveKey]
  rfl

/-- `keyedHash` is `keyed_hash` for data of one chunk. -/
theorem keyedHash_of_le (key : Key) {data : Bytes} (hdata : data.length ≤ 1024) :
    keyedHash key.toList data = some (Blake3Spec.keyedHash key data) := by
  rw [keyedHash, if_pos key.length_toList, wordsToBytes_eq, words_hashChunk _ hdata,
    words_bytesToWords8, Blake3Spec.keyedHash]
  rfl

/-! ## The derivations of the client -/

section

variable {P : Primitives}

/-- Over BLAKE3 as the primitive, a tag is what `Blake3.kt` computes for it. -/
theorem generateTag_eq (hP : P.keyedHash = Blake3Spec.keyedHash) (secret : Key)
    (counter timeWindow : Int) :
    (keyedHash secret.toList (AivpnCrypto.longBytes counter ++
      AivpnCrypto.longBytes timeWindow)).map (·.toList.take 8) =
    some (AivpnCrypto.generateTag P secret counter timeWindow).toList := by
  have hlength : (AivpnCrypto.longBytes counter ++ AivpnCrypto.longBytes timeWindow).length ≤
      1024 := by
    simp [AivpnCrypto.longBytes]
  rw [keyedHash_of_le secret hlength, ← hP]
  rfl

/-- The material of the key derivation. -/
def kdfMaterial (sharedSecret clientPub : Key) (psk : Option Key) : Bytes :=
  sharedSecret.toList ++ (match psk with | some psk => psk.toList | none => []) ++ clientPub.toList

theorem length_kdfMaterial (sharedSecret clientPub : Key) (psk : Option Key) :
    (kdfMaterial sharedSecret clientPub psk).length ≤ 1024 := by
  cases psk with
  | none => simp [kdfMaterial]
  | some psk => simp [kdfMaterial]

/-- Over BLAKE3 as the primitive, the keys of the client are what `Blake3.kt` computes for them. -/
theorem deriveKeys_eq (hP : P.deriveKey = Blake3Spec.deriveKey) (sharedSecret clientPub : Key)
    (psk : Option Key) (c : AivpnCrypto) :
    AivpnCrypto.deriveKeys P sharedSecret clientPub psk c =
      { c with
        sessionKey := deriveKey "aivpn-session-key-v1" (kdfMaterial sharedSecret clientPub psk)
        tagSecret := deriveKey "aivpn-tag-secret-v1" (kdfMaterial sharedSecret clientPub psk) } := by
  have hlength := length_kdfMaterial sharedSecret clientPub psk
  rw [deriveKey_of_le (by decide) hlength, deriveKey_of_le (by decide) hlength, ← hP]
  cases psk with
  | none =>
      rw [kdfMaterial, List.append_nil]
      rfl
  | some psk => rfl

end

/-- For a context, material and data of at most 1024 bytes each, with empty ones and whole blocks
among them, the two functions of the client return the first 32 bytes that BLAKE3 defines. -/
theorem deriveKey_and_keyedHash_of_le :
    (∀ (context : String) (material : Bytes), (Blake3Spec.contextBytes context).length ≤ 1024 →
      material.length ≤ 1024 → deriveKey context material = Blake3Spec.deriveKey context material) ∧
    ∀ (key : Key) (data : Bytes), data.length ≤ 1024 →
      keyedHash key.toList data = some (Blake3Spec.keyedHash key data) :=
  ⟨fun _ _ hcontext hmaterial => deriveKey_of_le hcontext hmaterial,
    fun key _ hdata => keyedHash_of_le key hdata⟩

theorem deriveKey_and_keyedHash_sample :
    deriveKey "aivpn-session-key-v1" (List.replicate 64 1) =
        Blake3Spec.deriveKey "aivpn-session-key-v1" (List.replicate 64 1) ∧
      keyedHash (ByteArr.replicate 32 2).toList [] =
        some (Blake3Spec.keyedHash (ByteArr.replicate 32 2) []) :=
  ⟨deriveKey_and_keyedHash_of_le.1 _ _ (by decide) (by decide),
    deriveKey_and_keyedHash_of_le.2 _ _ (by decide)⟩

/-- The tag input that the Android tests check. -/
example : (keyedHash (List.replicate 32 2) (leBytes 8 0 ++ leBytes 8 100)).map ByteArr.toList =
    some (leBytes 32 0x2d0b1732188b3eca28d4276851b424071cb6c687729e32dbb09828053d5fac4e) := by
  decide +kernel

end Aivpn.Blake3
