import Aivpn.Common.ClientWire

/-!
# What the receive window knows

`Holds w seen` relates a receive window to the set of counters it has marked: the highest of them, and
a bit for each of the last 256. `new` holds nothing, `mark` adds a counter (`Holds.mark`), and
`is_new` answers from the set (`Holds.isNew_iff`), after any sequence of marks
(`isNew_markAll_iff`). Counters are below `2 ^ 63`, where the signed `highest` represents them.

When the tags that a search looks at do not collide with the tag of a datagram, `find_counter`
returns the counter of the datagram exactly when it is new, in reach and its time window is
(`findCounter_eq_some_iff`).
-/

set_option autoImplicit false

namespace Aivpn

open Aivpn.Lib

namespace Bitset256

theorem shiftRight_and_one (x : BitVec 128) (i : Nat) :
    (x >>> i &&& 1#128 == 1#128) = x.getLsbD i := by
  cases hx : x.getLsbD i with
  | true =>
      have hone : x >>> i &&& 1#128 = 1#128 := by
        apply BitVec.eq_of_getLsbD_eq
        intro j hj
        by_cases h0 : j = 0
        · subst h0
          simp [hx]
        · simp [BitVec.getLsbD_one, h0]
      simp [hone]
  | false =>
      have hzero : x >>> i &&& 1#128 = 0#128 := by
        apply BitVec.eq_of_getLsbD_eq
        intro j hj
        by_cases h0 : j = 0
        · subst h0
          simp [hx]
        · simp [BitVec.getLsbD_one, h0]
      simp [hzero]

theorem getBit_eq_test (b : Bitset256) {i : Nat} (hi : i < 256) : getBit b i = b.test i := by
  by_cases h : i < 128
  · simp only [getBit, WideBits.test, h, if_true, shiftRight_and_one]
  · simp only [getBit, WideBits.test, h, hi, if_true, if_false, shiftRight_and_one]

theorem setBit_eq_setAt (b : Bitset256) {i : Nat} (hi : i < 256) : setBit b i = b.setAt i := by
  by_cases h : i < 128
  · simp only [setBit, WideBits.setAt, h, if_true]
  · simp only [setBit, WideBits.setAt, h, hi, if_true, if_false]

theorem shl_eq_shl (b : Bitset256) (k : Nat) : shl b k = WideBits.shl b k := by
  unfold shl WideBits.shl
  by_cases hbig : 256 ≤ k
  · simp only [hbig, if_true]
    rfl
  · by_cases h0 : k = 0
    · subst h0
      have hlo : b.lo >>> 128 = 0#128 := by
        apply BitVec.eq_of_getLsbD_eq
        intro i hi
        simp
      simp [hlo]
    · simp only [hbig, h0, if_false]

end Bitset256

namespace RecvWindow

/-- The window has marked the counters in `seen`. -/
structure Holds (w : RecvWindow) (seen : Set Nat) : Prop where
  empty : w.highest < 0 → seen = ∅
  mem : 0 ≤ w.highest → w.highest.toNat ∈ seen
  le : ∀ c ∈ seen, c ≤ w.highest.toNat
  bound : w.highest < 2 ^ 63
  tracks : 0 ≤ w.highest → w.bitmap.Tracks w.highest.toNat seen

theorem holds_new : new.Holds ∅ where
  empty _ := rfl
  mem h := absurd h (by decide)
  le _ hc := absurd hc (Set.notMem_empty _)
  bound := by decide
  tracks h := absurd h (by decide)

variable {w : RecvWindow} {seen : Set Nat}

theorem Holds.isNew_iff (h : w.Holds seen) (c : Nat) :
    w.isNew c = true ↔ c ∉ seen ∧ (0 ≤ w.highest → w.highest.toNat < c + 256) := by
  unfold isNew
  by_cases hneg : w.highest < 0
  · simp only [hneg, if_true, true_iff]
    rw [h.empty hneg]
    exact ⟨Set.notMem_empty _, fun h0 => absurd hneg (not_lt.2 h0)⟩
  · have hpos : 0 ≤ w.highest := not_lt.1 hneg
    simp only [hneg, if_false, hpos, true_imp_iff]
    by_cases hgt : c > w.highest.toNat
    · simp only [hgt, if_true, true_iff]
      refine ⟨fun hmem => ?_, by omega⟩
      have hle := h.le c hmem
      omega
    · simp only [hgt, if_false]
      -- too far behind the highest, or on a bit of the window
      by_cases hold : recvReorderWindow ≤ w.highest.toNat - c
      · simp only [hold, if_true, Bool.false_eq_true, false_iff, not_and, not_lt]
        intro _
        unfold recvReorderWindow at hold
        omega
      · unfold recvReorderWindow at hold
        have hlt : w.highest.toNat - c < 256 := by omega
        have hbit := h.tracks hpos (w.highest.toNat - c) (by omega) (by omega)
        have hback : w.highest.toNat - (w.highest.toNat - c) = c := by omega
        rw [hback] at hbit
        simp only [recvReorderWindow, hold, if_false, Bitset256.getBit_eq_test _ hlt,
          Bool.not_eq_true', ← Bool.not_eq_true, hbit]
        constructor
        · exact fun hnot => ⟨hnot, by omega⟩
        · exact fun hboth => hboth.1

theorem asI64_of_lt {c : Nat} (hc : c < 2 ^ 63) : asI64 c = c := by
  unfold asI64
  rw [if_pos hc]

theorem mark_first (hneg : w.highest < 0) (c : Nat) :
    w.mark c = ⟨asI64 c, WideBits.zero.setAt 0⟩ := by
  simp only [mark, hneg, true_or, if_true, le_refl]
  rw [Bitset256.setBit_eq_setAt _ (by decide)]
  rfl

theorem mark_advance (hpos : 0 ≤ w.highest) {c : Nat} (hgt : w.highest.toNat < c) :
    w.mark c = ⟨asI64 c, (WideBits.shl w.bitmap (c - w.highest.toNat)).setAt 0⟩ := by
  simp only [mark, not_lt.2 hpos, hgt, or_true, if_true, if_false]
  by_cases hbig : recvReorderWindow ≤ c - w.highest.toNat
  · -- the source starts over where the shift leaves no bit
    have hzero : WideBits.shl w.bitmap (c - w.highest.toNat) = WideBits.zero := by
      unfold recvReorderWindow at hbig
      simp only [WideBits.shl]
      rw [if_pos (by omega)]
    rw [if_pos hbig, Bitset256.setBit_eq_setAt _ (by decide), hzero]
    rfl
  · rw [if_neg hbig, Bitset256.setBit_eq_setAt _ (by decide), Bitset256.shl_eq_shl]

/-- A window whose highest counter is `c`. -/
theorem holds_of_tracks {c : Nat} (hc : c < 2 ^ 63) {b : Bitset256} (hle : ∀ x ∈ seen, x ≤ c)
    (htracks : b.Tracks c (insert c seen)) : Holds ⟨asI64 c, b⟩ (insert c seen) := by
  rw [asI64_of_lt hc]
  refine ⟨fun hneg => absurd hneg (by simp), fun _ => Set.mem_insert c seen, ?_, ?_,
    fun _ => htracks⟩
  · intro x hx
    rcases Set.mem_insert_iff.1 hx with rfl | hold
    · exact le_rfl
    · exact hle x hold
  · show (c : Int) < 2 ^ 63
    exact_mod_cast hc

/-- Marking adds the counter, also when it is marked already or lies below the window. -/
theorem Holds.mark (h : w.Holds seen) {c : Nat} (hc : c < 2 ^ 63) :
    (w.mark c).Holds (insert c seen) := by
  by_cases hneg : w.highest < 0
  · have hfirst := (WideBits.tracks_zero (w := 128) c).mark le_rfl
    rw [Nat.sub_self] at hfirst
    rw [mark_first hneg, h.empty hneg]
    exact holds_of_tracks hc (fun x hx => absurd hx (Set.notMem_empty x)) hfirst
  have hpos : 0 ≤ w.highest := not_lt.1 hneg
  by_cases hgt : w.highest.toNat < c
  · rw [mark_advance hpos hgt]
    exact holds_of_tracks hc (fun x hx => (h.le x hx).trans hgt.le)
      ((h.tracks hpos).advance h.le hgt)
  have hle : c ≤ w.highest.toNat := not_lt.1 hgt
  -- the highest counter stays, and the bitmap gets the bit of `c` if it has one
  have hbelow : ∀ b : Bitset256, b.Tracks w.highest.toNat (insert c seen) →
      Holds ⟨w.highest, b⟩ (insert c seen) := by
    intro b hb
    refine ⟨fun hneg => absurd hpos (not_le.2 hneg), fun _ => Set.mem_insert_of_mem _ (h.mem hpos),
      ?_, h.bound, fun _ => hb⟩
    intro x hx
    rcases Set.mem_insert_iff.1 hx with rfl | hold
    · exact hle
    · exact h.le x hold
  simp only [RecvWindow.mark, hneg, gt_iff_lt, hgt, or_self, if_false]
  by_cases hdiff : w.highest.toNat - c < recvReorderWindow
  · have hbit : w.highest.toNat - c < 256 := by
      unfold recvReorderWindow at hdiff
      exact hdiff
    rw [if_pos hdiff, Bitset256.setBit_eq_setAt _ hbit]
    exact hbelow _ ((h.tracks hpos).mark hle)
  · have hout : 2 * 128 ≤ w.highest.toNat - c := by
      unfold recvReorderWindow at hdiff
      omega
    rw [if_neg hdiff]
    exact hbelow _ ((h.tracks hpos).mark_below hout)

/-! ## Sequences of marks -/

/-- The counters marked one after the other. -/
def markAll (w : RecvWindow) (cs : List Nat) : RecvWindow := cs.foldl RecvWindow.mark w

theorem Holds.markAll (h : w.Holds seen) {cs : List Nat} (hcs : ∀ c ∈ cs, c < 2 ^ 63) :
    (w.markAll cs).Holds ({ c | c ∈ cs } ∪ seen) := by
  induction cs generalizing w seen with
  | nil => simpa [RecvWindow.markAll] using h
  | cons c cs ih =>
      have hrest := ih (h.mark (hcs c List.mem_cons_self)) fun x hx =>
        hcs x (List.mem_cons_of_mem c hx)
      have hset : { x | x ∈ c :: cs } ∪ seen = { x | x ∈ cs } ∪ insert c seen := by
        ext x
        simp only [List.mem_cons, Set.mem_union, Set.mem_ofPred_eq, Set.mem_insert_iff]
        tauto
      rw [hset]
      exact hrest

/-- A fresh window after a sequence of marks holds the counters of the sequence. -/
theorem holds_markAll {cs : List Nat} (hcs : ∀ c ∈ cs, c < 2 ^ 63) :
    (new.markAll cs).Holds { c | c ∈ cs } := by
  have hall := holds_new.markAll hcs
  rw [Set.union_empty] at hall
  exact hall

theorem Holds.max?_eq {decoded : List Nat} (h : w.Holds { c | c ∈ decoded })
    (hpos : 0 ≤ w.highest) : decoded.max? = some w.highest.toNat :=
  List.max?_eq_some_iff.2 ⟨h.mem hpos, h.le⟩

theorem Holds.eq_nil {decoded : List Nat} (h : w.Holds { c | c ∈ decoded })
    (hneg : w.highest < 0) : decoded = [] := by
  have hset := h.empty hneg
  rw [List.eq_nil_iff_forall_not_mem]
  exact fun c hc => Set.notMem_empty c (hset ▸ hc)

/-- The window answers from the set of the counters marked and their maximum alone. -/
theorem isNew_markAll_iff {cs : List Nat} (hcs : ∀ c ∈ cs, c < 2 ^ 63) (c : Nat) :
    (new.markAll cs).isNew c = true ↔
      c ∉ cs ∧ (cs = [] ∨ ∃ m, cs.max? = some m ∧ m < c + 256) := by
  have h := holds_markAll hcs
  rw [h.isNew_iff, Set.mem_ofPred_eq]
  by_cases hneg : (new.markAll cs).highest < 0
  · have hnil := h.eq_nil hneg
    simp [hnil, not_le.2 (hnil ▸ hneg)]
  · have hpos := not_lt.1 hneg
    have hmax := h.max?_eq hpos
    have hne : cs ≠ [] := by
      rintro rfl
      cases hmax
    simp [hpos, hmax, hne]

theorem isNew_marked_out_of_order :
    (∀ c ∈ [300, 45, 44], c < 2 ^ 63) ∧ (new.markAll [300, 45, 44]).isNew 46 = true := by
  have hcs : ∀ c ∈ [300, 45, 44], c < 2 ^ 63 := by decide
  exact ⟨hcs, (isNew_markAll_iff hcs 46).2 ⟨by decide, Or.inr ⟨300, rfl, by decide⟩⟩⟩

/-! ## The search -/

/-- The triples of tag secret, counter and time window whose tags `find_counter` compares. -/
def searched (tw : Nat) (w : RecvWindow) (tagSecret : Key) : Set (Key × Nat × Nat) :=
  { x | x.1 = tagSecret ∧ w.searchStart ≤ x.2.1 ∧ x.2.1 < w.searchEnd ∧
    x.2.2 ∈ [tw, wrappingPred tw, wrappingAdd tw 1] }

variable {P : Primitives} {tw c : Nat} {tag : Tag} {keys : SessionKeys}

/-- A counter that is found is new and in reach, and the tag is its tag in one of the three
windows. -/
theorem searched_of_findCounter (h : w.findCounter P tw tag keys = some c) :
    w.isNew c = true ∧ ∃ t, (keys.tagSecret, c, t) ∈ w.searched tw keys.tagSecret ∧
      P.generateResonanceTag keys.tagSecret c t = tag := by
  unfold findCounter at h
  obtain ⟨t, ht, hfind⟩ := List.exists_of_findSome?_eq_some h
  have hmem := List.mem_of_find?_eq_some hfind
  rw [List.mem_range'_1] at hmem
  have hc := List.find?_some hfind
  simp only [Bool.and_eq_true, decide_eq_true_eq] at hc
  have hend : c < w.searchEnd := by omega
  exact ⟨hc.1, t, ⟨rfl, hmem.1, hend, ht⟩, hc.2⟩

/-- A new counter in reach is found, if not another one. -/
theorem findCounter_isSome {t : Nat} (hnew : w.isNew c = true)
    (ht : (keys.tagSecret, c, t) ∈ w.searched tw keys.tagSecret) :
    (w.findCounter P tw (P.generateResonanceTag keys.tagSecret c t) keys).isSome := by
  obtain ⟨-, hstart, hend, hwindow⟩ := ht
  simp only at hstart hend hwindow
  unfold findCounter
  rw [List.findSome?_isSome_iff]
  refine ⟨t, hwindow, ?_⟩
  rw [List.find?_isSome]
  refine ⟨c, ?_, ?_⟩
  · rw [List.mem_range'_1]
    omega
  · simp [hnew]

/-- The search for the tag of counter `c` in window `t` finds that counter or none. -/
theorem findCounter_eq_some_iff {D : Set (Key × Nat × Nat)} (hD : P.CollisionFree D) {t c' : Nat}
    (hmem : (keys.tagSecret, c, t) ∈ D) (hsearched : w.searched tw keys.tagSecret ⊆ D) :
    w.findCounter P tw (P.generateResonanceTag keys.tagSecret c t) keys = some c' ↔
      c' = c ∧ w.isNew c = true ∧ (keys.tagSecret, c, t) ∈ w.searched tw keys.tagSecret := by
  have hfound : ∀ n, w.findCounter P tw (P.generateResonanceTag keys.tagSecret c t) keys = some n →
      n = c ∧ w.isNew c = true ∧ (keys.tagSecret, c, t) ∈ w.searched tw keys.tagSecret := by
    intro n h
    obtain ⟨hnew, t', ht', htag⟩ := searched_of_findCounter h
    -- the tags are those of two triples in `D`, so the triples are the same
    have htriple := hD (hsearched ht') hmem htag
    simp only [Prod.mk.injEq, true_and] at htriple
    obtain ⟨rfl, rfl⟩ := htriple
    exact ⟨rfl, hnew, ht'⟩
  constructor
  · exact hfound c'
  · rintro ⟨rfl, hnew, ht⟩
    obtain ⟨n, hn⟩ := Option.isSome_iff_exists.1 (findCounter_isSome (P := P) hnew ht)
    rw [hn, (hfound n hn).1]

theorem searched_subset_smallTriples {secrets : List Key} {secret : Key} (hsecret : secret ∈ secrets)
    (hw : w.highest < 2 ^ 20) (htw : 0 < tw) (htw' : tw < 2 ^ 23) :
    w.searched tw secret ⊆ smallTriples secrets := by
  rintro ⟨s, c, t⟩ ⟨hs, -, hend, ht⟩
  simp only at hs hend ht
  have hc : c < 2 ^ 24 := by
    simp only [searchEnd, recvFutureSearchWindow] at hend
    split_ifs at hend <;> omega
  have ht' : t < 2 ^ 24 := by
    simp only [List.mem_cons, List.not_mem_nil, or_false, wrappingPred, wrappingAdd, u64Max] at ht
    omega
  exact ⟨hs ▸ hsecret, hc, ht'⟩

end RecvWindow

/-! ## The decoder -/

/-- The decoder fails and leaves the window alone, or it has found a counter and decrypted under it;
then the counter is marked. -/
theorem decodePacketWithMdhLen_cases (P : Primitives) (tw : Nat) (packet : Bytes)
    (keys : SessionKeys) (w : RecvWindow) (mdhLen : Nat) :
    (∃ e, decodePacketWithMdhLen P tw packet keys w mdhLen = (err e, w)) ∨
    ∃ counter padded, w.findCounter P tw (readArray 8 0 packet) keys = some counter ∧
      P.decrypt keys.sessionKey (counterToNonce counter) (packet.drop (tagSize + mdhLen)) =
        some padded ∧
      decodePacketWithMdhLen P tw packet keys w mdhLen =
        (decodePadded counter padded, w.mark counter) := by
  unfold decodePacketWithMdhLen
  split_ifs
  · exact Or.inl ⟨_, rfl⟩
  · cases hfind : w.findCounter P tw (readArray 8 0 packet) keys with
    | none => exact Or.inl ⟨_, rfl⟩
    | some counter =>
        simp only [Primitives.decryptPayload]
        cases hdec : P.decrypt keys.sessionKey (counterToNonce counter)
            (packet.drop (tagSize + mdhLen)) with
        | none => exact Or.inl ⟨_, rfl⟩
        | some padded => exact Or.inr ⟨counter, padded, rfl, hdec, rfl⟩

end Aivpn
