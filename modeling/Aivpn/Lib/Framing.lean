import Mathlib.Data.List.Infix

/-!
# Self-delimiting codes and framed streams

A code is self-delimiting when a value can be read from the front of its encoding, whatever
follows; such a code is injective and no encoding is a proper prefix of another.

`Framing` cuts a stream of symbols into frames. A decoder keeps the symbols it has received and
takes frames off the front until none is left (`drain`). For a sound framing and a stream of
well-formed frames, the decoder hands on the frames that have arrived completely and keeps the rest,
however the stream was cut into chunks (`receive_stream`).
-/

set_option autoImplicit false

namespace Aivpn.Lib

universe u v w

section

variable {α : Type u} {β : Type v}

/-- The valid values can be read from the front of a list that begins with their encoding. -/
def SelfDelimiting (Valid : α → Prop) (encode : α → List β) (read : List β → Option α) : Prop :=
  ∀ a, Valid a → ∀ t, read (encode a ++ t) = some a

namespace SelfDelimiting

variable {Valid : α → Prop} {encode : α → List β} {read : List β → Option α}

/-- No encoding is a proper prefix of another. -/
theorem eq_of_prefix (h : SelfDelimiting Valid encode read) {a b : α} (ha : Valid a) (hb : Valid b)
    (hab : encode a <+: encode b) : a = b := by
  obtain ⟨t, ht⟩ := hab
  have hread := h a ha t
  rw [ht, ← List.append_nil (encode b), h b hb] at hread
  exact (Option.some.inj hread).symm

theorem injOn (h : SelfDelimiting Valid encode read) {a b : α} (ha : Valid a) (hb : Valid b)
    (hab : encode a = encode b) : a = b :=
  h.eq_of_prefix ha hb (hab ▸ List.prefix_refl _)

end SelfDelimiting

end

/-- How values are written to a stream, and how the first one is read from a buffer: with the number
of symbols it takes, not yet, or not at all. -/
structure Framing (α : Type u) (β : Type v) (ε : Type w) where
  frame : α → List β
  decode : List β → Except ε (Option (α × Nat))

/-- What a decoder has handed on, what it keeps, and the error that stopped it. -/
structure Drained (α : Type u) (β : Type v) (ε : Type w) where
  packets : List α
  buf : List β
  error : Option ε

/-- `r'` goes on where `r` has stopped for want of symbols; it adds nothing behind an error. -/
def Drained.followedBy {α : Type u} {β : Type v} {ε : Type w} (r : Drained α β ε) (t : List β)
    (r' : Drained α β ε) : Drained α β ε :=
  match r.error with
  | some e => ⟨r.packets, r.buf ++ t, some e⟩
  | none => { r' with packets := r.packets ++ r'.packets }

namespace Framing

variable {α : Type u} {β : Type v} {ε : Type w} (F : Framing α β ε)

/-- The decoder takes at most `fuel` frames off the front of its buffer. -/
def drainFuel : Nat → List β → Drained α β ε
  | 0, buf => ⟨[], buf, none⟩
  | fuel + 1, buf => match F.decode buf with
    | .error e => ⟨[], buf, some e⟩
    | .ok none => ⟨[], buf, none⟩
    | .ok (some (a, consumed)) =>
        let r := drainFuel fuel (buf.drop consumed)
        { r with packets := a :: r.packets }

/-- The decoder takes frames off the front of its buffer until there is no complete one. -/
def drain (buf : List β) : Drained α β ε := F.drainFuel (buf.length + 1) buf

/-- The decoder is fed chunk by chunk, and drained after each. It stops at an error. -/
def receive : List β → List (List β) → Drained α β ε
  | buf, [] => ⟨[], buf, none⟩
  | buf, chunk :: chunks =>
      let r := F.drain (buf ++ chunk)
      match r.error with
      | some _ => r
      | none =>
          let r' := receive r.buf chunks
          { r' with packets := r.packets ++ r'.packets }

/-- The stream of several values. -/
def stream (as : List α) : List β := (as.map F.frame).flatten

/-- The number of frames that are complete in the first `n` symbols of the stream. -/
def complete : List α → Nat → Nat
  | [], _ => 0
  | a :: as, n =>
      if (F.frame a).length ≤ n then complete as (n - (F.frame a).length) + 1 else 0

/-- The decoder reads back the frames of valid values, waits for the rest of a frame, and consumes
what it has read. -/
structure Sound (Valid : α → Prop) : Prop where
  nonempty : ∀ a, Valid a → 0 < (F.frame a).length
  whole : ∀ a, Valid a → ∀ t, F.decode (F.frame a ++ t) = .ok (some (a, (F.frame a).length))
  part : ∀ a, Valid a → ∀ buf, buf <+: F.frame a → buf.length < (F.frame a).length →
    F.decode buf = .ok none
  empty : F.decode [] = .ok none
  consumed : ∀ buf a n, F.decode buf = .ok (some (a, n)) →
    n = (F.frame a).length ∧ 0 < n ∧ n ≤ buf.length

/-! ## The number of complete frames -/

@[simp] theorem stream_nil : F.stream [] = [] := rfl

@[simp] theorem stream_cons (a : α) (as : List α) :
    F.stream (a :: as) = F.frame a ++ F.stream as := rfl

theorem stream_append (as bs : List α) : F.stream (as ++ bs) = F.stream as ++ F.stream bs := by
  unfold stream
  rw [List.map_append, List.flatten_append]

/-- The complete frames have arrived. -/
theorem length_stream_take_le (as : List α) (n : Nat) :
    (F.stream (as.take (F.complete as n))).length ≤ n := by
  induction as generalizing n with
  | nil => exact Nat.zero_le _
  | cons a as ih =>
      unfold complete
      split_ifs with hle
      · rw [List.take_succ_cons, stream_cons, List.length_append]
        have hrest := ih (n - (F.frame a).length)
        omega
      · exact Nat.zero_le _

/-- The next frame has not arrived completely. -/
theorem lt_length_stream_take (as : List α) (n : Nat) (h : F.complete as n < as.length) :
    n < (F.stream (as.take (F.complete as n + 1))).length := by
  induction as generalizing n with
  | nil => exact absurd h (Nat.lt_irrefl 0)
  | cons a as ih =>
      unfold complete at h ⊢
      by_cases hle : (F.frame a).length ≤ n
      · rw [if_pos hle] at h ⊢
        have hrest := ih (n - (F.frame a).length) (Nat.lt_of_succ_lt_succ h)
        rw [List.take_succ_cons, stream_cons, List.length_append]
        omega
      · rw [if_neg hle, List.take_succ_cons, stream_cons, List.length_append]
        omega

theorem complete_stream (as : List α) : F.complete as (F.stream as).length = as.length := by
  induction as with
  | nil => rfl
  | cons a as ih =>
      unfold complete
      rw [stream_cons, List.length_append, if_pos (Nat.le_add_right _ _), Nat.add_sub_cancel_left,
        ih, List.length_cons]

/-- The frames complete in `n + m` symbols are those complete in `n` and, of the rest of the stream,
those complete in what is left of the `n` symbols and the next `m`. -/
theorem complete_add (as : List α) (n m : Nat) : F.complete as (n + m) =
    F.complete as n + F.complete (as.drop (F.complete as n))
      (n - (F.stream (as.take (F.complete as n))).length + m) := by
  induction as generalizing n with
  | nil => rfl
  | cons a as ih =>
      by_cases hle : (F.frame a).length ≤ n
      · have hn : F.complete (a :: as) n = F.complete as (n - (F.frame a).length) + 1 := by
          rw [complete, if_pos hle]
        have hnm : F.complete (a :: as) (n + m) =
            F.complete as (n - (F.frame a).length + m) + 1 := by
          rw [complete, if_pos (le_trans hle (Nat.le_add_right n m))]
          congr 2
          omega
        have hleft : n - (F.stream (a :: as.take (F.complete as (n - (F.frame a).length)))).length =
            n - (F.frame a).length -
              (F.stream (as.take (F.complete as (n - (F.frame a).length)))).length := by
          rw [stream_cons, List.length_append, Nat.sub_add_eq]
        rw [hn, hnm, List.drop_succ_cons, List.take_succ_cons, hleft, ih]
        omega
      · have hn : F.complete (a :: as) n = 0 := by
          rw [complete, if_neg hle]
        simp [hn]

/-! ## Draining a buffer -/

variable {F} {Valid : α → Prop}

/-- The frames handed on were in the buffer. -/
theorem Sound.length_drain (hF : F.Sound Valid) (buf : List β) :
    (F.stream (F.drain buf).packets).length + (F.drain buf).buf.length = buf.length := by
  have hfuel : ∀ fuel buf, (F.stream (F.drainFuel fuel buf).packets).length +
      (F.drainFuel fuel buf).buf.length = buf.length := by
    intro fuel
    induction fuel with
    | zero => exact fun buf => Nat.zero_add _
    | succ fuel ih =>
        intro buf
        unfold drainFuel
        cases hdec : F.decode buf with
        | error e => exact Nat.zero_add _
        | ok r => cases r with
            | none => exact Nat.zero_add _
            | some r =>
                obtain ⟨a, n⟩ := r
                obtain ⟨hn, -, hle⟩ := hF.consumed buf a n hdec
                have hrest := ih (buf.drop n)
                simp only [stream_cons, List.length_append, List.length_drop] at hrest ⊢
                omega
  exact hfuel _ buf

/-- From the beginning of a stream of valid values the decoder takes the complete frames. -/
theorem Sound.drain_prefix (hF : F.Sound Valid) {as : List α} (has : ∀ a ∈ as, Valid a)
    {buf : List β} (h : buf <+: F.stream as) :
    F.drain buf = ⟨as.take (F.complete as buf.length),
      buf.drop (F.stream (as.take (F.complete as buf.length))).length, none⟩ := by
  have hfuel : ∀ fuel, ∀ as : List α, (∀ a ∈ as, Valid a) → ∀ buf : List β, buf.length < fuel →
      buf <+: F.stream as → F.drainFuel fuel buf = ⟨as.take (F.complete as buf.length),
        buf.drop (F.stream (as.take (F.complete as buf.length))).length, none⟩ := by
    intro fuel
    induction fuel with
    | zero => exact fun _ _ buf h => absurd h (Nat.not_lt_zero _)
    | succ fuel ih =>
        intro as has buf hlt hpre
        unfold drainFuel
        cases as with
        | nil =>
            obtain rfl : buf = [] := List.prefix_nil.1 hpre
            rw [hF.empty]
            rfl
        | cons a as =>
            have ha := has a List.mem_cons_self
            by_cases hle : (F.frame a).length ≤ buf.length
            · -- the first frame is complete
              obtain ⟨rest, rfl⟩ : F.frame a <+: buf :=
                List.prefix_of_prefix_length_le (List.prefix_append _ _) hpre hle
              have hrest : rest <+: F.stream as := (List.prefix_append_right_inj _).1 hpre
              have hpos := hF.nonempty a ha
              rw [List.length_append] at hlt
              have hcomplete : F.complete (a :: as) (F.frame a ++ rest).length =
                  F.complete as rest.length + 1 := by
                rw [complete, if_pos hle, List.length_append, Nat.add_sub_cancel_left]
              rw [hF.whole a ha, hcomplete]
              simp only [List.drop_left, List.take_succ_cons, stream_cons, List.length_append,
                List.drop_length_add_append]
              rw [ih as (fun b hb => has b (List.mem_cons_of_mem _ hb)) rest (by omega) hrest]
            · have hpart : buf <+: F.frame a :=
                List.prefix_of_prefix_length_le hpre (List.prefix_append _ _)
                  (Nat.le_of_lt (Nat.lt_of_not_le hle))
              have hcomplete : F.complete (a :: as) buf.length = 0 := by
                rw [complete, if_neg hle]
              rw [hF.part a ha buf hpart (Nat.lt_of_not_le hle), hcomplete]
              rfl
  exact hfuel _ as has buf (Nat.lt_succ_self _) h

/-! ## Receiving a stream in chunks -/

/-- The chunks that continue a stream whose first frame has not arrived completely. -/
theorem Sound.receive_prefix (hF : F.Sound Valid) {as : List α} (has : ∀ a ∈ as, Valid a)
    {buf : List β} {chunks : List (List β)} (h : buf ++ chunks.flatten <+: F.stream as)
    (hnone : F.complete as buf.length = 0) :
    F.receive buf chunks = ⟨as.take (F.complete as (buf ++ chunks.flatten).length),
      (buf ++ chunks.flatten).drop
        (F.stream (as.take (F.complete as (buf ++ chunks.flatten).length))).length, none⟩ := by
  induction chunks generalizing buf as with
  | nil =>
      simp only [List.flatten_nil, List.append_nil, hnone, List.take_zero, stream_nil,
        List.length_nil, List.drop_zero]
      rfl
  | cons chunk chunks ih =>
      rw [List.flatten_cons, ← List.append_assoc] at h ⊢
      have hfirst : buf ++ chunk <+: F.stream as := (List.prefix_append _ _).trans h
      have hdrain := hF.drain_prefix has hfirst
      have hlen := F.length_stream_take_le as (buf ++ chunk).length
      have hadd := F.complete_add as (buf ++ chunk).length
      generalize hk : F.complete as (buf ++ chunk).length = k at hdrain hlen hadd
      have hsplit : F.stream as = F.stream (as.take k) ++ F.stream (as.drop k) := by
        rw [← stream_append, List.take_append_drop]
      -- what has arrived is the complete frames and what the decoder keeps
      obtain ⟨kept, hkept⟩ : F.stream (as.take k) <+: buf ++ chunk :=
        List.prefix_of_prefix_length_le (hsplit ▸ List.prefix_append _ _) hfirst hlen
      have hkeptLen : (buf ++ chunk).length - (F.stream (as.take k)).length = kept.length := by
        rw [← hkept, List.length_append, Nat.add_sub_cancel_left]
      rw [hkeptLen] at hadd
      rw [← hkept, List.drop_left] at hdrain
      rw [← hkept, hsplit, List.append_assoc, List.prefix_append_right_inj] at h
      have hrest := ih (fun a ha => has a (List.mem_of_mem_drop ha)) h (by
        have hzero := hadd 0
        rw [Nat.add_zero, Nat.add_zero, hk] at hzero
        omega)
      have htotal : F.complete as (buf ++ chunk ++ chunks.flatten).length =
          k + F.complete (as.drop k) (kept ++ chunks.flatten).length := by
        simpa only [List.length_append] using hadd chunks.flatten.length
      have hdrop : (buf ++ chunk ++ chunks.flatten).drop (F.stream (as.take
          (k + F.complete (as.drop k) (kept ++ chunks.flatten).length))).length =
          (kept ++ chunks.flatten).drop (F.stream ((as.drop k).take
            (F.complete (as.drop k) (kept ++ chunks.flatten).length))).length := by
        rw [List.take_add, stream_append, List.length_append, ← hkept, List.append_assoc,
          ← List.drop_drop, List.drop_left]
      unfold receive
      rw [← hkept, hdrain]
      simp only [hrest]
      rw [hkept, htotal, hdrop, List.take_add]

/-- From the beginning of a stream of valid values a decoder hands on the frames that have arrived
completely, however what has arrived was cut into chunks. -/
theorem Sound.receive_stream (hF : F.Sound Valid) {as : List α} (has : ∀ a ∈ as, Valid a)
    {chunks : List (List β)} (h : chunks.flatten <+: F.stream as) :
    F.receive [] chunks = ⟨as.take (F.complete as chunks.flatten.length),
      chunks.flatten.drop (F.stream (as.take (F.complete as chunks.flatten.length))).length,
      none⟩ := by
  refine hF.receive_prefix has h ?_
  cases as with
  | nil => rfl
  | cons a as =>
      have hpos := hF.nonempty a (has a List.mem_cons_self)
      rw [complete, if_neg (by simp only [List.length_nil]; omega)]

/-- A whole stream: all values are handed on and nothing is kept. -/
theorem Sound.receive_all (hF : F.Sound Valid) {as : List α} (has : ∀ a ∈ as, Valid a)
    {chunks : List (List β)} (h : chunks.flatten = F.stream as) :
    F.receive [] chunks = ⟨as, [], none⟩ := by
  rw [hF.receive_stream has (h ▸ List.prefix_refl _), h, F.complete_stream, List.take_length,
    List.drop_length]

/-! ## Arbitrary streams -/

variable (F)

/-- What a decoder has found at the front of a buffer does not depend on what follows. -/
structure Stable : Prop where
  error : ∀ buf e, F.decode buf = .error e → ∀ t, F.decode (buf ++ t) = .error e
  frame : ∀ buf a n, F.decode buf = .ok (some (a, n)) →
    0 < n ∧ n ≤ buf.length ∧ ∀ t, F.decode (buf ++ t) = .ok (some (a, n))

variable {F}

/-- Fuel beyond the length of the buffer changes nothing. -/
theorem Stable.drainFuel_eq (hF : F.Stable) {fuel : Nat} {buf : List β} (h : buf.length < fuel) :
    F.drainFuel fuel buf = F.drain buf := by
  have hsame : ∀ fuel fuel' (buf : List β), buf.length < fuel → buf.length < fuel' →
      F.drainFuel fuel buf = F.drainFuel fuel' buf := by
    intro fuel
    induction fuel with
    | zero => exact fun _ _ h => absurd h (Nat.not_lt_zero _)
    | succ fuel ih =>
        intro fuel' buf h h'
        cases fuel' with
        | zero => exact absurd h' (Nat.not_lt_zero _)
        | succ fuel' =>
            unfold drainFuel
            cases hdec : F.decode buf with
            | error e => rfl
            | ok r => cases r with
                | none => rfl
                | some r =>
                    obtain ⟨a, n⟩ := r
                    obtain ⟨hpos, hle, -⟩ := hF.frame buf a n hdec
                    have hdrop : (buf.drop n).length = buf.length - n := List.length_drop
                    simp only
                    rw [ih fuel' (buf.drop n) (by omega) (by omega)]
  exact hsame _ _ buf h (Nat.lt_succ_self _)

theorem drain_of_error {buf : List β} {e : ε} (h : F.decode buf = .error e) :
    F.drain buf = ⟨[], buf, some e⟩ := by
  unfold drain drainFuel
  rw [h]

theorem drain_of_none {buf : List β} (h : F.decode buf = .ok none) :
    F.drain buf = ⟨[], buf, none⟩ := by
  unfold drain drainFuel
  rw [h]

theorem Stable.drain_of_some (hF : F.Stable) {buf : List β} {a : α} {n : Nat}
    (h : F.decode buf = .ok (some (a, n))) :
    F.drain buf = { F.drain (buf.drop n) with packets := a :: (F.drain (buf.drop n)).packets } := by
  obtain ⟨hpos, hle, -⟩ := hF.frame buf a n h
  have hfuel : F.drainFuel buf.length (buf.drop n) = F.drain (buf.drop n) := by
    apply hF.drainFuel_eq
    rw [List.length_drop]
    omega
  rw [drain, drainFuel, h]
  simp only [hfuel]

/-- A decoder that stops without an error has no complete frame left. -/
theorem Stable.decode_drain (hF : F.Stable) {buf : List β} (h : (F.drain buf).error = none) :
    F.decode (F.drain buf).buf = .ok none := by
  induction hlen : buf.length using Nat.strong_induction_on generalizing buf with
  | _ len ih =>
      cases hdec : F.decode buf with
      | error e =>
          rw [drain_of_error hdec] at h
          cases h
      | ok r => cases r with
          | none =>
              rw [drain_of_none hdec]
              exact hdec
          | some r =>
              obtain ⟨a, n⟩ := r
              obtain ⟨hpos, hle, -⟩ := hF.frame buf a n hdec
              rw [hF.drain_of_some hdec] at h ⊢
              exact ih (buf.drop n).length (by rw [List.length_drop]; omega) h rfl

/-- Where every frame that is found stands at the front of the buffer, the decoder splits what it has
got into the frames handed on and the rest. -/
theorem Stable.stream_drain (hF : F.Stable)
    (hfront : ∀ buf a n, F.decode buf = .ok (some (a, n)) →
      Valid a ∧ n = (F.frame a).length ∧ F.frame a <+: buf) (buf : List β) :
    F.stream (F.drain buf).packets ++ (F.drain buf).buf = buf ∧
      ∀ a ∈ (F.drain buf).packets, Valid a := by
  induction hlen : buf.length using Nat.strong_induction_on generalizing buf with
  | _ len ih =>
      cases hdec : F.decode buf with
      | error e =>
          rw [drain_of_error hdec]
          exact ⟨rfl, fun a h => absurd h List.not_mem_nil⟩
      | ok r => cases r with
          | none =>
              rw [drain_of_none hdec]
              exact ⟨rfl, fun a h => absurd h List.not_mem_nil⟩
          | some r =>
              obtain ⟨a, n⟩ := r
              obtain ⟨hpos, hle, -⟩ := hF.frame buf a n hdec
              obtain ⟨ha, hn, rest, hrest⟩ := hfront buf a n hdec
              obtain ⟨hsplit, hvalid⟩ :=
                ih (buf.drop n).length (by rw [List.length_drop]; omega) (buf.drop n) rfl
              have hdrop : buf.drop n = rest := by
                rw [← hrest, hn, List.drop_left]
              rw [hF.drain_of_some hdec]
              simp only [stream_cons, List.append_assoc, hsplit, List.forall_mem_cons]
              exact ⟨by rw [hdrop, hrest], ha, hvalid⟩

/-- The symbols that arrive later are decoded behind what the earlier ones have left. -/
theorem Stable.drain_append (hF : F.Stable) (buf t : List β) :
    F.drain (buf ++ t) =
      (F.drain buf).followedBy t (F.drain ((F.drain buf).buf ++ t)) := by
  -- the buffer gets shorter with every frame
  induction hlen : buf.length using Nat.strong_induction_on generalizing buf with
  | _ len ih =>
      cases hdec : F.decode buf with
      | error e =>
          rw [drain_of_error hdec, drain_of_error (hF.error buf e hdec t)]
          rfl
      | ok r => cases r with
          | none =>
              rw [drain_of_none hdec]
              rfl
          | some r =>
              obtain ⟨a, n⟩ := r
              obtain ⟨hpos, hle, hmore⟩ := hF.frame buf a n hdec
              have hrest := ih (buf.drop n).length (by rw [List.length_drop]; omega) (buf.drop n) rfl
              have hdrop : (buf ++ t).drop n = buf.drop n ++ t := List.drop_append_of_le_length hle
              rw [hF.drain_of_some hdec, hF.drain_of_some (hmore t), hdrop, hrest]
              unfold Drained.followedBy
              cases (F.drain (buf.drop n)).error with
              | some e => rfl
              | none => rfl

/-- A decoder that has nothing to hand on when the chunks begin to arrive hands on the frames of the
whole stream, and stops at the same error, whatever the chunks; without an error it also keeps the
same rest. -/
theorem Stable.receive_eq_drain (hF : F.Stable) {buf : List β} (hbuf : F.decode buf = .ok none)
    (chunks : List (List β)) :
    (F.receive buf chunks).packets = (F.drain (buf ++ chunks.flatten)).packets ∧
      (F.receive buf chunks).error = (F.drain (buf ++ chunks.flatten)).error ∧
      ((F.receive buf chunks).error = none →
        (F.receive buf chunks).buf = (F.drain (buf ++ chunks.flatten)).buf ∧
          F.decode (F.receive buf chunks).buf = .ok none) := by
  induction chunks generalizing buf with
  | nil =>
      rw [List.flatten_nil, List.append_nil, drain_of_none hbuf]
      exact ⟨rfl, rfl, fun _ => ⟨rfl, hbuf⟩⟩
  | cons chunk chunks ih =>
      have hsplit := hF.drain_append (buf ++ chunk) chunks.flatten
      rw [List.append_assoc] at hsplit
      rw [List.flatten_cons, hsplit]
      unfold receive
      cases herror : (F.drain (buf ++ chunk)).error with
      | some e =>
          simp only [Drained.followedBy, herror]
          exact ⟨trivial, trivial, fun h => absurd h (Option.some_ne_none e)⟩
      | none =>
          have hnone := hF.decode_drain herror
          obtain ⟨hpackets, herror', hrest⟩ := ih hnone
          simp only [Drained.followedBy, herror]
          exact ⟨by rw [hpackets], herror', hrest⟩

end Framing

end Aivpn.Lib
