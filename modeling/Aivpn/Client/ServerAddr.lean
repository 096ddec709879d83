import Aivpn.Server.ConnectionAddr

/-!
# The server address in the Android clients

`parseServerAddr` takes the address of a connection key apart without a grammar: a host in brackets
goes up to the first closing one, and every other host up to the last colon.

So it finds the host and the port of every name and of every literal that the server may have been
given, also where the key holds a bare IPv6 address with a port behind it, which is no socket
address. A scope in brackets stays with the host (`parseServerAddr_connectionAddr`).
-/

set_option autoImplicit false

namespace Aivpn

open Aivpn.Lib AddrParser

/-! ## Kotlin's strings -/

namespace Kotlin

/-- `lastIndexOf`. -/
def lastIndexOf (target : Char) (s : Text) : Option Nat :=
  (s.reverse.idxOf? target).map fun i => s.length - 1 - i

/-- The value of decimal digits, if there are some and nothing else. -/
def digitsToNat (s : Text) : Option Nat :=
  let read := readDigits 10 s
  if read.1 ≠ [] ∧ read.2 = [] then some (digitsValue 10 read.1) else none

/-- `toIntOrNull`, for the digits of ASCII. -/
def toIntOrNull : Text → Option Int
  | '-' :: s => (digitsToNat s).bind fun n => if n ≤ 2 ^ 31 then some (-(n : Int)) else none
  | '+' :: s => (digitsToNat s).bind fun n => if n < 2 ^ 31 then some (n : Int) else none
  | s => (digitsToNat s).bind fun n => if n < 2 ^ 31 then some (n : Int) else none

end Kotlin

open Kotlin

/-- `parseServerAddr`. -/
def parseServerAddr (serverAddr : Text) : Text × Int :=
  let bracket := if serverAddr.head? = some '[' then serverAddr.idxOf? ']' else none
  match bracket with
  | some bracket =>
      let host := (serverAddr.take bracket).drop 1
      let port := if serverAddr[bracket + 1]? = some ':' then
        (toIntOrNull (serverAddr.drop (bracket + 2))).getD 443 else 443
      (host, port)
  | none =>
      let lastColon := lastIndexOf ':' serverAddr
      let port := lastColon.bind fun i => toIntOrNull (serverAddr.drop (i + 1))
      match lastColon, port with
      | some i, some port => (serverAddr.take i, port)
      | _, _ => (serverAddr, 443)

/-! ## A host and a port -/

theorem idxOf?_append {target : Char} {s : Text} (h : target ∉ s) (rest : Text) :
    (s ++ target :: rest).idxOf? target = some s.length := by
  induction s with
  | nil => simp [List.idxOf?_cons]
  | cons c s ih =>
      obtain ⟨hc, hs⟩ := not_or.1 (mt List.mem_cons.2 h)
      rw [List.cons_append, List.idxOf?_cons, beq_false_of_ne (Ne.symm hc), ih hs]
      rfl

section

variable {host digits : Text} {port : Nat}

/-- The digits denote a port, with leading zeros or without. -/
def IsPort (digits : Text) (port : Nat) : Prop :=
  readNumber 10 none true 65536 digits = some (port, [])

theorem isPort_decimal (port : UInt16) : IsPort (decimal port.toNat) port.toNat :=
  readNumber_decimal port.toNat_lt

/-- What is read as digits starts with one and is a digit throughout. -/
theorem toDigit_of_mem_readDigits {s : Text} (h : (readDigits 10 s).2 = []) :
    ∀ c ∈ s, (toDigit 10 c).isSome := by
  induction s with
  | nil => exact fun c hc => absurd hc List.not_mem_nil
  | cons d s ih =>
      simp only [readDigits] at h
      cases hd : toDigit 10 d with
      | none =>
          rw [hd] at h
          cases h
      | some n =>
          rw [hd] at h
          apply List.forall_mem_cons.2 ⟨by rw [hd]; rfl, ih h⟩

theorem IsPort.lt_and_digits (h : IsPort digits port) :
    port < 65536 ∧ digitsToNat digits = some port ∧ ∀ c ∈ digits, (toDigit 10 c).isSome := by
  unfold IsPort readNumber at h
  simp only [Option.any_none, Bool.false_eq_true, if_false, Bool.true_eq_false, false_and] at h
  split_ifs at h with hne hlt
  obtain ⟨hvalue, hrest⟩ := Prod.mk.inj (Option.some.inj h)
  refine ⟨by rwa [hvalue] at hlt, ?_, toDigit_of_mem_readDigits hrest⟩
  unfold digitsToNat
  simp only
  rw [if_pos ⟨hne, hrest⟩, hvalue]

theorem IsPort.toIntOrNull (h : IsPort digits port) : toIntOrNull digits = some (port : Int) := by
  obtain ⟨hlt, hvalue, hdigits⟩ := h.lt_and_digits
  have hrange : port < 2 ^ 31 := by omega
  unfold Kotlin.toIntOrNull
  split
  · cases hdigits '-' List.mem_cons_self
  · cases hdigits '+' List.mem_cons_self
  · rw [hvalue, Option.bind_some, if_pos hrange]

theorem IsPort.colon_not_mem (h : IsPort digits port) : ':' ∉ digits := by
  intro hmem
  cases h.lt_and_digits.2.2 ':' hmem

theorem lastIndexOf_append (hdigits : ':' ∉ digits) (host : Text) :
    lastIndexOf ':' (host ++ ':' :: digits) = some host.length := by
  have hindex : (host ++ ':' :: digits).reverse.idxOf? ':' = some digits.length := by
    have hreverse : (host ++ ':' :: digits).reverse = digits.reverse ++ ':' :: host.reverse := by
      rw [List.reverse_append, List.reverse_cons, List.append_assoc, List.singleton_append]
    have hmem : ':' ∉ digits.reverse := fun h => hdigits (List.mem_reverse.1 h)
    rw [hreverse, idxOf?_append hmem, List.length_reverse]
  unfold lastIndexOf
  rw [hindex, Option.map_some, List.length_append, List.length_cons]
  congr 1
  omega

/-- A host without a bracket goes up to the last colon. -/
theorem parseServerAddr_bare (h : IsPort digits port) (hbracket : host.head? ≠ some '[') :
    parseServerAddr (host ++ ':' :: digits) = (host, (port : Int)) := by
  have hhead : (host ++ ':' :: digits).head? ≠ some '[' := by
    cases host with
    | nil => exact fun heq => by cases heq
    | cons c host => exact hbracket
  have hdrop : (host ++ ':' :: digits).drop (host.length + 1) = digits := by
    rw [List.drop_append, Nat.add_sub_cancel_left, List.drop_of_length_le (Nat.le_succ _)]
    rfl
  unfold parseServerAddr
  simp only [if_neg hhead, lastIndexOf_append h.colon_not_mem, Option.bind_some, hdrop,
    h.toIntOrNull, List.take_left]

/-- A host in brackets goes up to the closing one. -/
theorem parseServerAddr_bracket (h : IsPort digits port) (hhost : ']' ∉ host) :
    parseServerAddr ('[' :: host ++ ']' :: ':' :: digits) = (host, (port : Int)) := by
  have hindex : ('[' :: host ++ ']' :: ':' :: digits).idxOf? ']' = some (host.length + 1) := by
    have hmem : ']' ∉ '[' :: host := fun hmem =>
      (List.mem_cons.1 hmem).elim (fun heq => by cases heq) hhost
    exact idxOf?_append hmem _
  have hcolon : ('[' :: host ++ ']' :: ':' :: digits)[host.length + 1 + 1]? = some ':' := by
    rw [List.getElem?_append_right (by rw [List.length_cons]; omega), List.length_cons]
    simp
  have hdrop : ('[' :: host ++ ']' :: ':' :: digits).drop (host.length + 1 + 2) = digits := by
    rw [List.drop_append, List.length_cons, Nat.add_sub_cancel_left,
      List.drop_of_length_le (by rw [List.length_cons]; omega)]
    rfl
  have htake : (('[' :: host ++ ']' :: ':' :: digits).take (host.length + 1)).drop 1 = host := by
    rw [List.take_left' (List.length_cons)]
    rfl
  have hhead : ('[' :: host ++ ']' :: ':' :: digits).head? = some '[' := rfl
  unfold parseServerAddr
  simp only [if_pos hhead, hindex, htake, hcolon, if_true, hdrop, h.toIntOrNull, Option.getD_some]

end

/-! ## What the address parser takes -/

namespace AddrParser

/-- What the reader takes off the front consists of such characters. -/
def Takes {α : Type} (ok : Char → Prop) (inner : Text → Option (α × Text)) : Prop :=
  ∀ s a rest, inner s = some (a, rest) → ∃ pre, s = pre ++ rest ∧ ∀ c ∈ pre, ok c

/-- A character of an address, without brackets and scope. -/
def AddrChar (c : Char) : Prop := c ≠ '[' ∧ c ≠ ']' ∧ c ≠ '%'

/-- Behind such a text an address ends. -/
structure Ends (rest : Text) : Prop where
  dot : rest.head? ≠ some '.'
  colon : rest.head? ≠ some ':'
  digit : rest.head?.bind (toDigit 10) = none
  hexDigit : rest.head?.bind (toDigit 16) = none

section

variable {radix : Nat} {rest s : Text} {ok : Char → Prop}

theorem addrChar_of_toDigit (hradix : radix = 10 ∨ radix = 16) {c : Char}
    (h : (toDigit radix c).isSome) : AddrChar c := by
  rcases hradix with rfl | rfl
  all_goals
    refine ⟨?_, ?_, ?_⟩ <;>
      · rintro rfl
        cases h

theorem readGivenChar_eq_some {target : Char} (h : readGivenChar target s = some rest) :
    s = target :: rest := by
  cases s with
  | nil => cases h
  | cons c s =>
      simp only [readGivenChar] at h
      split_ifs at h with hc
      rw [hc, Option.some.inj h]

theorem readDigits_takes (hok : ∀ c, (toDigit radix c).isSome → ok c) (s : Text) :
    ∃ pre, s = pre ++ (readDigits radix s).2 ∧ ∀ c ∈ pre, ok c := by
  induction s with
  | nil => exact ⟨[], rfl, fun c hc => absurd hc List.not_mem_nil⟩
  | cons c s ih =>
      simp only [readDigits]
      cases hc : toDigit radix c with
      | none => exact ⟨[], rfl, fun c hc => absurd hc List.not_mem_nil⟩
      | some d =>
          obtain ⟨pre, hpre, hchars⟩ := ih
          refine ⟨c :: pre, ?_, List.forall_mem_cons.2 ⟨hok c (by rw [hc]; rfl), hchars⟩⟩
          rw [List.cons_append, ← hpre]

theorem takes_readNumber (hok : ∀ c, (toDigit radix c).isSome → ok c) (maxDigits : Option Nat)
    (allowZeroPrefix : Bool) (limit : Nat) :
    Takes ok (readNumber radix maxDigits allowZeroPrefix limit) := by
  intro s n rest h
  unfold readNumber at h
  simp only at h
  split_ifs at h
  rw [← (Prod.mk.inj (Option.some.inj h)).2]
  exact readDigits_takes hok s

theorem takes_readSeparator {α : Type} {sep : Char} {inner : Text → Option (α × Text)}
    (hsep : ok sep) (hinner : Takes ok inner) (first : Bool) :
    Takes ok (readSeparator sep first inner) := by
  intro s a rest h
  unfold readSeparator at h
  split_ifs at h
  · exact hinner s a rest h
  · obtain ⟨t, hgiven, hread⟩ := Option.bind_eq_some_iff.1 h
    obtain ⟨pre, rfl, hchars⟩ := hinner t a rest hread
    exact ⟨sep :: pre, readGivenChar_eq_some hgiven, List.forall_mem_cons.2 ⟨hsep, hchars⟩⟩

theorem takes_readIpv4Addr : Takes (fun c => AddrChar c ∧ c ≠ ':') readIpv4Addr := by
  have hdigit (c : Char) (hc : (toDigit 10 c).isSome) : AddrChar c ∧ c ≠ ':' := by
    refine ⟨addrChar_of_toDigit (Or.inl rfl) hc, ?_⟩
    rintro rfl
    cases hc
  have hpart (first : Bool) :
      Takes (fun c => AddrChar c ∧ c ≠ ':') (readSeparator '.' first readOctet) := by
    apply takes_readSeparator (by unfold AddrChar; decide)
    exact takes_readNumber hdigit _ _ _
  intro s ip rest h
  unfold readIpv4Addr at h
  simp only [Option.bind_eq_bind, Option.bind_eq_some_iff, Option.some.injEq, Prod.mk.injEq] at h
  obtain ⟨a, ha, b, hb, c, hc, d, hd, -, rfl⟩ := h
  obtain ⟨pa, rfl, hpa⟩ := hpart _ _ _ _ ha
  obtain ⟨pb, hb', hpb⟩ := hpart _ _ _ _ hb
  obtain ⟨pc, hc', hpc⟩ := hpart _ _ _ _ hc
  obtain ⟨pd, hd', hpd⟩ := hpart _ _ _ _ hd
  refine ⟨pa ++ (pb ++ (pc ++ pd)), ?_, ?_⟩
  · rw [hb', hc', hd']
    simp only [List.append_assoc]
  · simp only [List.forall_mem_append]
    exact ⟨hpa, hpb, hpc, hpd⟩

theorem readGroups_takes (slots : Nat) (first : Bool) (s : Text) :
    ∃ pre, s = pre ++ (readGroups slots first s).2.2 ∧ ∀ c ∈ pre, AddrChar c := by
  have hnone (s : Text) : ∃ pre, s = pre ++ s ∧ ∀ c ∈ pre, AddrChar c :=
    ⟨[], rfl, fun c hc => absurd hc List.not_mem_nil⟩
  have hv4 (first : Bool) : Takes AddrChar (readSeparator ':' first readIpv4Addr) := by
    apply takes_readSeparator (by unfold AddrChar; decide)
    intro s ip rest h
    obtain ⟨pre, hpre, hchars⟩ := takes_readIpv4Addr s ip rest h
    exact ⟨pre, hpre, fun c hc => (hchars c hc).1⟩
  have hgroup (first : Bool) :
      Takes AddrChar (readSeparator ':' first (readNumber 16 (some 4) true 65536)) := by
    apply takes_readSeparator (by unfold AddrChar; decide)
    exact takes_readNumber (fun c => addrChar_of_toDigit (Or.inr rfl)) _ _ _
  induction slots generalizing first s with
  | zero => exact hnone s
  | succ slots ih =>
      unfold readGroups
      split
      · rename_i ip rest hread
        split_ifs at hread
        exact hv4 first s ip rest hread
      · split
        · rename_i g rest hread
          obtain ⟨pre, rfl, hpre⟩ := hgroup first s g rest hread
          obtain ⟨pre', hrest, hpre'⟩ := ih false rest
          refine ⟨pre ++ pre', ?_, List.forall_mem_append.2 ⟨hpre, hpre'⟩⟩
          rw [List.append_assoc]
          exact congrArg (pre ++ ·) hrest
        · exact hnone s

theorem takes_readIpv6Addr : Takes AddrChar readIpv6Addr := by
  intro s ip rest h
  obtain ⟨pre, hpre, hchars⟩ := readGroups_takes 8 true s
  unfold readIpv6Addr at h
  simp only at h
  split_ifs at h
  · rw [(Prod.mk.inj (Option.some.inj h)).2] at hpre
    exact ⟨pre, hpre, hchars⟩
  · simp only [Option.bind_eq_bind, Option.bind_eq_some_iff, Option.some.injEq, Prod.mk.injEq] at h
    obtain ⟨colon, hcolon, behind, hbehind, -, hrest⟩ := h
    obtain ⟨pre', hpre', hchars'⟩ :=
      readGroups_takes (8 - ((readGroups 8 true s).1.length + 1)) true behind
    rw [hrest] at hpre'
    have hcolonChar : AddrChar ':' := by unfold AddrChar; decide
    refine ⟨pre ++ ':' :: ':' :: pre', ?_, ?_⟩
    · rw [hpre, readGivenChar_eq_some hcolon, readGivenChar_eq_some hbehind, hpre']
      simp only [List.append_assoc, List.cons_append]
    · apply List.forall_mem_append.2 ⟨hchars, _⟩
      exact List.forall_mem_cons.2 ⟨hcolonChar, List.forall_mem_cons.2 ⟨hcolonChar, hchars'⟩⟩

/-! ## Where an address ends -/

/-- The groups do not depend on what follows, if no address goes on with it. -/
theorem readGroups_append (h : Ends rest) (slots : Nat) (first : Bool) (s : Text) :
    readGroups slots first (s ++ rest) =
      ((readGroups slots first s).1, (readGroups slots first s).2.1,
        (readGroups slots first s).2.2 ++ rest) := by
  have hv4 (first : Bool) (s : Text) : readSeparator ':' first readIpv4Addr (s ++ rest) =
      (readSeparator ':' first readIpv4Addr s).map fun p => (p.1, p.2 ++ rest) :=
    readSeparator_append h.colon (readIpv4Addr_append h.dot h.digit) first s
  have hgroup (first : Bool) (s : Text) :
      readSeparator ':' first (readNumber 16 (some 4) true 65536) (s ++ rest) =
        (readSeparator ':' first (readNumber 16 (some 4) true 65536) s).map fun p =>
          (p.1, p.2 ++ rest) :=
    readSeparator_append h.colon (readNumber_append h.hexDigit (some 4) true 65536) first s
  induction slots generalizing first s with
  | zero => rfl
  | succ slots ih =>
      have hif : (if 0 < slots then readSeparator ':' first readIpv4Addr (s ++ rest) else none) =
          (if 0 < slots then readSeparator ':' first readIpv4Addr s else none).map fun p =>
            (p.1, p.2 ++ rest) := by
        split_ifs
        · exact hv4 first s
        · rfl
      simp only [readGroups]
      rw [hif]
      cases (if 0 < slots then readSeparator ':' first readIpv4Addr s else none) with
      | some p => rfl
      | none =>
          simp only [Option.map_none, hgroup]
          cases readSeparator ':' first (readNumber 16 (some 4) true 65536) s with
          | none => rfl
          | some p => simp only [Option.map_some, ih]

/-- An IPv6 address does not depend on what follows. -/
theorem readIpv6Addr_append (h : Ends rest) (s : Text) :
    readIpv6Addr (s ++ rest) = (readIpv6Addr s).map fun p => (p.1, p.2 ++ rest) := by
  unfold readIpv6Addr
  simp only [readGroups_append h]
  split_ifs with hfull hv4
  · rfl
  · rfl
  · rw [readGivenChar_append h.colon]
    cases readGivenChar ':' (readGroups 8 true s).2.2 with
    | none => rfl
    | some colon =>
        simp only [Option.map_some, Option.bind_eq_bind, Option.bind_some,
          readGivenChar_append h.colon]
        cases readGivenChar ':' colon with
        | none => rfl
        | some behind => simp only [Option.map_some, Option.bind_some, readGroups_append h]

/-- Text that starts with an IPv4 address starts with no IPv6 address. -/
theorem readIpv4Addr_of_readIpv6Addr {p : ByteArr 16 × Text} (h : readIpv6Addr s = some p) :
    readIpv4Addr s = none := by
  cases hv4 : readIpv4Addr s with
  | none => rfl
  | some q =>
      have hgroups : readGroups 8 true s =
          ([(q.1.a, q.1.b), (q.1.c, q.1.d)], true, q.2) := by
        have hread : readSeparator ':' true readIpv4Addr s = some q := hv4
        unfold readGroups
        rw [if_pos (by decide), hread]
      unfold readIpv6Addr at h
      simp only [hgroups] at h
      have hlength : ¬ [(q.1.a, q.1.b), (q.1.c, q.1.d)].length = 8 := fun heq => by cases heq
      rw [dif_neg hlength] at h
      cases h

theorem readPort_eq_some {port : UInt16} (h : readPort s = some (port, [])) :
    ∃ digits, s = ':' :: digits ∧ IsPort digits port.toNat := by
  unfold readPort at h
  simp only [Option.bind_eq_bind, Option.bind_eq_some_iff, Option.some.injEq, Prod.mk.injEq] at h
  obtain ⟨digits, hgiven, ⟨n, rest⟩, hread, hport, hrest⟩ := h
  simp only at hport hrest
  have hlt : n < 65536 := by
    unfold readNumber at hread
    simp only at hread
    split_ifs at hread with _ _ _ hlt
    rwa [(Prod.mk.inj (Option.some.inj hread)).1] at hlt
  refine ⟨digits, readGivenChar_eq_some hgiven, ?_⟩
  have hn : port.toNat = n := by
    rw [← hport, UInt16.toNat_ofNat', Nat.mod_eq_of_lt hlt]
  unfold IsPort
  rw [hread, hn, hrest]

/-- An address in front of text where it ends. -/
theorem parseIpAddr_v6 (h : Ends rest) {ip : ByteArr 16}
    (hread : readIpv6Addr (s ++ rest) = some (ip, rest)) : parseIpAddr s = some (.v6 ip) := by
  rw [readIpv6Addr_append h] at hread
  obtain ⟨p, hp, heq⟩ := Option.map_eq_some_iff.1 hread
  obtain ⟨hip, hrest⟩ := Prod.mk.inj heq
  have hwhole : p.2 = [] := List.append_cancel_right (hrest.trans (List.nil_append rest).symm)
  apply parseWith_eq_some_iff.2
  unfold readIpAddr
  rw [readIpv4Addr_of_readIpv6Addr hp, hp, Option.map_some, hip, hwhole]

theorem parseIpAddr_v4 (hdot : rest.head? ≠ some '.') (hdigit : rest.head?.bind (toDigit 10) = none)
    {ip : Ipv4Addr} (hread : readIpv4Addr (s ++ rest) = some (ip, rest)) :
    parseIpAddr s = some (.v4 ip) := by
  rw [readIpv4Addr_append hdot hdigit] at hread
  obtain ⟨p, hp, heq⟩ := Option.map_eq_some_iff.1 hread
  obtain ⟨hip, hrest⟩ := Prod.mk.inj heq
  have hwhole : p.2 = [] := List.append_cancel_right (hrest.trans (List.nil_append rest).symm)
  apply parseWith_eq_some_iff.2
  unfold readIpAddr
  rw [hp]
  show some (IpAddr.v4 p.1, p.2) = _
  rw [hip, hwhole]

/-- With a scope behind it, an address is none. -/
theorem parseIpAddr_scope {ip : IpAddr} (scope : Text) :
    parseIpAddr (s ++ '%' :: scope) ≠ some ip := by
  have hends : Ends ('%' :: scope) := ⟨by simp, by simp, rfl, rfl⟩
  intro h
  have hread := parseWith_eq_some_iff.1 h
  unfold readIpAddr at hread
  rw [readIpv4Addr_append hends.dot hends.digit, readIpv6Addr_append hends] at hread
  have hbehind (t : Text) : t ++ '%' :: scope ≠ [] :=
    List.append_ne_nil_of_right_ne_nil _ (List.cons_ne_nil _ _)
  cases hv4 : readIpv4Addr s with
  | some p =>
      rw [hv4] at hread
      exact hbehind p.2 (Prod.mk.inj (Option.some.inj hread)).2
  | none =>
      rw [hv4] at hread
      obtain ⟨q, hq, heq⟩ := Option.map_eq_some_iff.1 hread
      obtain ⟨p, -, rfl⟩ := Option.map_eq_some_iff.1 hq
      exact hbehind p.2 (Prod.mk.inj heq).2

/-- An address without a port has neither brackets nor a scope in it. -/
theorem addrChar_of_parseIpAddr {ip : IpAddr} (h : parseIpAddr s = some ip) :
    ∀ c ∈ s, AddrChar c := by
  have hread := parseWith_eq_some_iff.1 h
  unfold readIpAddr at hread
  cases hv4 : readIpv4Addr s with
  | some p =>
      rw [hv4] at hread
      obtain ⟨-, hrest⟩ := Prod.mk.inj (Option.some.inj hread)
      obtain ⟨pre, rfl, hchars⟩ := takes_readIpv4Addr s p.1 p.2 hv4
      rw [show p.2 = [] from hrest, List.append_nil]
      exact fun c hc => (hchars c hc).1
  | none =>
      rw [hv4] at hread
      obtain ⟨p, hp, heq⟩ := Option.map_eq_some_iff.1 hread
      obtain ⟨pre, rfl, hchars⟩ := takes_readIpv6Addr s p.1 p.2 hp
      rw [show p.2 = [] from (Prod.mk.inj heq).2, List.append_nil]
      exact hchars

end

/-- How a socket address is written: an IPv4 address and a port, or an IPv6 address in brackets,
perhaps with a scope, and a port. -/
inductive Written (s : Text) (addr : SocketAddr) : Prop where
  | bare (host digits : Text) (hs : s = host ++ ':' :: digits)
      (hhost : parseIpAddr host = some addr.ip) (hport : IsPort digits addr.port.toNat)
  | bracket (host digits : Text) (hs : s = '[' :: host ++ ']' :: ':' :: digits)
      (hhost : parseIpAddr host = some addr.ip) (hport : IsPort digits addr.port.toNat)
  | withScope (host scope digits : Text)
      (hs : s = '[' :: (host ++ '%' :: scope) ++ ']' :: ':' :: digits)
      (hhost : parseIpAddr host = some addr.ip) (hscope : ∀ c ∈ scope, AddrChar c)
      (hport : IsPort digits addr.port.toNat)

theorem written_of_parseSocketAddr {s : Text} {addr : SocketAddr}
    (h : parseSocketAddr s = some addr) : Written s addr := by
  have hread := parseWith_eq_some_iff.1 h
  unfold readSocketAddr at hread
  cases hv4 : readSocketAddrV4 s with
  | some p =>
      rw [hv4, Option.some_or] at hread
      obtain rfl := Option.some.inj hread
      unfold readSocketAddrV4 at hv4
      simp only [Option.bind_eq_bind, Option.bind_eq_some_iff, Option.some.injEq,
        Prod.mk.injEq] at hv4
      obtain ⟨⟨ip, rest⟩, hip, ⟨port, rest'⟩, hport, rfl, rfl⟩ := hv4
      obtain ⟨digits, rfl, hdigits⟩ := readPort_eq_some hport
      obtain ⟨host, rfl, -⟩ := takes_readIpv4Addr s ip _ hip
      exact .bare host digits rfl (parseIpAddr_v4 (by simp) rfl hip) hdigits
  | none =>
      rw [hv4, Option.none_or] at hread
      unfold readSocketAddrV6 at hread
      simp only [Option.bind_eq_bind, Option.bind_eq_some_iff, Option.some.injEq,
        Prod.mk.injEq] at hread
      obtain ⟨s₁, hopen, ⟨ip, s₂⟩, hip, s₃, hclose, ⟨port, rest⟩, hport, rfl, rfl⟩ := hread
      obtain ⟨digits, rfl, hdigits⟩ := readPort_eq_some hport
      obtain rfl := readGivenChar_eq_some hopen
      obtain ⟨host, rfl, -⟩ := takes_readIpv6Addr s₁ ip _ hip
      cases hscope : readScopeId s₂ with
      | none =>
          rw [hscope] at hclose
          obtain rfl : s₂ = _ := readGivenChar_eq_some hclose
          have hends : Ends (']' :: ':' :: digits) := ⟨by simp, by simp, rfl, rfl⟩
          exact .bracket host digits rfl (parseIpAddr_v6 hends hip) hdigits
      | some p =>
          rw [hscope] at hclose
          have hrest : p.2 = _ := readGivenChar_eq_some hclose
          unfold readScopeId at hscope
          obtain ⟨t, hpercent, hnumber⟩ := Option.bind_eq_some_iff.1 hscope
          obtain ⟨scope, rfl, hchars⟩ := takes_readNumber
            (fun c => addrChar_of_toDigit (Or.inl rfl)) none true (2 ^ 32) t p.1 p.2 hnumber
          obtain rfl : s₂ = _ := readGivenChar_eq_some hpercent
          have hends : Ends ('%' :: (scope ++ p.2)) := ⟨by simp, by simp, rfl, rfl⟩
          refine .withScope host scope digits ?_ (parseIpAddr_v6 hends hip) hchars hdigits
          rw [hrest]
          simp only [List.cons_append, List.append_assoc]

end AddrParser

/-! ## The address in a connection key -/

theorem percent_not_mem {host : Text} {ip : IpAddr} (h : parseIpAddr host = some ip) :
    '%' ∉ host := fun hmem => (addrChar_of_parseIpAddr h '%' hmem).2.2 rfl

theorem IsPort.percent_not_mem {digits : Text} {port : Nat} (h : IsPort digits port) :
    '%' ∉ digits := by
  intro hmem
  cases h.lt_and_digits.2.2 '%' hmem

theorem head_ne_bracket {host : Text} {ip : IpAddr} (h : parseIpAddr host = some ip) :
    host.head? ≠ some '[' := by
  intro hhead
  exact (addrChar_of_parseIpAddr h '[' (List.mem_of_head? hhead)).1 rfl

/-- A host that is no socket address is found with the port of the listener, be it a name or an
address. -/
theorem parseServerAddr_host {listen serverIp : Text} {listenAddr : SocketAddr}
    (hlisten : parseSocketAddr listen = some listenAddr) (h : parseSocketAddr serverIp = none)
    (hhead : serverIp.head? ≠ some '[') :
    parseServerAddr (buildConnectionServerAddr listen serverIp) =
      (serverIp, (listenAddr.port.toNat : Int)) := by
  have hbuild : buildConnectionServerAddr listen serverIp =
      serverIp ++ ':' :: decimal listenAddr.port.toNat := by
    unfold buildConnectionServerAddr
    rw [h, hlisten]
    rfl
  rw [hbuild]
  exact parseServerAddr_bare (isPort_decimal _) hhead

/-- The Android clients find the address and the port of every literal but one with a scope. -/
theorem parseServerAddr_connectionAddr {listen serverIp : Text} {listenAddr : SocketAddr}
    {ip : IpAddr} {port : Option UInt16} (hlisten : parseSocketAddr listen = some listenAddr)
    (hliteral : AddrLiteral serverIp ip port) :
    (∃ host, parseServerAddr (buildConnectionServerAddr listen serverIp) =
        (host, ((port.getD listenAddr.port).toNat : Int)) ∧ parseIpAddr host = some ip) ↔
      '%' ∉ serverIp := by
  cases hliteral with
  | bare h =>
      apply iff_of_true _ (percent_not_mem h)
      exact ⟨serverIp, parseServerAddr_host hlisten (parseSocketAddr_bare h) (head_ne_bracket h), h⟩
  | @withPort addr h =>
      have hbuild : buildConnectionServerAddr listen serverIp = serverIp := by
        unfold buildConnectionServerAddr
        rw [h]
        rfl
      rw [hbuild]
      cases written_of_parseSocketAddr h with
      | bare host digits hs hhost hport =>
          subst hs
          apply iff_of_true
          · exact ⟨host, parseServerAddr_bare hport (head_ne_bracket hhost), hhost⟩
          · intro hmem
            rcases List.mem_append.1 hmem with hhostMem | hrest
            · exact percent_not_mem hhost hhostMem
            · exact hport.percent_not_mem (List.mem_of_ne_of_mem (by decide) hrest)
      | bracket host digits hs hhost hport =>
          have hclosed : ']' ∉ host := fun hmem => (addrChar_of_parseIpAddr hhost ']' hmem).2.1 rfl
          subst hs
          apply iff_of_true
          · exact ⟨host, parseServerAddr_bracket hport hclosed, hhost⟩
          · intro hmem
            rcases List.mem_append.1 hmem with hfront | hrest
            · exact percent_not_mem hhost (List.mem_of_ne_of_mem (by decide) hfront)
            · have hdigits := List.mem_of_ne_of_mem (by decide) hrest
              exact hport.percent_not_mem (List.mem_of_ne_of_mem (by decide) hdigits)
      | withScope host scope digits hs hhost hscope hport =>
          have hclosed : ']' ∉ host ++ '%' :: scope := by
            intro hmem
            rcases List.mem_append.1 hmem with hfront | hrest
            · exact (addrChar_of_parseIpAddr hhost ']' hfront).2.1 rfl
            · exact (hscope ']' (List.mem_of_ne_of_mem (by decide) hrest)).2.1 rfl
          subst hs
          apply iff_of_false
          · rintro ⟨host', hparse, hhost'⟩
            rw [parseServerAddr_bracket hport hclosed] at hparse
            obtain rfl := (Prod.mk.inj hparse).1
            exact parseIpAddr_scope scope hhost'
          · intro hnot
            apply hnot
            simp

theorem parseServerAddr_sample :
    (∃ host, parseServerAddr (buildConnectionServerAddr "0.0.0.0:443".toList "::1".toList) =
        (host, (((none : Option UInt16).getD 443).toNat : Int)) ∧
      parseIpAddr host = some (.v6 ⟨List.replicate 15 0 ++ [1], rfl⟩)) ↔ '%' ∉ "::1".toList := by
  have hlisten : parseSocketAddr "0.0.0.0:443".toList = some ⟨.v4 ⟨0, 0, 0, 0⟩, 443⟩ := by decide
  exact parseServerAddr_connectionAddr hlisten (.bare (by decide))

end Aivpn
