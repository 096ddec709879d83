import Aivpn.Lib.Numerals
import Aivpn.Server.Session

/-!
# The server address in a connection key

`build_connection_server_addr` takes over a socket address as it is and appends the port of the
listener to anything else. The standard library reads socket addresses in a grammar where an IPv6
address stands in brackets. Without them it is no socket address, whatever port follows it.

So the result is a socket address of the given host and port for every literal but a bare IPv6 address
(`connection_addr_iff`).
-/

set_option autoImplicit false

namespace Aivpn

open Aivpn.Lib

/-! ## The address parser of the standard library -/

namespace AddrParser

/-- `read_given_char`. -/
def readGivenChar (target : Char) : Text → Option Text
  | c :: s => if c = target then some s else none
  | [] => none

/-- `read_separator`: the separator in front of every part but the first. -/
def readSeparator {α : Type} (sep : Char) (first : Bool) (inner : Text → Option (α × Text))
    (s : Text) : Option (α × Text) :=
  if first then inner s else (readGivenChar sep s).bind inner

/-- A part of an IPv4 address: at most three decimal digits without a leading zero. -/
def readOctet (s : Text) : Option (Nat × Text) := readNumber 10 (some 3) false 256 s

/-- `read_ipv4_addr`. -/
def readIpv4Addr (s : Text) : Option (Ipv4Addr × Text) := do
  let (a, s) ← readSeparator '.' true readOctet s
  let (b, s) ← readSeparator '.' false readOctet s
  let (c, s) ← readSeparator '.' false readOctet s
  let (d, s) ← readSeparator '.' false readOctet s
  some (⟨UInt8.ofNat a, UInt8.ofNat b, UInt8.ofNat c, UInt8.ofNat d⟩, s)

/-- `read_groups`: up to `slots` groups of an IPv6 address, as pairs of bytes, the last two of which
can be written as an IPv4 address. The flag says whether they were. -/
def readGroups : (slots : Nat) → (first : Bool) → Text → List (UInt8 × UInt8) × Bool × Text
  | 0, _, s => ([], false, s)
  | slots + 1, first, s =>
      match if 0 < slots then readSeparator ':' first readIpv4Addr s else none with
      | some (ip, s) => ([(ip.a, ip.b), (ip.c, ip.d)], true, s)
      | none => match readSeparator ':' first (readNumber 16 (some 4) true 65536) s with
        | some (g, s) =>
            let (groups, v4, s) := readGroups slots false s
            ((UInt8.ofNat (g / 256), UInt8.ofNat (g % 256)) :: groups, v4, s)
        | none => ([], false, s)

theorem length_readGroups (slots : Nat) (first : Bool) (s : Text) :
    (readGroups slots first s).1.length ≤ slots := by
  induction slots generalizing first s with
  | zero => exact Nat.le_refl 0
  | succ slots ih =>
      unfold readGroups
      split
      · rename_i ip s' hread
        have hslots : 0 < slots := by
          by_contra hzero
          rw [if_neg hzero] at hread
          cases hread
        show 2 ≤ slots + 1
        omega
      · split
        · exact Nat.succ_le_succ (ih _ _)
        · exact Nat.zero_le _

/-- The bytes of groups. -/
def groupBytes (groups : List (UInt8 × UInt8)) : Bytes := groups.flatMap fun g => [g.1, g.2]

theorem length_groupBytes (groups : List (UInt8 × UInt8)) :
    (groupBytes groups).length = 2 * groups.length := by
  induction groups with
  | nil => rfl
  | cons g groups ih =>
      show (g.1 :: g.2 :: groupBytes groups).length = _
      rw [List.length_cons, List.length_cons, ih, List.length_cons]
      omega

/-- The groups in front and behind, with zeros in between. -/
def ofGroups (head tail : List (UInt8 × UInt8)) (h : head.length + tail.length ≤ 8) : ByteArr 16 :=
  ⟨groupBytes (head ++ List.replicate (8 - (head.length + tail.length)) (0, 0) ++ tail), by
    rw [length_groupBytes, List.length_append, List.length_append, List.length_replicate]
    omega⟩

/-- `read_ipv6_addr`. -/
def readIpv6Addr (s : Text) : Option (ByteArr 16 × Text) :=
  let head := readGroups 8 true s
  if hfull : head.1.length = 8 then
    some (ofGroups head.1 [] (by rw [hfull]; exact Nat.le_refl 8), head.2.2)
  else if head.2.1 then none
  else do
    let colon ← readGivenChar ':' head.2.2
    let behind ← readGivenChar ':' colon
    -- `::` stands for at least one group
    let tail := readGroups (8 - (head.1.length + 1)) true behind
    some (ofGroups head.1 tail.1 (by
      have hhead : head.1.length ≤ 8 := length_readGroups 8 true s
      have htail : tail.1.length ≤ 8 - (head.1.length + 1) := length_readGroups _ true behind
      omega), tail.2.2)

/-- `read_ip_addr`. -/
def readIpAddr (s : Text) : Option (IpAddr × Text) :=
  match readIpv4Addr s with
  | some (ip, s) => some (.v4 ip, s)
  | none => (readIpv6Addr s).map fun p => (.v6 p.1, p.2)

/-- `read_port`. -/
def readPort (s : Text) : Option (UInt16 × Text) := do
  let s ← readGivenChar ':' s
  let (port, s) ← readNumber 10 none true 65536 s
  some (UInt16.ofNat port, s)

/-- `read_scope_id`. -/
def readScopeId (s : Text) : Option (Nat × Text) := do
  let s ← readGivenChar '%' s
  readNumber 10 none true (2 ^ 32) s

/-- `read_socket_addr_v4`. -/
def readSocketAddrV4 (s : Text) : Option (SocketAddr × Text) := do
  let (ip, s) ← readIpv4Addr s
  let (port, s) ← readPort s
  some (⟨.v4 ip, port⟩, s)

/-- `read_socket_addr_v6`. The scope is read, and left out of the result. -/
def readSocketAddrV6 (s : Text) : Option (SocketAddr × Text) := do
  let s ← readGivenChar '[' s
  let (ip, s) ← readIpv6Addr s
  let s := ((readScopeId s).map Prod.snd).getD s
  let s ← readGivenChar ']' s
  let (port, s) ← readPort s
  some (⟨.v6 ip, port⟩, s)

/-- `read_socket_addr`. -/
def readSocketAddr (s : Text) : Option (SocketAddr × Text) :=
  (readSocketAddrV4 s).or (readSocketAddrV6 s)

/-- `parse_with`: the reader has to take the whole text. -/
def parseWith {α : Type} (inner : Text → Option (α × Text)) (s : Text) : Option α :=
  match inner s with
  | some (a, []) => some a
  | _ => none

end AddrParser

open AddrParser

/-- `parse::<IpAddr>`. -/
def parseIpAddr (s : Text) : Option IpAddr := parseWith readIpAddr s

/-- `parse::<SocketAddr>`. -/
def parseSocketAddr (s : Text) : Option SocketAddr := parseWith readSocketAddr s

/-- `build_connection_server_addr`. -/
def buildConnectionServerAddr (listen serverIp : Text) : Text :=
  if (parseSocketAddr serverIp).isSome then serverIp
  else
    let port := ((parseSocketAddr listen).map SocketAddr.port).getD 443
    serverIp ++ ':' :: decimal port.toNat

/-! ## A port behind an address -/

namespace AddrParser

variable {rest : Text}

theorem readGivenChar_append {target : Char} (hrest : rest.head? ≠ some target) (s : Text) :
    readGivenChar target (s ++ rest) = (readGivenChar target s).map (· ++ rest) := by
  cases s with
  | nil =>
      cases rest with
      | nil => rfl
      | cons c rest =>
          have hne : c ≠ target := fun heq => hrest (congrArg some heq)
          exact if_neg hne
  | cons c s =>
      rw [List.cons_append]
      simp only [readGivenChar]
      split_ifs <;> rfl

theorem readSeparator_append {α : Type} {sep : Char} {inner : Text → Option (α × Text)}
    (hrest : rest.head? ≠ some sep)
    (hinner : ∀ s, inner (s ++ rest) = (inner s).map fun p => (p.1, p.2 ++ rest)) (first : Bool)
    (s : Text) :
    readSeparator sep first inner (s ++ rest) =
      (readSeparator sep first inner s).map fun p => (p.1, p.2 ++ rest) := by
  unfold readSeparator
  split_ifs
  · exact hinner s
  · rw [readGivenChar_append hrest]
    cases readGivenChar sep s with
    | none => rfl
    | some s => exact hinner s

/-- An IPv4 address ends where neither a digit nor a dot follows. -/
theorem readIpv4Addr_append (hdot : rest.head? ≠ some '.')
    (hdigit : rest.head?.bind (toDigit 10) = none) (s : Text) :
    readIpv4Addr (s ++ rest) = (readIpv4Addr s).map fun p => (p.1, p.2 ++ rest) := by
  have hpart (first : Bool) (s : Text) : readSeparator '.' first readOctet (s ++ rest) =
      (readSeparator '.' first readOctet s).map fun p => (p.1, p.2 ++ rest) :=
    readSeparator_append hdot (readNumber_append hdigit (some 3) false 256) first s
  unfold readIpv4Addr
  rw [hpart]
  cases readSeparator '.' true readOctet s with
  | none => rfl
  | some a =>
      simp only [Option.map_some, Option.bind_eq_bind, Option.bind_some, hpart]
      cases readSeparator '.' false readOctet a.2 with
      | none => rfl
      | some b =>
          simp only [Option.map_some, Option.bind_some, hpart]
          cases readSeparator '.' false readOctet b.2 with
          | none => rfl
          | some c =>
              simp only [Option.map_some, Option.bind_some, hpart]
              cases readSeparator '.' false readOctet c.2 <;> rfl

theorem readIpv4Addr_append_port (s : Text) (port : Nat) :
    readIpv4Addr (s ++ ':' :: decimal port) =
      (readIpv4Addr s).map fun p => (p.1, p.2 ++ ':' :: decimal port) :=
  readIpv4Addr_append (fun h => by cases h) rfl s

theorem readPort_decimal (port : UInt16) :
    readPort (':' :: decimal port.toNat) = some (port, []) := by
  have hgiven : readGivenChar ':' (':' :: decimal port.toNat) = some (decimal port.toNat) := rfl
  unfold readPort
  rw [hgiven, Option.bind_eq_bind, Option.bind_some, readNumber_decimal port.toNat_lt]
  simp only [Option.bind_eq_bind, Option.bind_some, UInt16.ofNat_toNat]

/-- No address starts with a bracket. -/
theorem readIpAddr_bracket (s : Text) : readIpAddr ('[' :: s) = none := rfl

theorem parseWith_eq_some_iff {α : Type} {inner : Text → Option (α × Text)} {s : Text} {a : α} :
    parseWith inner s = some a ↔ inner s = some (a, []) := by
  unfold parseWith
  constructor
  · intro h
    split at h
    · rename_i b hread
      cases h
      exact hread
    · cases h
  · intro h
    rw [h]

/-- What an address is read from starts with something else than a bracket. -/
theorem readGivenChar_bracket {s : Text} {ip : IpAddr} (h : parseIpAddr s = some ip) (rest : Text) :
    readGivenChar '[' (s ++ rest) = none := by
  have hread := parseWith_eq_some_iff.1 h
  cases s with
  | nil => cases hread
  | cons c s =>
      have hc : c ≠ '[' := by
        rintro rfl
        rw [readIpAddr_bracket] at hread
        cases hread
      exact if_neg hc

theorem readSocketAddrV6_bare {s : Text} {ip : IpAddr} (h : parseIpAddr s = some ip) (rest : Text) :
    readSocketAddrV6 (s ++ rest) = none := by
  unfold readSocketAddrV6
  rw [readGivenChar_bracket h]
  rfl

theorem readIpv4Addr_of_v4 {s : Text} {ip : Ipv4Addr} (h : parseIpAddr s = some (.v4 ip)) :
    readIpv4Addr s = some (ip, []) := by
  have hread := parseWith_eq_some_iff.1 h
  unfold readIpAddr at hread
  cases hv4 : readIpv4Addr s with
  | none =>
      rw [hv4] at hread
      obtain ⟨p, -, hp⟩ := Option.map_eq_some_iff.1 hread
      cases hp
  | some p =>
      obtain ⟨ip', rest⟩ := p
      rw [hv4] at hread
      cases hread
      rfl

theorem readIpv4Addr_of_v6 {s : Text} {ip : ByteArr 16} (h : parseIpAddr s = some (.v6 ip)) :
    readIpv4Addr s = none := by
  have hread := parseWith_eq_some_iff.1 h
  unfold readIpAddr at hread
  cases hv4 : readIpv4Addr s with
  | none => rfl
  | some p =>
      rw [hv4] at hread
      cases hread

/-- A bare address is no socket address. -/
theorem parseSocketAddr_bare {s : Text} {ip : IpAddr} (h : parseIpAddr s = some ip) :
    parseSocketAddr s = none := by
  have hv6 := readSocketAddrV6_bare h []
  rw [List.append_nil] at hv6
  have hv4 : readSocketAddrV4 s = none := by
    unfold readSocketAddrV4
    cases ip with
    | v4 ip =>
        rw [readIpv4Addr_of_v4 h]
        rfl
    | v6 ip =>
        rw [readIpv4Addr_of_v6 h]
        rfl
  unfold parseSocketAddr parseWith readSocketAddr
  rw [hv4, hv6]
  rfl

/-- With a port behind it, an IPv4 address is a socket address. -/
theorem parseSocketAddr_v4_port {s : Text} {ip : Ipv4Addr} (h : parseIpAddr s = some (.v4 ip))
    (port : UInt16) : parseSocketAddr (s ++ ':' :: decimal port.toNat) = some ⟨.v4 ip, port⟩ := by
  have hv4 : readSocketAddrV4 (s ++ ':' :: decimal port.toNat) = some (⟨.v4 ip, port⟩, []) := by
    unfold readSocketAddrV4
    rw [readIpv4Addr_append_port, readIpv4Addr_of_v4 h]
    simp only [Option.map_some, List.nil_append, Option.bind_eq_bind, Option.bind_some,
      readPort_decimal]
  unfold parseSocketAddr
  rw [parseWith_eq_some_iff, readSocketAddr, hv4, Option.some_or]

/-- With a port behind it, a bare IPv6 address is none. -/
theorem parseSocketAddr_v6_port {s : Text} {ip : ByteArr 16} (h : parseIpAddr s = some (.v6 ip))
    (port : Nat) : parseSocketAddr (s ++ ':' :: decimal port) = none := by
  have hv4 : readSocketAddrV4 (s ++ ':' :: decimal port) = none := by
    unfold readSocketAddrV4
    rw [readIpv4Addr_append_port, readIpv4Addr_of_v6 h]
    rfl
  unfold parseSocketAddr parseWith readSocketAddr
  rw [hv4, readSocketAddrV6_bare h]
  rfl

end AddrParser

/-! ## Literals -/

/-- A literal of an address, bare or with a port. -/
inductive AddrLiteral (s : Text) : IpAddr → Option UInt16 → Prop where
  | bare {ip : IpAddr} (h : parseIpAddr s = some ip) : AddrLiteral s ip none
  | withPort {addr : SocketAddr} (h : parseSocketAddr s = some addr) :
      AddrLiteral s addr.ip (some addr.port)

/-- The address in a connection key is that of the literal, with its own port or that of the listener,
unless the literal is a bare IPv6 address. -/
theorem connection_addr_iff {listen serverIp : Text} {listenAddr : SocketAddr} {ip : IpAddr}
    {port : Option UInt16} (hlisten : parseSocketAddr listen = some listenAddr)
    (hliteral : AddrLiteral serverIp ip port) :
    parseSocketAddr (buildConnectionServerAddr listen serverIp) =
        some ⟨ip, port.getD listenAddr.port⟩ ↔
      port ≠ none ∨ ∃ v4, ip = .v4 v4 := by
  cases hliteral with
  | bare h =>
      have hbuild : buildConnectionServerAddr listen serverIp =
          serverIp ++ ':' :: decimal listenAddr.port.toNat := by
        unfold buildConnectionServerAddr
        rw [parseSocketAddr_bare h, hlisten]
        rfl
      rw [hbuild]
      cases ip with
      | v4 v4 => exact iff_of_true (parseSocketAddr_v4_port h _) (Or.inr ⟨v4, rfl⟩)
      | v6 v6 =>
          rw [parseSocketAddr_v6_port h]
          refine iff_of_false (fun h => nomatch h) ?_
          rintro (hport | ⟨v4, hv4⟩)
          · exact hport rfl
          · cases hv4
  | withPort h =>
      have hbuild : buildConnectionServerAddr listen serverIp = serverIp := by
        unfold buildConnectionServerAddr
        rw [h]
        rfl
      rw [hbuild]
      exact iff_of_true h (Or.inl fun hport => nomatch hport)

theorem connection_addr_sample :
    parseSocketAddr (buildConnectionServerAddr "[::]:8443".toList "203.0.113.10".toList) =
        some ⟨.v4 ⟨203, 0, 113, 10⟩, 8443⟩ ↔
      (none : Option UInt16) ≠ none ∨ ∃ v4, IpAddr.v4 ⟨203, 0, 113, 10⟩ = .v4 v4 := by
  have hlisten : parseSocketAddr "[::]:8443".toList =
      some ⟨.v6 (ByteArr.replicate 16 0), 8443⟩ := by decide
  exact connection_addr_iff hlisten (.bare (by decide))

/-- The loopback address of IPv6 gives `::1:443`, which is no socket address. -/
theorem connection_addr_bareIpv6 :
    ¬ ∀ (listen serverIp : Text) (listenAddr : SocketAddr) (ip : IpAddr) (port : Option UInt16),
      parseSocketAddr listen = some listenAddr → AddrLiteral serverIp ip port →
        parseSocketAddr (buildConnectionServerAddr listen serverIp) =
          some ⟨ip, port.getD listenAddr.port⟩ := by
  intro h
  have hloopback := h "0.0.0.0:443".toList "::1".toList ⟨.v4 ⟨0, 0, 0, 0⟩, 443⟩
    (.v6 ⟨List.replicate 15 0 ++ [1], rfl⟩) none (by decide) (.bare (by decide))
  have hnone : parseSocketAddr (buildConnectionServerAddr "0.0.0.0:443".toList "::1".toList) =
      none := by decide
  rw [hnone] at hloopback
  cases hloopback

end Aivpn
