import Aivpn.Lib.Numerals
import Aivpn.Server.ClientDb
import Mathlib.Tactic.Ring

/-!
# The table of clients

What `--list-clients` prints: columns that are padded to a width and separated by one blank. A column
is not cut, so that a text that fills its column leaves a single blank behind it.

A byte counter is printed as a whole number of bytes, or in the largest unit that it reaches with one
decimal, rounded twice: once to a `f64`, and once to the decimal.
-/

set_option autoImplicit false

namespace Aivpn

open Aivpn.Lib

namespace ClientTable

/-! ## Byte counters -/

/-- The integer next to `n / d`; of two equally near ones the even one. -/
def roundHalfEven (n d : Nat) : Nat :=
  let q := n / d
  let r := n % d
  if d < 2 * r ∨ (2 * r = d ∧ q % 2 = 1) then q + 1 else q

/-- `n as f64`: 53 significant bits. -/
def asF64 (n : Nat) : Nat :=
  if n < 2 ^ 53 then n
  else
    let ulp := 2 ^ (Nat.log2 n - 52)
    roundHalfEven n ulp * ulp

/-- `n / d` as `{:.1}`. -/
def oneDecimal (n d : Nat) : Text :=
  let tenths := roundHalfEven (10 * n) d
  decimal (tenths / 10) ++ '.' :: decimal (tenths % 10)

/-- `format_bytes`. -/
def formatBytes (bytes : UInt64) : Text :=
  let n := bytes.toNat
  if n < 1024 then decimal n ++ " B".toList
  else if n < 1024 * 1024 then oneDecimal (asF64 n) 1024 ++ " KB".toList
  else if n < 1024 * 1024 * 1024 then oneDecimal (asF64 n) (1024 * 1024) ++ " MB".toList
  else oneDecimal (asF64 n) (1024 * 1024 * 1024) ++ " GB".toList

/-- A numeral of `format_bytes`: digits, perhaps with a point. -/
def IsNumeral (s : Text) : Prop := s ≠ [] ∧ ∀ c ∈ s, c.isDigit = true ∨ c = '.'

theorem isNumeral_decimal (n : Nat) : IsNumeral (decimal n) :=
  ⟨decimal_ne_nil n, fun _ hc => Or.inl (isDigit_of_mem_decimal hc)⟩

theorem isNumeral_oneDecimal (n d : Nat) : IsNumeral (oneDecimal n d) := by
  refine ⟨by simp [oneDecimal], fun c hc => ?_⟩
  rcases List.mem_append.1 hc with hfront | hback
  · exact Or.inl (isDigit_of_mem_decimal hfront)
  · rcases List.mem_cons.1 hback with rfl | hdecimal
    · exact Or.inr rfl
    · exact Or.inl (isDigit_of_mem_decimal hdecimal)

/-- A byte counter is a numeral, a blank and a unit. -/
theorem formatBytes_eq (bytes : UInt64) :
    ∃ num unit, formatBytes bytes = num ++ ' ' :: unit ∧ IsNumeral num ∧
      unit ∈ ["B".toList, "KB".toList, "MB".toList, "GB".toList] := by
  unfold formatBytes
  simp only
  split_ifs
  · exact ⟨_, "B".toList, rfl, isNumeral_decimal _, by simp⟩
  · exact ⟨_, "KB".toList, rfl, isNumeral_oneDecimal _ _, by simp⟩
  · exact ⟨_, "MB".toList, rfl, isNumeral_oneDecimal _ _, by simp⟩
  · exact ⟨_, "GB".toList, rfl, isNumeral_oneDecimal _ _, by simp⟩

/-! ### Widths -/

theorem length_decimal_le_iff (n : Nat) {k : Nat} (hk : 0 < k) :
    (decimal n).length ≤ k ↔ n < 10 ^ k := Nat.length_toDigits_le_iff (by decide) hk

theorem length_oneDecimal_le_iff (n d : Nat) {k : Nat} (hk : 0 < k) :
    (oneDecimal n d).length ≤ k + 2 ↔ roundHalfEven (10 * n) d < 10 ^ (k + 1) := by
  have htenth : (decimal (roundHalfEven (10 * n) d % 10)).length = 1 := by
    refine le_antisymm ((length_decimal_le_iff _ Nat.one_pos).2 (Nat.mod_lt _ (by decide))) ?_
    exact List.length_pos_iff.2 (decimal_ne_nil _)
  have hwhole := length_decimal_le_iff (roundHalfEven (10 * n) d / 10) hk
  unfold oneDecimal
  simp only
  rw [List.length_append, List.length_cons, htenth, pow_succ, ← Nat.div_lt_iff_lt_mul (by decide),
    ← hwhole]
  omega

theorem asF64_of_lt {n : Nat} (h : n < 2 ^ 53) : asF64 n = n := if_pos h

theorem le_asF64 {n : Nat} (h : 2 ^ 53 ≤ n) : 2 ^ 53 ≤ asF64 n := by
  have hlog : 53 ≤ Nat.log2 n := (Nat.le_log2 (by omega)).2 h
  have hsplit : 2 ^ 52 * 2 ^ (Nat.log2 n - 52) ≤ n := by
    rw [← Nat.pow_add, show 52 + (Nat.log2 n - 52) = Nat.log2 n by omega]
    exact Nat.log2_self_le (by omega)
  have hulp : 2 ^ 1 ≤ 2 ^ (Nat.log2 n - 52) := Nat.pow_le_pow_right (by decide) (by omega)
  have hquotient : 2 ^ 52 ≤ n / 2 ^ (Nat.log2 n - 52) :=
    (Nat.le_div_iff_mul_le (by omega)).2 hsplit
  have hround : n / 2 ^ (Nat.log2 n - 52) ≤ roundHalfEven n (2 ^ (Nat.log2 n - 52)) := by
    unfold roundHalfEven
    simp only
    split_ifs
    · exact Nat.le_succ _
    · exact le_refl _
  rw [asF64, if_neg (by omega)]
  calc 2 ^ 53 = 2 ^ 52 * 2 ^ 1 := by decide
    _ ≤ roundHalfEven n (2 ^ (Nat.log2 n - 52)) * 2 ^ (Nat.log2 n - 52) :=
        Nat.mul_le_mul (le_trans hquotient hround) hulp

/-- Rounding to the nearest integer, seen from the middle between two of them. -/
theorem roundHalfEven_le {n d k : Nat} (h : 2 * n < (2 * k + 1) * d) : roundHalfEven n d ≤ k := by
  have hd : 0 < d := by
    by_contra hzero
    rw [Nat.eq_zero_of_not_pos hzero, Nat.mul_zero] at h
    exact Nat.not_lt_zero _ h
  have hdiv := Nat.div_add_mod n d
  have hmod := Nat.mod_lt n hd
  have hquotient : n / d ≤ k := by
    by_contra hgt
    have hmul : (k + 1) * d ≤ d * (n / d) := by
      rw [Nat.mul_comm]
      exact Nat.mul_le_mul_left d (by omega)
    have hsum : (2 * k + 1) * d + d = 2 * ((k + 1) * d) := by ring
    omega
  unfold roundHalfEven
  simp only
  split_ifs with hup
  · -- rounded up, so that the quotient is smaller
    by_contra hgt
    have hexact : n / d = k := by omega
    rw [hexact] at hdiv
    have hsum : (2 * k + 1) * d = 2 * (d * k) + d := by ring
    omega
  · exact hquotient

theorem le_roundHalfEven {n d k : Nat} (hd : 0 < d) (h : (2 * k + 1) * d < 2 * n) :
    k + 1 ≤ roundHalfEven n d := by
  have hdiv := Nat.div_add_mod n d
  have hmod := Nat.mod_lt n hd
  have hquotient : k ≤ n / d := by
    rw [Nat.le_div_iff_mul_le hd]
    have hsum : (2 * k + 1) * d = 2 * (k * d) + d := by ring
    omega
  unfold roundHalfEven
  simp only
  split_ifs with hup
  · omega
  · by_contra hle
    have hexact : n / d = k := by omega
    rw [hexact] at hdiv
    have hsum : (2 * k + 1) * d = 2 * (d * k) + d := by ring
    omega

/-- A byte counter has at most eleven characters below a million gigabytes. -/
theorem length_formatBytes_le_iff (bytes : UInt64) :
    (formatBytes bytes).length ≤ 11 ↔ bytes.toNat < 1073741770312909 := by
  have hunit (n d : Nat) {unit : Text} (hlen : unit.length = 3) :
      (oneDecimal n d ++ unit).length ≤ 11 ↔ roundHalfEven (10 * n) d < 10 ^ 7 := by
    rw [List.length_append, hlen, ← length_oneDecimal_le_iff n d (show 0 < 6 by decide)]
    omega
  unfold formatBytes
  simp only
  generalize bytes.toNat = n
  split_ifs with hkilo hmega hgiga
  · -- bytes, kilobytes and megabytes are always narrow
    have hdigits := (length_decimal_le_iff n (show 0 < 4 by decide)).2 (by omega)
    refine iff_of_true ?_ (by omega)
    rw [List.length_append]
    exact Nat.add_le_add hdigits (show 2 ≤ 7 by decide)
  · rw [hunit _ _ rfl, asF64_of_lt (by omega)]
    refine iff_of_true (Nat.lt_succ_of_le (roundHalfEven_le ?_)) ?_ <;> omega
  · rw [hunit _ _ rfl, asF64_of_lt (by omega)]
    refine iff_of_true (Nat.lt_succ_of_le (roundHalfEven_le ?_)) ?_ <;> omega
  · rw [hunit _ _ rfl]
    -- up to 2 ^ 53 the float is exact
    by_cases hexact : n < 2 ^ 53
    · rw [asF64_of_lt hexact]
      by_cases hbelow : n < 1073741770312909
      · exact iff_of_true (Nat.lt_succ_of_le (roundHalfEven_le (by omega))) hbelow
      · refine iff_of_false (Nat.not_lt.2 (le_roundHalfEven (by decide) ?_)) hbelow
        omega
    · have hlarge := le_asF64 (Nat.le_of_not_lt hexact)
      refine iff_of_false (Nat.not_lt.2 (le_roundHalfEven (by decide) ?_)) (by omega)
      omega

/-! ## The table -/

/-- `{:<width}`. -/
def padRight (width : Nat) (s : Text) : Text := s ++ List.replicate (width - s.length) ' '

/-- `Display` of an IPv4 address. -/
def ipText (ip : Ipv4Addr) : Text :=
  decimal ip.a.toNat ++ '.' :: decimal ip.b.toNat ++ '.' :: decimal ip.c.toNat ++
    '.' :: decimal ip.d.toNat

/-- One row of the table. -/
def tableRow (id name vpnIp status upload download lastSeen : Text) : Text :=
  padRight 18 id ++ ' ' :: padRight 20 name ++ ' ' :: padRight 12 vpnIp ++ ' ' :: padRight 8 status ++
    ' ' :: padRight 12 upload ++ ' ' :: padRight 12 download ++ ' ' :: lastSeen

/-- The column `STATUS`. -/
def statusText (c : ClientRecord) : Text := if c.enabled then "active".toList else "disabled".toList

/-- The column `UPLOAD`. -/
def uploadText (c : ClientRecord) : Text := formatBytes c.stats.bytesOut

/-- The column `DOWNLOAD`. -/
def downloadText (c : ClientRecord) : Text := formatBytes c.stats.bytesIn

/-- The column `LAST SEEN`, with times as `%Y-%m-%d %H:%M`. -/
def lastSeenText (formatTime : Nat → Text) (c : ClientRecord) : Text :=
  match c.stats.lastConnected with
  | some t => formatTime t
  | none => "never".toList

/-- The row of a client. -/
def clientRow (formatTime : Nat → Text) (c : ClientRecord) : Text :=
  tableRow c.id.toList c.name.toList (ipText c.vpnIp) (statusText c) (uploadText c) (downloadText c)
    (lastSeenText formatTime c)

/-- What `handle_list_clients` prints, line by line. -/
def handleListClients (formatTime : Nat → Text) (clients : List ClientRecord) : List Text :=
  if clients.isEmpty then
    ["No registered clients.".toList, [],
      "Add a client: shade-server --add-client \"Phone\" --key-file /etc/shadevpn/server.key".toList]
  else
    tableRow "ID".toList "NAME".toList "VPN IP".toList "STATUS".toList "UPLOAD".toList
        "DOWNLOAD".toList "LAST SEEN".toList ::
      List.replicate 100 '-' :: clients.map (clientRow formatTime) ++
        [[], "Total: ".toList ++ decimal clients.length ++ " client(s)".toList]

/-- The lines as they arrive on the standard output. -/
def output (lines : List Text) : Text := lines.flatMap (· ++ ['\n'])

/-! ## Registered clients -/

/-- A client as `add_client` makes it, whatever has happened to it since. -/
def Registered (c : ClientRecord) : Prop :=
  ∃ (idBytes : ByteArr 8) (octet : UInt8), c.id = ClientDbFile.hexId idBytes ∧
    c.vpnIp = ⟨10, 0, 0, octet⟩

theorem hexId_toList (idBytes : ByteArr 8) :
    (ClientDbFile.hexId idBytes).toList =
      idBytes.toList.flatMap fun b => (ClientDbFile.hexByte b).toList := by
  rw [ClientDbFile.hexId, String.toList_join, List.flatMap_map]

theorem mem_hexByte {b : UInt8} {c : Char} (h : c ∈ (ClientDbFile.hexByte b).toList) :
    c ∈ "0123456789abcdef".toList := by
  have hdigit {n : Nat} (hn : n < 16) :
      "0123456789abcdef".toList.getD n '0' ∈ "0123456789abcdef".toList := by
    rw [List.getD_eq_getElem _ _ hn]
    exact List.getElem_mem hn
  have hb := b.toNat_lt
  rw [ClientDbFile.hexByte, String.toList_ofList] at h
  rcases List.mem_cons.1 h with rfl | h
  · exact hdigit (by omega)
  · rw [List.mem_singleton.1 h]
    exact hdigit (by omega)

theorem mem_hexId {idBytes : ByteArr 8} {c : Char} (h : c ∈ (ClientDbFile.hexId idBytes).toList) :
    c ∈ "0123456789abcdef".toList := by
  rw [hexId_toList] at h
  obtain ⟨b, -, hc⟩ := List.mem_flatMap.1 h
  exact mem_hexByte hc

theorem length_hexId (idBytes : ByteArr 8) : (ClientDbFile.hexId idBytes).toList.length = 16 := by
  have hpairs (bytes : Bytes) :
      (bytes.flatMap fun b => (ClientDbFile.hexByte b).toList).length = 2 * bytes.length := by
    induction bytes with
    | nil => rfl
    | cons b bytes ih =>
        have hbyte : (ClientDbFile.hexByte b).toList.length = 2 := by
          rw [ClientDbFile.hexByte, String.toList_ofList]
          rfl
        rw [List.flatMap_cons, List.length_append, ih, hbyte, List.length_cons]
        omega
  rw [hexId_toList, hpairs, idBytes.length_toList]

end ClientTable
end Aivpn
