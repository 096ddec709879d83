import Aivpn.Lib.Fields
import Aivpn.Server.ClientTable
import Mathlib.Algebra.Field.Rat

/-!
# Rows of clients in the admin panel

`traffic_collector` reads the table that the server prints: it drops two lines, splits a line at runs
of two or more blanks, and takes the first field for the id, the fifth and the sixth for the counters
and the last one for the time.

The server leaves one blank behind a text that fills its column, and one blank joins two fields. The
status `disabled` always does that, a name from 20 characters on, and a counter from a million gigabytes
on. A name may also bring blanks of its own. `panel_reads_iff` says which tables the panel reads as
they were meant.
-/

set_option autoImplicit false

namespace Aivpn

open Aivpn.Lib ClientTable

namespace Panel

/-! ## Text in Python -/

/-- `str.isspace`, which is also `\s` in a regular expression. -/
def isSpace (c : Char) : Bool :=
  let n := c.toNat
  9 ≤ n && n ≤ 13 || 0x1c ≤ n && n ≤ 0x20 || n == 0x85 || n == 0xa0 || n == 0x1680 ||
    0x2000 ≤ n && n ≤ 0x200a || n == 0x2028 || n == 0x2029 || n == 0x202f || n == 0x205f ||
    n == 0x3000

/-- The line boundaries of `str.splitlines`. -/
def isLineBreak (c : Char) : Bool :=
  let n := c.toNat
  0xa ≤ n && n ≤ 0xd || 0x1c ≤ n && n ≤ 0x1e || n == 0x85 || n == 0x2028 || n == 0x2029

/-- `str.strip`. -/
def strip (s : Text) : Text := trimBy isSpace s

/-- The lines from a line of `cur` on; a line feed right behind a carriage return is no line break. -/
def splitLinesFrom (afterReturn : Bool) (cur : Text) : Text → List Text
  | [] => if cur = [] then [] else [cur]
  | c :: s =>
      if afterReturn && c == '\n' then splitLinesFrom false cur s
      else if isLineBreak c then cur :: splitLinesFrom (c == '\r') [] s
      else splitLinesFrom false (cur ++ [c]) s

/-- `str.splitlines`. -/
def splitLines (s : Text) : List Text := splitLinesFrom false [] s

/-- `float` on text, as far as the panel relies on it: numerals with at most one decimal are read and
rounded to the nearest float, and zero is one. -/
structure PyFloat where
  float : Text → Option ℚ
  round : ℚ → ℚ
  round_zero : round 0 = 0
  float_decimal : ∀ n : ℕ, float (decimal n) = some (round n)
  float_tenths : ∀ t : ℕ, float (decimal (t / 10) ++ '.' :: decimal (t % 10)) = some (round (t / 10))

/-- `parse_bytes`. The products are exact: the factors are powers of two. -/
def parseBytes (py : PyFloat) (s : Text) : ℚ :=
  let s := strip s
  if s = [] ∨ s = "0 B".toList then 0
  else match s.splitOn ' ' with
    | [val, unit] => match py.float val with
      | some val =>
          if unit = "KB".toList then val * 1024
          else if unit = "MB".toList then val * 1024 ^ 2
          else if unit = "GB".toList then val * 1024 ^ 3
          else if unit = "TB".toList then val * 1024 ^ 4
          else val
      | none => 0
    | _ => 0

/-! ## The rows of `traffic_collector` -/

/-- What the panel takes from a row. -/
structure RowEntry where
  cid : Text
  upload : Text
  download : Text
  lastSeen : Text
deriving DecidableEq, Repr

/-- One line: blank lines, the total and lines with less than seven fields are skipped. -/
def readRow (line : Text) : Option RowEntry :=
  if strip line = [] ∨ "Total:".toList <+: line then none
  else
    let parts := splitRuns isSpace (strip line)
    if 7 ≤ parts.length then
      some ⟨parts.getD 0 [], parts.getD 4 [], parts.getD 5 [], strip (parts.getLastD [])⟩
    else none

/-- All lines behind the first two. -/
def collectRows (out : Text) : List RowEntry := ((splitLines (strip out)).drop 2).filterMap readRow

/-! ## Characters -/

theorem forall_of_all {p : Char → Bool} {s : Text} (h : s.all (fun c => !p c) = true) :
    ∀ c ∈ s, p c = false := by
  intro c hc
  have hp := List.all_eq_true.1 h c hc
  rwa [Bool.not_eq_true'] at hp

theorem isSpace_of_printable {c : Char} (h : 0x20 < c.toNat) (h' : c.toNat < 0x7f) :
    isSpace c = false := by
  simp only [isSpace, Bool.or_eq_false_iff, Bool.and_eq_false_iff, decide_eq_false_iff_not,
    beq_eq_false_iff_ne]
  omega

theorem isSpace_of_isLineBreak {c : Char} (h : isLineBreak c = true) : isSpace c = true := by
  simp only [isLineBreak, isSpace, Bool.or_eq_true, Bool.and_eq_true, decide_eq_true_eq,
    beq_iff_eq] at h ⊢
  omega

theorem isLineBreak_of_not_isSpace {c : Char} (h : isSpace c = false) : isLineBreak c = false := by
  cases hbreak : isLineBreak c with
  | false => rfl
  | true =>
      rw [isSpace_of_isLineBreak hbreak] at h
      cases h

theorem isSpace_of_isDigit {c : Char} (h : c.isDigit = true) : isSpace c = false := by
  rw [Char.isDigit, Bool.and_eq_true, decide_eq_true_iff, decide_eq_true_iff] at h
  have hlow : 48 ≤ c.toNat := h.1
  have hhigh : c.toNat ≤ 57 := h.2
  exact isSpace_of_printable (by omega) (by omega)

theorem isSpace_of_numeral {num : Text} (h : IsNumeral num) : ∀ c ∈ num, isSpace c = false := by
  intro c hc
  rcases h.2 c hc with hdigit | rfl
  · exact isSpace_of_isDigit hdigit
  · rfl

theorem isSpace_of_unit {unit : Text}
    (h : unit ∈ ["B".toList, "KB".toList, "MB".toList, "GB".toList]) :
    unit ≠ [] ∧ ∀ c ∈ unit, isSpace c = false := by
  simp only [List.mem_cons, List.not_mem_nil, or_false] at h
  rcases h with rfl | rfl | rfl | rfl <;> exact ⟨by decide, forall_of_all (by decide)⟩

/-! ## The counters -/

/-- What the text of a byte counter says, read as floats. -/
def printedValue (py : PyFloat) (bytes : UInt64) : ℚ :=
  let n := bytes.toNat
  if n < 1024 then py.round n
  else if n < 1024 * 1024 then
    py.round ((roundHalfEven (10 * asF64 n) 1024 : ℕ) / 10) * 1024
  else if n < 1024 * 1024 * 1024 then
    py.round ((roundHalfEven (10 * asF64 n) (1024 * 1024) : ℕ) / 10) * 1024 ^ 2
  else py.round ((roundHalfEven (10 * asF64 n) (1024 * 1024 * 1024) : ℕ) / 10) * 1024 ^ 3

/-- A numeral and a unit, with a blank in between. -/
theorem solid_counter {num unit : Text} (hnum : IsNumeral num)
    (hunit : unit ≠ [] ∧ ∀ c ∈ unit, isSpace c = false) : Solid isSpace (num ++ ' ' :: unit) := by
  have hsolid := (solid_of_forall hnum.1 (isSpace_of_numeral hnum)).append
    (solid_of_forall hunit.1 hunit.2) [' ']
  rwa [List.append_assoc, List.singleton_append] at hsolid

/-- A value in a unit, in bytes. -/
def inUnit (unit : Text) (val : ℚ) : ℚ :=
  if unit = "KB".toList then val * 1024
  else if unit = "MB".toList then val * 1024 ^ 2
  else if unit = "GB".toList then val * 1024 ^ 3
  else if unit = "TB".toList then val * 1024 ^ 4
  else val

theorem parseBytes_counter (py : PyFloat) {num unit : Text} (hnum : IsNumeral num)
    (hunit : unit ≠ [] ∧ ∀ c ∈ unit, isSpace c = false) (hzero : num ++ ' ' :: unit ≠ "0 B".toList)
    {val : ℚ} (hval : py.float num = some val) :
    parseBytes py (num ++ ' ' :: unit) = inUnit unit val := by
  have hsolid := solid_counter hnum hunit
  have hnumBlank : ' ' ∉ num := fun hmem => by
    have := isSpace_of_numeral hnum ' ' hmem
    cases this
  have hunitBlank : ' ' ∉ unit := fun hmem => by
    have := hunit.2 ' ' hmem
    cases this
  have hsplit : (num ++ ' ' :: unit).splitOn ' ' = [num, unit] := by
    rw [List.splitOn_append_cons_self, List.splitOn_eq_singleton hnumBlank,
      List.splitOn_eq_singleton hunitBlank, List.singleton_append]
  unfold parseBytes strip
  simp only [trimBy_of_solid hsolid]
  rw [if_neg (by rintro (hnil | h0); exacts [hsolid.ne_nil hnil, hzero h0]), hsplit]
  simp only [hval]
  rfl

/-- A counter with a decimal, in a unit of two letters. -/
theorem parseBytes_oneDecimal (py : PyFloat) (n d : Nat) {unit : Text}
    (hunit : unit ∈ ["KB".toList, "MB".toList, "GB".toList]) :
    parseBytes py (oneDecimal n d ++ ' ' :: unit) =
      inUnit unit (py.round ((roundHalfEven (10 * n) d : ℕ) / 10)) := by
  have hnum := isNumeral_oneDecimal n d
  have hlong : oneDecimal n d ++ ' ' :: unit ≠ "0 B".toList := by
    intro h
    have hlen := congrArg List.length h
    have hpos := List.length_pos_iff.2 hnum.1
    have htwo : unit.length = 2 := by
      simp only [List.mem_cons, List.not_mem_nil, or_false] at hunit
      rcases hunit with rfl | rfl | rfl <;> rfl
    rw [List.length_append, List.length_cons] at hlen
    change _ = 3 at hlen
    omega
  exact parseBytes_counter py hnum (isSpace_of_unit (List.mem_cons_of_mem _ hunit)) hlong
    (py.float_tenths _)

/-- The panel reads a byte counter as what its text says. -/
theorem parseBytes_formatBytes (py : PyFloat) (bytes : UInt64) :
    parseBytes py (formatBytes bytes) = printedValue py bytes := by
  unfold formatBytes printedValue
  simp only
  generalize bytes.toNat = n
  split_ifs with hkilo hmega hgiga
  · by_cases hzero : decimal n ++ ' ' :: "B".toList = "0 B".toList
    · -- zero bytes are read before any numeral is
      have hdigits : decimal n = ['0'] := List.append_inj_left' hzero rfl
      have hn : n = 0 := by
        rw [← digitsValue_decimal n, hdigits]
        rfl
      subst hn
      rw [Nat.cast_zero, py.round_zero]
      rfl
    · exact parseBytes_counter py (isNumeral_decimal n) (isSpace_of_unit (by decide)) hzero
        (py.float_decimal n)
  · exact parseBytes_oneDecimal py _ _ (show "KB".toList ∈ _ by decide)
  · exact parseBytes_oneDecimal py _ _ (show "MB".toList ∈ _ by decide)
  · exact parseBytes_oneDecimal py _ _ (show "GB".toList ∈ _ by decide)

/-! ## Lines -/

theorem splitLinesFrom_append {l : Text} (hl : ∀ c ∈ l, isLineBreak c = false) (cur s : Text) :
    splitLinesFrom false cur (l ++ s) = splitLinesFrom false (cur ++ l) s := by
  induction l generalizing cur with
  | nil => rw [List.nil_append, List.append_nil]
  | cons c l ih =>
      rw [List.cons_append]
      simp only [splitLinesFrom, Bool.false_and, Bool.false_eq_true, if_false,
        hl c List.mem_cons_self]
      rw [ih (fun c' hc' => hl c' (List.mem_cons_of_mem _ hc')), List.append_assoc,
        List.singleton_append]

theorem splitLines_append {l : Text} (hl : ∀ c ∈ l, isLineBreak c = false) (s : Text) :
    splitLines (l ++ '\n' :: s) = l :: splitLines s := by
  unfold splitLines
  rw [splitLinesFrom_append hl]
  rfl

theorem splitLines_of_forall {l : Text} (hne : l ≠ []) (hl : ∀ c ∈ l, isLineBreak c = false) :
    splitLines l = [l] := by
  have hfrom := splitLinesFrom_append hl [] []
  rw [List.append_nil, List.nil_append] at hfrom
  unfold splitLines
  rw [hfrom, splitLinesFrom, if_neg hne]

/-- No line contains a line break. -/
theorem isLineBreak_of_mem {afterReturn : Bool} {cur s l : Text}
    (hcur : ∀ c ∈ cur, isLineBreak c = false) (hl : l ∈ splitLinesFrom afterReturn cur s) :
    ∀ c ∈ l, isLineBreak c = false := by
  induction s generalizing afterReturn cur with
  | nil =>
      unfold splitLinesFrom at hl
      split_ifs at hl
      · cases hl
      · rw [List.mem_singleton.1 hl]
        exact hcur
  | cons c s ih =>
      unfold splitLinesFrom at hl
      -- a line feed behind a carriage return, a line break, any other character
      split_ifs at hl with hfeed hbreak
      · exact ih hcur hl
      · rcases List.mem_cons.1 hl with rfl | hmem
        · exact hcur
        · exact ih (fun _ hc => absurd hc List.not_mem_nil) hmem
      · refine ih (fun c' hc' => ?_) hl
        rcases List.mem_append.1 hc' with h | h
        · exact hcur c' h
        · rw [List.mem_singleton.1 h]
          exact Bool.eq_false_iff.2 hbreak

theorem splitLines_eq_singleton_iff {l : Text} (hne : l ≠ []) :
    splitLines l = [l] ↔ ∀ c ∈ l, isLineBreak c = false := by
  constructor
  · intro h
    have hmem : l ∈ splitLinesFrom false [] l := by
      show l ∈ splitLines l
      rw [h]
      exact List.mem_singleton_self l
    exact isLineBreak_of_mem (fun _ hc => absurd hc List.not_mem_nil) hmem
  · exact splitLines_of_forall hne

/-! ## The fields of a row -/

/-- `%Y-%m-%d %H:%M`: a date and a time, with a blank in between. -/
structure Clock where
  format : Nat → Text
  format_eq : ∀ t, ∃ date time, format t = date ++ ' ' :: time ∧ date ≠ [] ∧ time ≠ [] ∧
    ∀ c ∈ date ++ time, isSpace c = false

/-- The blanks behind a column. -/
def gap (width : Nat) (s : Text) : Text := List.replicate (width - s.length + 1) ' '

theorem isSpace_gap (width : Nat) (s : Text) : ∀ c ∈ gap width s, isSpace c = true := by
  intro c hc
  rw [List.eq_of_mem_replicate hc]
  rfl

theorem isLineBreak_gap (width : Nat) (s : Text) : ∀ c ∈ gap width s, isLineBreak c = false := by
  intro c hc
  rw [List.eq_of_mem_replicate hc]
  rfl

theorem length_gap (width : Nat) (s : Text) : (gap width s).length = width - s.length + 1 :=
  List.length_replicate

theorem padRight_append (width : Nat) (s t : Text) :
    padRight width s ++ ' ' :: t = s ++ gap width s ++ t := by
  unfold padRight gap
  rw [List.replicate_succ', List.append_assoc, List.append_assoc, List.append_assoc,
    List.singleton_append]

theorem tableRow_eq (id name vpnIp status upload download lastSeen : Text) :
    tableRow id name vpnIp status upload download lastSeen =
      id ++ gap 18 id ++ (name ++ gap 20 name ++ (vpnIp ++ gap 12 vpnIp ++ (status ++ gap 8 status ++
        (upload ++ gap 12 upload ++ (download ++ gap 12 download ++ lastSeen))))) := by
  unfold tableRow
  simp only [padRight_append, List.append_assoc]

/-- A text in one line that the panel reads as one field. -/
structure IsField (s : Text) : Prop where
  solid : Solid isSpace s
  single : splitRuns isSpace s = [s]
  line : ∀ c ∈ s, isLineBreak c = false

theorem isField_of_forall {s : Text} (hne : s ≠ []) (h : ∀ c ∈ s, isSpace c = false) : IsField s :=
  ⟨solid_of_forall hne h, splitRuns_of_forall h, fun c hc => isLineBreak_of_not_isSpace (h c hc)⟩

/-- Two words with one blank in between. -/
theorem isField_words {s t : Text} (hs : s ≠ [] ∧ ∀ c ∈ s, isSpace c = false)
    (ht : t ≠ [] ∧ ∀ c ∈ t, isSpace c = false) : IsField (s ++ ' ' :: t) := by
  have hblank : ∀ c ∈ [' '], isSpace c = true := fun c hc => by
    rw [List.mem_singleton.1 hc]
    rfl
  have hfirst := isField_of_forall hs.1 hs.2
  have hsecond := isField_of_forall ht.1 ht.2
  have hsplit := splitRuns_field_append hfirst.solid hfirst.single hblank hsecond.solid
  have hsolid := hfirst.solid.append hsecond.solid [' ']
  rw [if_neg (by decide), hsecond.single, List.append_assoc] at hsplit
  rw [List.append_assoc] at hsolid
  refine ⟨hsolid, hsplit.trans ?_, ?_⟩
  · rw [prepend, List.append_assoc]
    rfl
  · exact List.forall_mem_append.2 ⟨hfirst.line, List.forall_mem_cons.2 ⟨rfl, hsecond.line⟩⟩

theorem isField_formatBytes (bytes : UInt64) : IsField (formatBytes bytes) := by
  obtain ⟨num, unit, heq, hnum, hunit⟩ := formatBytes_eq bytes
  rw [heq]
  exact isField_words ⟨hnum.1, isSpace_of_numeral hnum⟩ (isSpace_of_unit hunit)

theorem isField_lastSeenText (clock : Clock) (c : ClientRecord) :
    IsField (lastSeenText clock.format c) := by
  unfold lastSeenText
  cases c.stats.lastConnected with
  | none =>
      have hnever : IsField "never".toList := isField_of_forall (by decide) (forall_of_all (by decide))
      exact hnever
  | some t =>
      obtain ⟨date, time, heq, hdate, htime, hblank⟩ := clock.format_eq t
      simp only [heq]
      exact isField_words ⟨hdate, fun c hc => hblank c (List.mem_append_left _ hc)⟩
        ⟨htime, fun c hc => hblank c (List.mem_append_right _ hc)⟩

theorem isField_statusText (c : ClientRecord) : IsField (statusText c) := by
  unfold statusText
  cases c.enabled <;> exact isField_of_forall (by decide) (forall_of_all (by decide))

/-- The fields behind the address. They are the four texts, or two or three that end with the time, or
the last one is more than the time. -/
theorem splitRuns_tail {status upload download lastSeen : Text} (hstatus : IsField status)
    (hupload : IsField upload) (hdownload : IsField download) (hlast : IsField lastSeen) :
    ∃ fields, splitRuns isSpace (status ++ gap 8 status ++ (upload ++ gap 12 upload ++
        (download ++ gap 12 download ++ lastSeen))) = fields ∧
      ((status.length < 8 ∧ upload.length < 12 ∧ download.length < 12 ∧
          fields = [status, upload, download, lastSeen]) ∨
        (¬ (status.length < 8 ∧ upload.length < 12) ∧ download.length < 12 ∧
          ∃ x xs, fields = x :: xs ++ [lastSeen] ∧ status <+: x ∧ xs.length ≤ 1) ∨
        (12 ≤ download.length ∧
          ∃ xs x, fields = xs ++ [x ++ lastSeen] ∧ x ≠ [] ∧ Solid isSpace (x ++ lastSeen))) := by
  have hsolid₁ := hdownload.solid.append hlast.solid (gap 12 download)
  have hsolid₂ := hupload.solid.append hsolid₁ (gap 12 upload)
  have hsolid₃ := hstatus.solid.append hsolid₂ (gap 8 status)
  have hwide (w : Nat) (s : Text) : 2 ≤ (gap w s).length ↔ s.length < w := by
    rw [length_gap]
    omega
  refine ⟨_, rfl, ?_⟩
  rw [splitRuns_field_append hstatus.solid hstatus.single (isSpace_gap _ _) hsolid₂,
    splitRuns_field_append hupload.solid hupload.single (isSpace_gap _ _) hsolid₁,
    splitRuns_field_append hdownload.solid hdownload.single (isSpace_gap _ _) hlast.solid, hlast.single]
  simp only [hwide]
  by_cases hd : download.length < 12
  · simp only [if_pos hd]
    by_cases hboth : status.length < 8 ∧ upload.length < 12
    · rw [if_pos hboth.1, if_pos hboth.2]
      exact Or.inl ⟨hboth.1, hboth.2, hd, rfl⟩
    · refine Or.inr (Or.inl ⟨hboth, hd, ?_⟩)
      by_cases hs : status.length < 8
      · rw [if_pos hs, if_neg fun hu => hboth ⟨hs, hu⟩]
        exact ⟨status, [_], rfl, List.prefix_rfl, le_refl 1⟩
      · rw [if_neg hs]
        -- the status runs on into the upload, and the upload perhaps into the download
        split_ifs
        · refine ⟨_, [download], rfl, ?_, le_refl 1⟩
          rw [List.append_assoc]
          exact List.prefix_append _ _
        · refine ⟨_, [], rfl, ?_, Nat.zero_le 1⟩
          rw [List.append_assoc]
          exact List.prefix_append _ _
  · refine Or.inr (Or.inr ⟨Nat.le_of_not_lt hd, ?_⟩)
    simp only [if_neg hd]
    have hne {s t : Text} (hs : Solid isSpace s) : s ++ t ≠ [] := fun h =>
      hs.ne_nil (List.append_eq_nil_iff.1 h).1
    split_ifs
    · -- what runs into the time: the download, or all from the upload or the status on
      exact ⟨[status, upload], _, rfl, hne hdownload.solid, hsolid₁⟩
    · refine ⟨[status], upload ++ gap 12 upload ++ (download ++ gap 12 download), ?_, ?_, ?_⟩
      · simp only [prepend, List.append_assoc]
        rfl
      · rw [List.append_assoc]
        exact hne hupload.solid
      · simpa only [List.append_assoc] using hsolid₂
    · refine ⟨[status ++ gap 8 status ++ upload], download ++ gap 12 download, rfl,
        hne hdownload.solid, hsolid₁⟩
    · refine ⟨[], status ++ gap 8 status ++ (upload ++ gap 12 upload ++
        (download ++ gap 12 download)), ?_, ?_, ?_⟩
      · simp only [prepend, List.append_assoc]
        rfl
      · rw [List.append_assoc]
        exact hne hstatus.solid
      · simpa only [List.append_assoc] using hsolid₃

/-! ## The name -/

/-- The fields of a name. -/
def nameFields (name : Text) : List Text :=
  if strip name = [] then [] else splitRuns isSpace (strip name)

/-- The number of fields that the name and the address behind it make up: one more than the name
has, or as many if the name leaves a single blank. -/
def columns (name : Text) : Nat :=
  (nameFields name).length +
    if 2 ≤ (name.reverse.takeWhile isSpace).length + (gap 20 name).length then 1 else 0

/-- The fields of the first three columns. -/
theorem splitRuns_head {id name vpnIp rest : Text} (hid : IsField id) (hidLength : id.length < 18)
    (hip : IsField vpnIp) (hipLength : vpnIp.length < 12) (hrest : Solid isSpace rest) :
    ∃ front x, splitRuns isSpace (id ++ gap 18 id ++ (name ++ gap 20 name ++
        (vpnIp ++ gap 12 vpnIp ++ rest))) =
          id :: front ++ (x ++ vpnIp) :: splitRuns isSpace rest ∧
      columns name = front.length + 1 ∧ ∀ i < front.length, (nameFields name)[i]? = front[i]? := by
  have hsolid := hip.solid.append hrest (gap 12 vpnIp)
  have hipFields := splitRuns_field_append hip.solid hip.single (isSpace_gap 12 vpnIp) hrest
  rw [if_pos (by rw [length_gap]; omega)] at hipFields
  rcases blank_or_solid isSpace name with hblank | ⟨lead, core, trail, rfl, hlead, hcore, htrail⟩
  · refine ⟨[], [], ?_, ?_, fun i hi => absurd hi (Nat.not_lt_zero i)⟩
    · -- everything between the id and the address is blank
      have hsep : ∀ c ∈ gap 18 id ++ (name ++ gap 20 name), isSpace c = true := by
        intro c hc
        rcases List.mem_append.1 hc with hc | hc
        · exact isSpace_gap _ _ c hc
        · rcases List.mem_append.1 hc with hc | hc
          · exact hblank c hc
          · exact isSpace_gap _ _ c hc
      have hsplit := splitRuns_field_append hid.solid hid.single hsep hsolid
      rw [if_pos (by rw [List.length_append, length_gap]; omega), hipFields] at hsplit
      simpa only [List.append_assoc, List.nil_append, List.singleton_append] using hsplit
    · have htake : name.reverse.takeWhile isSpace = name.reverse :=
        List.takeWhile_eq_self_iff.2 fun c hc => hblank c (List.mem_reverse.1 hc)
      have hnone : nameFields name = [] := if_pos (trimBy_of_forall hblank)
      rw [columns, htake, hnone, length_gap, List.length_reverse, if_pos (by omega)]
  · have hfields : nameFields (lead ++ core ++ trail) = splitRuns isSpace core := by
      unfold nameFields strip
      rw [trimBy_append hlead hcore htrail, if_neg hcore.ne_nil]
    have hleadSep : ∀ c ∈ gap 18 id ++ lead, isSpace c = true := fun c hc =>
      (List.mem_append.1 hc).elim (isSpace_gap _ _ c) (hlead c)
    have htrailSep : ∀ c ∈ trail ++ gap 20 (lead ++ core ++ trail), isSpace c = true := fun c hc =>
      (List.mem_append.1 hc).elim (htrail c) (isSpace_gap _ _ c)
    have hcoreSolid := hcore.append hsolid (trail ++ gap 20 (lead ++ core ++ trail))
    have hsplit := splitRuns_field_append hid.solid hid.single hleadSep hcoreSolid
    rw [if_pos (by rw [List.length_append, length_gap]; omega)] at hsplit
    have hrow : id ++ gap 18 id ++ (lead ++ core ++ trail ++ gap 20 (lead ++ core ++ trail) ++
        (vpnIp ++ gap 12 vpnIp ++ rest)) = id ++ (gap 18 id ++ lead) ++
          (core ++ (trail ++ gap 20 (lead ++ core ++ trail)) ++ (vpnIp ++ gap 12 vpnIp ++ rest)) := by
      simp only [List.append_assoc]
    rw [hrow, hsplit, columns, hfields, takeWhile_reverse hcore htrail, List.length_reverse,
      ← List.length_append]
    by_cases hroom : 2 ≤ (trail ++ gap 20 (lead ++ core ++ trail)).length
    · refine ⟨splitRuns isSpace core, [], ?_, ?_, fun _ _ => rfl⟩
      · rw [splitRuns_append hcore htrailSep hroom hsolid, hipFields]
        rfl
      · rw [if_pos hroom]
    · obtain ⟨init, lst, hcoreFields, hglued⟩ :=
        splitRuns_append_blank hcore htrailSep (Nat.lt_of_not_le hroom) hsolid
      refine ⟨init, lst ++ (trail ++ gap 20 (lead ++ core ++ trail)), ?_, ?_, ?_⟩
      · rw [hglued, hipFields]
        rfl
      · rw [if_neg hroom, hcoreFields, List.length_append]
        rfl
      · intro i hi
        rw [hcoreFields, List.getElem?_append_left hi]

/-! ## One row -/

theorem isNumeral_ipText (ip : Ipv4Addr) : IsNumeral (ipText ip) := by
  have hpoint {s t : Text} (hs : IsNumeral s) (ht : IsNumeral t) : IsNumeral (s ++ '.' :: t) := by
    refine ⟨fun h => hs.1 (List.append_eq_nil_iff.1 h).1, fun c hc => ?_⟩
    rcases List.mem_append.1 hc with hc | hc
    · exact hs.2 c hc
    · rcases List.mem_cons.1 hc with rfl | hc
      · exact Or.inr rfl
      · exact ht.2 c hc
  exact hpoint (hpoint (hpoint (isNumeral_decimal _) (isNumeral_decimal _)) (isNumeral_decimal _))
    (isNumeral_decimal _)

theorem isField_ipText (ip : Ipv4Addr) : IsField (ipText ip) :=
  isField_of_forall (isNumeral_ipText ip).1 (isSpace_of_numeral (isNumeral_ipText ip))

theorem length_ipText (octet : UInt8) : (ipText ⟨10, 0, 0, octet⟩).length < 12 := by
  have hoctet : (decimal octet.toNat).length ≤ 3 :=
    (length_decimal_le_iff _ (by decide)).2 (Nat.lt_trans octet.toNat_lt (by decide))
  have hnetwork : decimal (10 : UInt8).toNat ++ '.' :: decimal (0 : UInt8).toNat ++
      '.' :: decimal (0 : UInt8).toNat = "10.0.0".toList := by decide
  unfold ipText
  rw [hnetwork, List.length_append, List.length_cons]
  show 6 + ((decimal octet.toNat).length + 1) < 12
  omega

/-- A byte counter ends with its unit, and an address with a digit. -/
theorem append_ne_formatBytes {x ip : Text} (hip : IsNumeral ip) (bytes : UInt64) :
    x ++ ip ≠ formatBytes bytes := by
  obtain ⟨num, unit, heq, -, hunit⟩ := formatBytes_eq bytes
  have hlast : (formatBytes bytes).getLast? = some 'B' := by
    rw [heq, List.getLast?_append]
    simp only [List.mem_cons, List.not_mem_nil, or_false] at hunit
    rcases hunit with rfl | rfl | rfl | rfl <;> rfl
  intro h
  rw [← h, List.getLast?_append, List.getLast?_eq_some_getLast hip.1, Option.some_or] at hlast
  have hmem := List.getLast_mem hip.1
  rw [Option.some.inj hlast] at hmem
  rcases hip.2 'B' hmem with hdigit | hpoint
  · cases hdigit
  · cases hpoint

/-- A byte counter starts with a digit, and a status with a letter. -/
theorem ne_formatBytes_of_status {c : ClientRecord} {x : Text} (h : statusText c <+: x)
    (bytes : UInt64) : x ≠ formatBytes bytes := by
  obtain ⟨num, unit, heq, hnum, -⟩ := formatBytes_eq bytes
  obtain ⟨t, rfl⟩ := h
  obtain ⟨d, num', rfl⟩ := List.exists_cons_of_ne_nil hnum.1
  rw [heq]
  intro hsame
  have hhead := congrArg List.head? hsame
  have hd := hnum.2 d List.mem_cons_self
  unfold statusText at hhead
  split_ifs at hhead
  · have hletter : 'a' = d := Option.some.inj hhead
    rw [← hletter] at hd
    exact absurd hd (by decide)
  · have hletter : 'd' = d := Option.some.inj hhead
    rw [← hletter] at hd
    exact absurd hd (by decide)

theorem readRow_of_solid {line : Text} (hsolid : Solid isSpace line)
    (htotal : ¬ "Total:".toList <+: line) :
    readRow line =
      let parts := splitRuns isSpace line
      if 7 ≤ parts.length then
        some ⟨parts.getD 0 [], parts.getD 4 [], parts.getD 5 [], strip (parts.getLastD [])⟩
      else none := by
  unfold readRow strip
  rw [trimBy_of_solid hsolid, if_neg (fun h => h.elim hsolid.ne_nil htotal)]

/-- What a row is meant to say. -/
def rowEntry (clock : Clock) (c : ClientRecord) : RowEntry :=
  ⟨c.id.toList, uploadText c, downloadText c, lastSeenText clock.format c⟩

/-- The counters stand in the fifth and the sixth of at least seven fields when the name and the
address are two fields and four follow, or when they are fields of a long name themselves. -/
theorem counters_iff {c : ClientRecord} {front fields parts : List Text} {id x ip lastSeen : Text}
    (hparts : parts = id :: front ++ (x ++ ip) :: fields)
    (hip : IsNumeral ip)
    (hfields : (statusText c).length < 8 ∧ (uploadText c).length < 12 ∧
        fields = [statusText c, uploadText c, downloadText c, lastSeen] ∨
      ¬ ((statusText c).length < 8 ∧ (uploadText c).length < 12) ∧
        ∃ y ys, fields = y :: ys ++ [lastSeen] ∧ statusText c <+: y ∧ ys.length ≤ 1) :
    (7 ≤ parts.length ∧ parts.getD 4 [] = uploadText c ∧ parts.getD 5 [] = downloadText c) ↔
      (front.length = 1 ∧ (statusText c).length < 8 ∧ (uploadText c).length < 12 ∨
        5 ≤ front.length ∧ front[3]? = some (uploadText c) ∧ front[4]? = some (downloadText c)) := by
  have hupload : x ++ ip ≠ uploadText c := append_ne_formatBytes hip _
  have hdownload : x ++ ip ≠ downloadText c := append_ne_formatBytes hip _
  have hlength : fields.length ≤ 4 := by
    rcases hfields with ⟨-, -, rfl⟩ | ⟨-, y, ys, rfl, -, hys⟩
    · exact le_refl 4
    · simp only [List.length_append, List.length_cons, List.length_nil]
      omega
  subst hparts
  match front with
  | [] =>
      refine iff_of_false (fun h => ?_) (by simp only [List.length_nil]; omega)
      have hseven : 7 ≤ fields.length + 1 + 1 := h.1
      omega
  | [name] =>
      rcases hfields with ⟨hstatus, hup, rfl⟩ | ⟨hnarrow, y, ys, rfl, -, hys⟩
      · exact iff_of_true ⟨le_refl 7, rfl, rfl⟩ (Or.inl ⟨rfl, hstatus, hup⟩)
      · refine iff_of_false (fun h => ?_) ?_
        · have hseven : 7 ≤ (y :: ys ++ [lastSeen]).length + 1 + 1 + 1 := h.1
          simp only [List.length_append, List.length_cons, List.length_nil] at hseven
          omega
        · rintro (⟨-, hwide⟩ | ⟨hfive, -⟩)
          · exact hnarrow hwide
          · simp only [List.length_cons, List.length_nil] at hfive
            omega
  | [name₁, name₂] =>
      -- the status stands where the upload is read
      refine iff_of_false (fun h => ?_) (by simp only [List.length_cons, List.length_nil]; omega)
      rcases hfields with ⟨-, -, rfl⟩ | ⟨-, y, ys, rfl, hy, -⟩
      · exact ne_formatBytes_of_status List.prefix_rfl _ h.2.1
      · exact ne_formatBytes_of_status hy _ h.2.1
  | [name₁, name₂, name₃] =>
      refine iff_of_false (fun h => hupload h.2.1) ?_
      simp only [List.length_cons, List.length_nil]
      omega
  | [name₁, name₂, name₃, name₄] =>
      refine iff_of_false (fun h => hdownload h.2.2) ?_
      simp only [List.length_cons, List.length_nil]
      omega
  | name₁ :: name₂ :: name₃ :: name₄ :: name₅ :: front =>
      constructor
      · rintro ⟨-, hup, hdown⟩
        exact Or.inr ⟨Nat.le_add_left 5 front.length, congrArg some hup, congrArg some hdown⟩
      · rintro (⟨hone, -⟩ | ⟨-, hup, hdown⟩)
        · simp only [List.length_cons] at hone
          omega
        · refine ⟨?_, Option.some.inj hup, Option.some.inj hdown⟩
          show 7 ≤ (id :: (name₁ :: name₂ :: name₃ :: name₄ :: name₅ :: front) ++
            (x ++ ip) :: fields).length
          simp only [List.length_append, List.length_cons]
          omega

theorem isField_id {c : ClientRecord} (hc : Registered c) :
    IsField c.id.toList ∧ c.id.toList.length < 18 ∧ ¬ "Total:".toList <+: c.id.toList := by
  obtain ⟨idBytes, octet, hid, -⟩ := hc
  have hlength := length_hexId idBytes
  have hhex : ∀ d ∈ "0123456789abcdef".toList, isSpace d = false := forall_of_all (by decide)
  have hupper : 'T' ∉ "0123456789abcdef".toList := by decide
  rw [hid]
  refine ⟨isField_of_forall ?_ fun d hd => hhex d (mem_hexId hd), by omega, ?_⟩
  · intro hnil
    rw [hnil] at hlength
    cases hlength
  · intro hstart
    exact hupper (mem_hexId (hstart.subset List.mem_cons_self))

theorem statusText_length_lt_iff (c : ClientRecord) :
    (statusText c).length < 8 ↔ c.enabled = true := by
  unfold statusText
  cases c.enabled <;> decide

/-- What it takes to read the entry of a client from the fields of a line. -/
theorem entry_iff (clock : Clock) {c : ClientRecord} {parts rest : List Text}
    (hparts : parts = c.id.toList :: rest) :
    (if 7 ≤ parts.length then
        some (⟨parts.getD 0 [], parts.getD 4 [], parts.getD 5 [], strip (parts.getLastD [])⟩ : RowEntry)
      else none) = some (rowEntry clock c) ↔
      (7 ≤ parts.length ∧ parts.getD 4 [] = uploadText c ∧ parts.getD 5 [] = downloadText c) ∧
        strip (parts.getLastD []) = lastSeenText clock.format c := by
  have hid : parts.getD 0 [] = c.id.toList := by
    rw [hparts]
    rfl
  rw [hid]
  by_cases hseven : 7 ≤ parts.length
  · rw [if_pos hseven, Option.some.injEq, rowEntry, RowEntry.mk.injEq]
    tauto
  · rw [if_neg hseven]
    exact iff_of_false (fun h => nomatch h) fun h => hseven h.1.1

/-- The row of a client, its fields and how they come about. -/
theorem exists_fields (clock : Clock) {c : ClientRecord} (hc : Registered c) :
    Solid isSpace (clientRow clock.format c) ∧ ¬ "Total:".toList <+: clientRow clock.format c ∧
    ∃ front x fields, splitRuns isSpace (clientRow clock.format c) =
        c.id.toList :: front ++ (x ++ ipText c.vpnIp) :: fields ∧
      columns c.name.toList = front.length + 1 ∧
      (∀ i < front.length, (nameFields c.name.toList)[i]? = front[i]?) ∧
      ((statusText c).length < 8 ∧ (uploadText c).length < 12 ∧ (downloadText c).length < 12 ∧
          fields = [statusText c, uploadText c, downloadText c, lastSeenText clock.format c] ∨
        ¬ ((statusText c).length < 8 ∧ (uploadText c).length < 12) ∧ (downloadText c).length < 12 ∧
          (∃ y ys, fields = y :: ys ++ [lastSeenText clock.format c] ∧ statusText c <+: y ∧
            ys.length ≤ 1) ∨
        12 ≤ (downloadText c).length ∧ ∃ ys y, fields = ys ++ [y ++ lastSeenText clock.format c] ∧
          y ≠ [] ∧ Solid isSpace (y ++ lastSeenText clock.format c)) := by
  obtain ⟨hid, hidLength, htotal⟩ := isField_id hc
  obtain ⟨idBytes, octet, hid', hip⟩ := hc
  have hipLength : (ipText c.vpnIp).length < 12 := by
    rw [hip]
    exact length_ipText octet
  have hipField := isField_ipText c.vpnIp
  have hstatus := isField_statusText c
  have hupload : IsField (uploadText c) := isField_formatBytes _
  have hdownload : IsField (downloadText c) := isField_formatBytes _
  have hlast := isField_lastSeenText clock c
  have hrest := hstatus.solid.append (hupload.solid.append (hdownload.solid.append hlast.solid
    (gap 12 (downloadText c))) (gap 12 (uploadText c))) (gap 8 (statusText c))
  obtain ⟨fields, hfields, hcases⟩ := splitRuns_tail hstatus hupload hdownload hlast
  obtain ⟨front, x, hsplit, hcolumns, hname⟩ :=
    @splitRuns_head _ c.name.toList _ _ hid hidLength hipField hipLength hrest
  have hrow : clientRow clock.format c = _ := tableRow_eq _ _ _ _ _ _ _
  refine ⟨?_, ?_, front, x, fields, ?_, hcolumns, hname, hcases⟩
  · rw [hrow]
    have hend := hipField.solid.append hrest (gap 12 (ipText c.vpnIp))
    have hsolid := hid.solid.append hend (gap 18 c.id.toList ++ (c.name.toList ++
      gap 20 c.name.toList))
    simpa only [List.append_assoc] using hsolid
  · -- the first characters of a row are those of the id
    intro hstart
    rw [hrow, List.append_assoc] at hstart
    have hidLong : "Total:".toList.length ≤ c.id.toList.length := by
      rw [hid', length_hexId]
      decide
    exact htotal (List.prefix_of_prefix_length_le hstart (List.prefix_append _ _) hidLong)
  · rw [hrow, hsplit, hfields]

/-- The row of a registered client is read as it was meant exactly under this condition on its
columns. -/
theorem readRow_clientRow_iff (clock : Clock) {c : ClientRecord} (hc : Registered c) :
    readRow (clientRow clock.format c) = some (rowEntry clock c) ↔
      (downloadText c).length < 12 ∧
        (columns c.name.toList = 2 ∧ c.enabled = true ∧ (uploadText c).length < 12 ∨
          6 ≤ columns c.name.toList ∧ (nameFields c.name.toList)[3]? = some (uploadText c) ∧
            (nameFields c.name.toList)[4]? = some (downloadText c)) := by
  obtain ⟨hsolid, htotal, front, x, fields, hsplit, hcolumns, hname, hcases⟩ := exists_fields clock hc
  have hlast := isField_lastSeenText clock c
  rw [readRow_of_solid hsolid htotal]
  simp only
  rw [entry_iff clock (hsplit.trans (List.cons_append ..))]
  by_cases hdown : (downloadText c).length < 12
  · have hfields : (statusText c).length < 8 ∧ (uploadText c).length < 12 ∧
        fields = [statusText c, uploadText c, downloadText c, lastSeenText clock.format c] ∨
      ¬ ((statusText c).length < 8 ∧ (uploadText c).length < 12) ∧
        ∃ y ys, fields = y :: ys ++ [lastSeenText clock.format c] ∧ statusText c <+: y ∧
          ys.length ≤ 1 := by
      rcases hcases with ⟨hstatus, hup, -, heq⟩ | ⟨hnarrow, -, hglued⟩ | ⟨hwide, -⟩
      · exact Or.inl ⟨hstatus, hup, heq⟩
      · exact Or.inr ⟨hnarrow, hglued⟩
      · omega
    have hend : ∃ init, fields = init ++ [lastSeenText clock.format c] := by
      rcases hfields with ⟨-, -, rfl⟩ | ⟨-, y, ys, rfl, -, -⟩
      · exact ⟨[statusText c, uploadText c, downloadText c], rfl⟩
      · exact ⟨y :: ys, rfl⟩
    have hstrip : strip ((splitRuns isSpace (clientRow clock.format c)).getLastD []) =
        lastSeenText clock.format c := by
      obtain ⟨init, rfl⟩ := hend
      rw [hsplit, ← List.cons_append, ← List.append_assoc, List.getLastD_concat]
      exact trimBy_of_solid hlast.solid
    have hnamed : 5 ≤ front.length → (nameFields c.name.toList)[3]? = front[3]? ∧
        (nameFields c.name.toList)[4]? = front[4]? := fun h =>
      ⟨hname 3 (by omega), hname 4 (by omega)⟩
    rw [counters_iff hsplit (isNumeral_ipText _) hfields,
      statusText_length_lt_iff, hcolumns, and_iff_left hstrip, and_iff_right hdown]
    refine or_congr (and_congr (by omega) Iff.rfl) ?_
    constructor
    · rintro ⟨hfive, hup, hdown'⟩
      rw [(hnamed hfive).1, (hnamed hfive).2]
      exact ⟨Nat.succ_le_succ hfive, hup, hdown'⟩
    · rintro ⟨hsix, hfront⟩
      rw [(hnamed (by omega)).1, (hnamed (by omega)).2] at hfront
      exact ⟨Nat.le_of_succ_le_succ hsix, hfront⟩
  · refine iff_of_false (fun h => ?_) fun h => hdown h.1
    -- the last field is more than the time
    rcases hcases with ⟨-, -, hnarrow, -⟩ | ⟨-, hnarrow, -⟩ | ⟨-, ys, y, rfl, hy, hsolidLast⟩
    · exact hdown hnarrow
    · exact hdown hnarrow
    · have hstrip := h.2
      rw [hsplit, ← List.cons_append, ← List.append_assoc, List.getLastD_concat, strip,
        trimBy_of_solid hsolidLast] at hstrip
      exact hy (List.append_left_eq_self.1 hstrip)

/-! ## The whole table -/

/-- A row is one line if the name is. -/
theorem clientRow_line_iff (clock : Clock) {c : ClientRecord} (hc : Registered c) :
    (∀ ch ∈ clientRow clock.format c, isLineBreak ch = false) ↔
      ∀ ch ∈ c.name.toList, isLineBreak ch = false := by
  obtain ⟨hid, -⟩ := isField_id hc
  have hupload : IsField (uploadText c) := isField_formatBytes _
  have hdownload : IsField (downloadText c) := isField_formatBytes _
  unfold clientRow
  rw [tableRow_eq]
  simp only [List.forall_mem_append]
  constructor
  · intro h
    exact h.2.1.1
  · intro hname
    exact ⟨⟨hid.line, isLineBreak_gap _ _⟩, ⟨hname, isLineBreak_gap _ _⟩,
      ⟨(isField_ipText _).line, isLineBreak_gap _ _⟩,
      ⟨(isField_statusText c).line, isLineBreak_gap _ _⟩, ⟨hupload.line, isLineBreak_gap _ _⟩,
      ⟨hdownload.line, isLineBreak_gap _ _⟩, (isField_lastSeenText clock c).line⟩

theorem splitLines_output {lines : List Text} (h : ∀ l ∈ lines, ∀ c ∈ l, isLineBreak c = false)
    (s : Text) : splitLines (output lines ++ s) = lines ++ splitLines s := by
  induction lines with
  | nil => rfl
  | cons l lines ih =>
      have hrest := ih fun l' hl' => h l' (List.mem_cons_of_mem _ hl')
      rw [output, List.flatMap_cons, List.append_assoc, List.append_assoc, List.singleton_append,
        splitLines_append (h l List.mem_cons_self), List.cons_append, ← hrest]
      rfl

/-- The last line of the table. -/
def totalLine (n : Nat) : Text := "Total: ".toList ++ decimal n ++ " client(s)".toList

theorem solid_totalLine (n : Nat) : Solid isSpace (totalLine n) where
  first := ⟨'T', _, rfl, rfl⟩
  last := by
    refine ⟨"Total: ".toList ++ decimal n ++ " client(s".toList, ')', ?_, rfl⟩
    rw [List.append_assoc _ _ [')']]
    rfl

theorem isLineBreak_totalLine (n : Nat) : ∀ c ∈ totalLine n, isLineBreak c = false := by
  refine List.forall_mem_append.2 ⟨List.forall_mem_append.2 ⟨forall_of_all (by decide), fun c hc => ?_⟩,
    forall_of_all (by decide)⟩
  exact isLineBreak_of_not_isSpace (isSpace_of_isDigit (isDigit_of_mem_decimal hc))

theorem readRow_totalLine (n : Nat) : readRow (totalLine n) = none :=
  if_pos (Or.inr ⟨' ' :: (decimal n ++ " client(s)".toList), rfl⟩)

/-- The titles of the columns. -/
def titles : Text :=
  tableRow "ID".toList "NAME".toList "VPN IP".toList "STATUS".toList "UPLOAD".toList
    "DOWNLOAD".toList "LAST SEEN".toList

theorem solid_titles : Solid isSpace titles := by
  have hfirst : Solid isSpace "ID".toList := solid_of_forall (by decide) (forall_of_all (by decide))
  have hlast : Solid isSpace "SEEN".toList := solid_of_forall (by decide) (forall_of_all (by decide))
  have hmid : titles = "ID".toList ++ (titles.drop 2).take (titles.length - 6) ++ "SEEN".toList := by
    decide
  rw [hmid]
  exact hfirst.append hlast _

/-- The lines in front of the total. -/
def linesAbove (rows : List Text) : List Text :=
  titles :: List.replicate 100 '-' :: (rows ++ [[]])

theorem handleListClients_eq (formatTime : Nat → Text) {clients : List ClientRecord}
    (hne : clients ≠ []) : handleListClients formatTime clients =
      linesAbove (clients.map (clientRow formatTime)) ++ [totalLine clients.length] := by
  have hrest : ∀ rows : List Text, titles :: List.replicate 100 '-' :: rows ++
      [[], totalLine clients.length] = linesAbove rows ++ [totalLine clients.length] := fun rows => by
    simp only [linesAbove, List.cons_append, List.append_assoc, List.nil_append]
  rw [handleListClients, if_neg (by rwa [List.isEmpty_iff]), ← hrest]
  rfl

/-- Of a table, the rows give entries. -/
theorem collectRows_linesAbove {rows : List Text} (h : ∀ l ∈ rows, ∀ c ∈ l, isLineBreak c = false)
    (n : Nat) : collectRows (output (linesAbove rows ++ [totalLine n])) = rows.filterMap readRow := by
  have habove : ∀ l ∈ linesAbove rows, ∀ c ∈ l, isLineBreak c = false := by
    refine List.forall_mem_cons.2 ⟨forall_of_all (by decide), List.forall_mem_cons.2 ⟨fun c hc => ?_, ?_⟩⟩
    · rw [List.eq_of_mem_replicate hc]
      rfl
    · refine List.forall_mem_append.2 ⟨h, fun l hl => ?_⟩
      rw [List.mem_singleton.1 hl]
      exact fun c hc => nomatch hc
  -- the line feed behind the total is trimmed off
  have hout : output (linesAbove rows ++ [totalLine n]) =
      [] ++ (output (linesAbove rows) ++ totalLine n) ++ ['\n'] := by
    simp only [output, List.flatMap_append, List.flatMap_singleton, List.nil_append,
      List.append_assoc]
  have hsolid : Solid isSpace (output (linesAbove rows) ++ totalLine n) := by
    have hends := solid_titles.append (solid_totalLine n)
      ('\n' :: output (List.replicate 100 '-' :: (rows ++ [[]])))
    rwa [← List.singleton_append, ← List.append_assoc titles] at hends
  have hstrip : strip (output (linesAbove rows ++ [totalLine n])) =
      output (linesAbove rows) ++ totalLine n := by
    rw [hout]
    exact trimBy_append (fun _ hc => nomatch hc) hsolid (List.forall_mem_singleton.2 rfl)
  rw [collectRows, hstrip, splitLines_output habove,
    splitLines_of_forall (solid_totalLine n).ne_nil (isLineBreak_totalLine n)]
  have hdrop : (linesAbove rows ++ [totalLine n]).drop 2 = rows ++ [[]] ++ [totalLine n] := rfl
  have hblank : readRow [] = none := by decide
  rw [hdrop, List.filterMap_append, List.filterMap_append, List.filterMap_cons_none hblank,
    List.filterMap_cons_none (readRow_totalLine n), List.filterMap_nil, List.append_nil,
    List.append_nil]

/-- Only the rows of clients give entries. -/
theorem collectRows_output (clock : Clock) {clients : List ClientRecord}
    (hline : ∀ c ∈ clients, ∀ ch ∈ clientRow clock.format c, isLineBreak ch = false) :
    collectRows (output (handleListClients clock.format clients)) =
      clients.filterMap fun c => readRow (clientRow clock.format c) := by
  by_cases hne : clients = []
  · have hnone : collectRows (output (handleListClients (fun _ => []) [])) = [] := by decide +kernel
    have hempty : handleListClients clock.format [] = handleListClients (fun _ => []) [] := rfl
    rw [hne, hempty, hnone]
    rfl
  · have hrows : ∀ l ∈ clients.map (clientRow clock.format), ∀ ch ∈ l, isLineBreak ch = false :=
      List.forall_mem_map.2 hline
    rw [handleListClients_eq _ hne, collectRows_linesAbove hrows, List.filterMap_map,
      Function.comp_def]

/-- The panel reads the table as it was meant: a row is one line, its entry is that of the client, the
counters are worth what they say, and no other line gives an entry. -/
structure Reads (py : PyFloat) (clock : Clock) (clients : List ClientRecord) : Prop where
  line : ∀ c ∈ clients, splitLines (clientRow clock.format c) = [clientRow clock.format c]
  entry : ∀ c ∈ clients, readRow (clientRow clock.format c) = some (rowEntry clock c)
  upload : ∀ c ∈ clients, parseBytes py (rowEntry clock c).upload = printedValue py c.stats.bytesOut
  download : ∀ c ∈ clients, parseBytes py (rowEntry clock c).download = printedValue py c.stats.bytesIn
  table : collectRows (output (handleListClients clock.format clients)) =
    clients.map (rowEntry clock)

/-- The name brings no line break, the download fits its column, and so do the name, the status and
the upload, unless the name holds both counters where they are looked for. -/
structure Readable (c : ClientRecord) : Prop where
  line : ∀ ch ∈ c.name.toList, isLineBreak ch = false
  download : c.stats.bytesIn.toNat < 1073741770312909
  fields : columns c.name.toList = 2 ∧ c.enabled = true ∧ c.stats.bytesOut.toNat < 1073741770312909 ∨
    6 ≤ columns c.name.toList ∧ (nameFields c.name.toList)[3]? = some (uploadText c) ∧
      (nameFields c.name.toList)[4]? = some (downloadText c)

theorem readable_iff (clock : Clock) {c : ClientRecord} (hc : Registered c) :
    Readable c ↔ splitLines (clientRow clock.format c) = [clientRow clock.format c] ∧
      readRow (clientRow clock.format c) = some (rowEntry clock c) := by
  obtain ⟨hsolid, -⟩ := exists_fields clock hc
  have hup : (uploadText c).length < 12 ↔ _ :=
    Nat.lt_succ_iff.trans (length_formatBytes_le_iff c.stats.bytesOut)
  have hdown : (downloadText c).length < 12 ↔ _ :=
    Nat.lt_succ_iff.trans (length_formatBytes_le_iff c.stats.bytesIn)
  rw [splitLines_eq_singleton_iff hsolid.ne_nil, clientRow_line_iff clock hc,
    readRow_clientRow_iff clock hc, hup, hdown]
  exact ⟨fun h => ⟨h.line, h.download, h.fields⟩, fun h => ⟨h.1, h.2.1, h.2.2⟩⟩

/-- A short name of one word, an enabled client and counters below a million gigabytes. -/
theorem readable_of_word {c : ClientRecord} (hname : c.name.toList ≠ [])
    (hword : ∀ ch ∈ c.name.toList, isSpace ch = false) (hshort : c.name.toList.length < 20)
    (henabled : c.enabled = true) (hout : c.stats.bytesOut.toNat < 1073741770312909)
    (hin : c.stats.bytesIn.toNat < 1073741770312909) : Readable c := by
  have hfield := isField_of_forall hname hword
  have hfields : nameFields c.name.toList = [c.name.toList] := by
    rw [nameFields, strip, trimBy_of_solid hfield.solid, if_neg hname, hfield.single]
  refine ⟨hfield.line, hin, Or.inl ⟨?_, henabled, hout⟩⟩
  rw [columns, hfields, length_gap, if_pos (by omega)]
  rfl

/-- The panel reads a table of registered clients as it was meant exactly if it can read every
client. -/
theorem panel_reads_iff (py : PyFloat) (clock : Clock) {clients : List ClientRecord}
    (hreg : ∀ c ∈ clients, Registered c) :
    Reads py clock clients ↔ ∀ c ∈ clients, Readable c := by
  constructor
  · intro h c hc
    exact (readable_iff clock (hreg c hc)).2 ⟨h.line c hc, h.entry c hc⟩
  · intro h
    have hrow : ∀ c ∈ clients, _ := fun c hc => (readable_iff clock (hreg c hc)).1 (h c hc)
    have hline : ∀ c ∈ clients, ∀ ch ∈ clientRow clock.format c, isLineBreak ch = false := fun c hc =>
      (clientRow_line_iff clock (hreg c hc)).2 (h c hc).line
    refine ⟨fun c hc => (hrow c hc).1, fun c hc => (hrow c hc).2,
      fun c _ => parseBytes_formatBytes py _, fun c _ => parseBytes_formatBytes py _, ?_⟩
    rw [collectRows_output clock hline, ← List.filterMap_eq_map]
    exact List.filterMap_congr fun c hc => (hrow c hc).2

theorem not_mem_decimal (n : Nat) : '.' ∉ decimal n := fun h => nomatch isDigit_of_mem_decimal h

/-- The value of a row of digits. -/
def digitsOf (s : Text) : Nat := digitsValue 10 (s.map fun c => c.toNat - 48)

/-- Numerals, read exactly. -/
def exactFloat : PyFloat where
  float := fun s => match s.splitOn '.' with
    | [whole] => some (digitsOf whole)
    | [whole, tenths] => some (digitsOf whole + digitsOf tenths / 10)
    | _ => none
  round := id
  round_zero := rfl
  float_decimal := fun n => by
    rw [List.splitOn_eq_singleton (not_mem_decimal n)]
    exact congrArg (some ∘ Nat.cast) (digitsValue_decimal n)
  float_tenths := fun t => by
    rw [List.splitOn_append_cons_self, List.splitOn_eq_singleton (not_mem_decimal _),
      List.splitOn_eq_singleton (not_mem_decimal _), List.singleton_append]
    simp only [digitsOf, digitsValue_decimal, id_eq, Option.some.injEq]
    have hsplit : ((10 * (t / 10) + t % 10 : ℕ) : ℚ) = t := by rw [Nat.div_add_mod]
    rw [← hsplit]
    push_cast
    ring

/-- A clock that stands still at the epoch. -/
def epochClock : Clock where
  format := fun _ => "1970-01-01 00:00".toList
  format_eq := fun _ => ⟨"1970-01-01".toList, "00:00".toList, rfl, by decide, by decide,
    forall_of_all (by decide)⟩

/-- The client `phone` with 1536 bytes down and 2 MB up. -/
def phone (enabled : Bool) : ClientRecord where
  id := ClientDbFile.hexId (ByteArr.replicate 8 0)
  name := "phone"
  psk := ByteArr.replicate 32 0
  vpnIp := ⟨10, 0, 0, 2⟩
  enabled := enabled
  createdAt := 0
  stats := ⟨1536, 2097152, some 0, 1, some 0⟩

theorem registered_phone (enabled : Bool) : ∀ c ∈ [phone enabled], Registered c :=
  List.forall_mem_singleton.2 ⟨ByteArr.replicate 8 0, 2, rfl, rfl⟩

theorem panel_reads_phone : Reads exactFloat epochClock [phone true] :=
  (panel_reads_iff exactFloat epochClock (registered_phone true)).2
    (List.forall_mem_singleton.2 (readable_of_word (by decide) (forall_of_all (by decide)) (by decide) rfl
      (by decide) (by decide)))

/-- The row of a disabled client has six fields. -/
theorem panel_misses_disabled : (∀ c ∈ [phone false], Registered c) ∧
    readRow (clientRow epochClock.format (phone false)) = none ∧
    ¬ Reads exactFloat epochClock [phone false] := by
  have hrow : readRow (clientRow epochClock.format (phone false)) = none := by decide +kernel
  refine ⟨registered_phone false, hrow, fun h => ?_⟩
  have hentry := h.entry (phone false) List.mem_cons_self
  rw [hrow] at hentry
  cases hentry

end Panel
end Aivpn
