import Aivpn.Lib.Bytes
import Aivpn.Lib.Numerals

/-!
# Objects of strings as JSON text

The compact text of a JSON object whose members are all strings: a writer that takes the escape of a
character as a parameter, and a reader for every text of that form, with the short escapes, UTF-16
code units in hexadecimal and pairs of them for the characters above `0xFFFF`.

`readObject_writeObject` holds for every escape that reads as its character (`Escapes`). The ASCII
escape writes nothing else than ASCII characters, the plain one as few escapes as the grammar
allows.
-/

set_option autoImplicit false

namespace Aivpn.Lib

/-- The bytes of a text in UTF-8. -/
def utf8 (s : Text) : Bytes := s.flatMap String.utf8EncodeChar

/-- The text that bytes are in UTF-8. -/
def fromUtf8 (bytes : Bytes) : Option Text := bytes.toByteArray.utf8Decode?.map Array.toList

theorem fromUtf8_utf8 (s : Text) : fromUtf8 (utf8 s) = some s := by
  have hdecode := List.utf8Decode?_utf8Encode (l := s)
  unfold List.utf8Encode at hdecode
  unfold fromUtf8 utf8
  rw [hdecode]
  rfl

namespace JsonText

/-! ## Reading -/

/-- A part of a string: a character that stands for itself, or a UTF-16 code unit. -/
inductive Piece where
  | char (c : Char)
  | unit (n : Nat)
deriving DecidableEq, Repr

/-- The first unit of a pair. -/
def IsHigh (n : Nat) : Prop := 0xD800 ≤ n ∧ n < 0xDC00

/-- The second unit of a pair. -/
def IsLow (n : Nat) : Prop := 0xDC00 ≤ n ∧ n < 0xE000

instance (n : Nat) : Decidable (IsHigh n) := inferInstanceAs (Decidable (_ ∧ _))

instance (n : Nat) : Decidable (IsLow n) := inferInstanceAs (Decidable (_ ∧ _))

/-- A piece in front of a text, and of the second unit of a pair if there is one. -/
def joinPiece : Piece → Option Nat × Text → Option (Option Nat × Text)
  | .char c, (none, s) => some (none, c :: s)
  | .char _, (some _, _) => none
  | .unit n, (none, s) =>
      if IsHigh n then none
      else if IsLow n then some (some n, s)
      else some (none, Char.ofNat n :: s)
  | .unit n, (some m, s) =>
      if IsHigh n then some (none, Char.ofNat (0x10000 + (n - 0xD800) * 0x400 + (m - 0xDC00)) :: s)
      else none

/-- Pieces in front of a text. -/
def joinPieces : List Piece → Option Nat × Text → Option (Option Nat × Text)
  | [], r => some r
  | p :: ps, r => (joinPieces ps r).bind (joinPiece p)

/-- The text of the pieces. -/
def join (ps : List Piece) : Option Text :=
  match joinPieces ps (none, []) with
  | some (none, s) => some s
  | _ => none

/-- The character behind a backslash stands for this one. -/
def unescape (c : Char) : Option Char :=
  match c with
  | '"' => some '"'
  | '\\' => some '\\'
  | '/' => some '/'
  | 'b' => some (Char.ofNat 8)
  | 'f' => some (Char.ofNat 12)
  | 'n' => some '\n'
  | 'r' => some '\r'
  | 't' => some '\t'
  | _ => none

/-- The unit that four hexadecimal digits denote. -/
def hexUnit (ds : Text) : Option Nat := (ds.mapM (toDigit 16)).map (digitsValue 16)

/-- The pieces of a string up to the quote behind it, and the text behind the quote. -/
def readPieces : Text → Option (List Piece × Text)
  | [] => none
  | '"' :: s => some ([], s)
  | '\\' :: 'u' :: a :: b :: c :: d :: s =>
      (hexUnit [a, b, c, d]).bind fun n => (readPieces s).map fun p => (.unit n :: p.1, p.2)
  | '\\' :: e :: s =>
      (unescape e).bind fun c => (readPieces s).map fun p => (.char c :: p.1, p.2)
  | c :: s =>
      if c.toNat < 0x20 ∨ c = '\\' then none
      else (readPieces s).map fun p => (.char c :: p.1, p.2)

/-- A string up to the quote behind it, and the text behind the quote. -/
def readString (s : Text) : Option (Text × Text) :=
  (readPieces s).bind fun p => (join p.1).map fun t => (t, p.2)

/-- One member: the name, a colon and the value. -/
def readMember (s : Text) : Option ((Text × Text) × Text) :=
  match s with
  | '"' :: s => match readString s with
    | some (name, ':' :: '"' :: s) => (readString s).map fun p => ((name, p.1), p.2)
    | _ => none
  | _ => none

/-- The members up to the end of the object, at most as many as there is fuel. -/
def readMembers : (fuel : Nat) → Text → Option (List (Text × Text))
  | 0, _ => none
  | fuel + 1, s => match readMember s with
    | some (m, ',' :: s) => (readMembers fuel s).map (m :: ·)
    | some (m, ['}']) => some [m]
    | _ => none

/-- The members of an object of strings. -/
def readObject (s : Text) : Option (List (Text × Text)) :=
  match s with
  | ['{', '}'] => some []
  | '{' :: s => readMembers s.length s
  | _ => none

/-! ## Writing -/

/-- The character that a short escape puts behind the backslash. -/
def shortEscape (c : Char) : Option Char :=
  if c = '"' then some '"'
  else if c = '\\' then some '\\'
  else if c = '\n' then some 'n'
  else if c = '\r' then some 'r'
  else if c = '\t' then some 't'
  else if c = Char.ofNat 12 then some 'f'
  else if c = Char.ofNat 8 then some 'b'
  else none

/-- A hexadecimal digit. -/
def hexDigit (d : Nat) : Char := "0123456789abcdef".toList.getD d '0'

/-- The escape of a unit. -/
def unitText (n : Nat) : Text :=
  ['\\', 'u', hexDigit (n / 4096 % 16), hexDigit (n / 256 % 16), hexDigit (n / 16 % 16),
    hexDigit (n % 16)]

/-- An escape that leaves alone what may stand in a string. -/
def plainEscape (c : Char) : Text :=
  match shortEscape c with
  | some e => ['\\', e]
  | none => if c.toNat < 0x20 then unitText c.toNat else [c]

/-- An escape that writes ASCII characters only. -/
def asciiEscape (c : Char) : Text :=
  match shortEscape c with
  | some e => ['\\', e]
  | none =>
      if 0x20 ≤ c.toNat ∧ c.toNat < 0x7F then [c]
      else if c.toNat < 0x10000 then unitText c.toNat
      else
        unitText (0xD800 + (c.toNat - 0x10000) / 0x400) ++
          unitText (0xDC00 + (c.toNat - 0x10000) % 0x400)

section

variable (escape : Char → Text)

/-- A string with its quotes. -/
def writeString (s : Text) : Text := '"' :: s.flatMap escape ++ ['"']

/-- One member. -/
def writeMember (m : Text × Text) : Text :=
  writeString escape m.1 ++ ':' :: writeString escape m.2

/-- An object of strings. -/
def writeObject (members : List (Text × Text)) : Text :=
  '{' :: List.intercalate [','] (members.map (writeMember escape)) ++ ['}']

end

/-! ## Escapes -/

/-- The text is read as these pieces, whatever follows. -/
def Spells (text : Text) (ps : List Piece) : Prop :=
  ∀ rest, readPieces (text ++ rest) = (readPieces rest).map fun p => (ps ++ p.1, p.2)

/-- The pieces stand for the character. -/
def Stands (ps : List Piece) (c : Char) : Prop :=
  ∀ s, joinPieces ps (none, s) = some (none, c :: s)

/-- Every character is escaped by a text that reads as the character. -/
def Escapes (escape : Char → Text) : Prop :=
  ∀ c, ∃ ps, Spells (escape c) ps ∧ Stands ps c

section

variable {c e : Char} {m n : Nat}

theorem joinPieces_append (qs ps : List Piece) (r : Option Nat × Text) :
    joinPieces (qs ++ ps) r = (joinPieces ps r).bind (joinPieces qs) := by
  induction qs with
  | nil => exact (Option.bind_fun_some _).symm
  | cons q qs ih =>
      rw [List.cons_append, joinPieces, ih, Option.bind_assoc]
      rfl

theorem stands_char (c : Char) : Stands [.char c] c := fun _ => rfl

theorem not_surrogate (c : Char) : ¬ IsHigh c.toNat ∧ ¬ IsLow c.toNat := by
  have hvalid : c.toNat < 0xD800 ∨ 0xDFFF < c.toNat ∧ c.toNat < 0x110000 := c.valid
  constructor <;> (intro h; rcases h with ⟨hlow, hhigh⟩; omega)

theorem stands_unit (c : Char) : Stands [.unit c.toNat] c := by
  obtain ⟨hhigh, hlow⟩ := not_surrogate c
  intro s
  simp only [joinPieces, Option.bind_some, joinPiece, if_neg hhigh, if_neg hlow, Char.ofNat_toNat]

theorem isHigh_pair {v : Nat} (h : v < 0x100000) : IsHigh (0xD800 + v / 0x400) := by
  unfold IsHigh
  omega

theorem isLow_pair (v : Nat) : IsLow (0xDC00 + v % 0x400) := by
  unfold IsLow
  omega

theorem IsLow.not_isHigh (h : IsLow n) : ¬ IsHigh n := by
  unfold IsLow at h
  unfold IsHigh
  omega

/-- The two units of a pair. -/
theorem stands_pair (h : 0x10000 ≤ c.toNat) :
    Stands [.unit (0xD800 + (c.toNat - 0x10000) / 0x400),
      .unit (0xDC00 + (c.toNat - 0x10000) % 0x400)] c := by
  have hvalid : c.toNat < 0xD800 ∨ 0xDFFF < c.toNat ∧ c.toNat < 0x110000 := c.valid
  obtain ⟨v, hv⟩ := Nat.exists_eq_add_of_le h
  have hsub : c.toNat - 0x10000 = v := by omega
  have hlow := isLow_pair v
  have hchar : Char.ofNat (0x10000 + v / 0x400 * 0x400 + v % 0x400) = c := by
    rw [Nat.add_assoc, Nat.div_add_mod', ← hv, Char.ofNat_toNat]
  rw [hsub]
  intro s
  simp only [joinPieces, Option.bind_some, joinPiece, if_neg hlow.not_isHigh, if_pos hlow,
    if_pos (isHigh_pair (v := v) (by omega)), Nat.add_sub_cancel_left, hchar]

theorem spells_char (hcontrol : 0x20 ≤ c.toNat) (hquote : c ≠ '"') (hslash : c ≠ '\\') :
    Spells [c] [.char c] := by
  intro rest
  rw [List.singleton_append, readPieces.eq_def]
  split
  · rename_i heq
    cases heq
  · rename_i heq
    cases heq
    exact absurd rfl hquote
  · rename_i heq
    cases heq
    exact absurd rfl hslash
  · rename_i heq
    cases heq
    exact absurd rfl hslash
  · rename_i heq
    cases heq
    have hnot : ¬ (c.toNat < 0x20 ∨ c = '\\') := by
      rintro (h | h)
      · omega
      · exact hslash h
    rw [if_neg hnot]
    rfl

theorem spells_short (hu : e ≠ 'u') (he : unescape e = some c) : Spells ['\\', e] [.char c] := by
  intro rest
  show readPieces ('\\' :: e :: rest) = _
  rw [readPieces]
  · rw [he]
    rfl
  · intro _ _ _ _ _ heq
    cases heq
    exact absurd rfl hu

theorem toDigit_hexDigit : ∀ d < 16, toDigit 16 (hexDigit d) = some d := by decide

theorem spells_unit (h : n < 0x10000) : Spells (unitText n) [.unit n] := by
  have hdigit (d : Nat) : toDigit 16 (hexDigit (d % 16)) = some (d % 16) :=
    toDigit_hexDigit _ (Nat.mod_lt d (by decide))
  have hunit : hexUnit [hexDigit (n / 4096 % 16), hexDigit (n / 256 % 16), hexDigit (n / 16 % 16),
      hexDigit (n % 16)] = some n := by
    unfold hexUnit digitsValue
    simp only [List.mapM_cons, List.mapM_nil, hdigit, Option.pure_def, Option.bind_eq_bind,
      Option.bind_some, Option.map_some, List.foldl_cons, List.foldl_nil, Option.some.injEq]
    omega
  intro rest
  show readPieces ('\\' :: 'u' :: _ :: _ :: _ :: _ :: rest) = _
  rw [readPieces, hunit]
  rfl

theorem Spells.append {s t : Text} {ps qs : List Piece} (hs : Spells s ps) (ht : Spells t qs) :
    Spells (s ++ t) (ps ++ qs) := by
  intro rest
  rw [List.append_assoc, hs, ht, Option.map_map]
  simp only [Function.comp_def, List.append_assoc]

theorem spells_shortEscape (h : shortEscape c = some e) : Spells ['\\', e] [.char c] := by
  unfold shortEscape at h
  split_ifs at h with h₁ h₂ h₃ h₄ h₅ h₆ h₇
  all_goals
    cases h
    subst c
    exact spells_short (by decide) rfl

theorem shortEscape_none (h : shortEscape c = none) : c ≠ '"' ∧ c ≠ '\\' := by
  constructor
  · rintro rfl
    cases h
  · rintro rfl
    cases h

end

theorem escapes_plain : Escapes plainEscape := by
  intro c
  unfold plainEscape
  cases hshort : shortEscape c with
  | some e => exact ⟨_, spells_shortEscape hshort, stands_char c⟩
  | none =>
      obtain ⟨hquote, hslash⟩ := shortEscape_none hshort
      simp only
      split_ifs with hcontrol
      · exact ⟨_, spells_unit (by omega), stands_unit c⟩
      · exact ⟨_, spells_char (by omega) hquote hslash, stands_char c⟩

theorem escapes_ascii : Escapes asciiEscape := by
  intro c
  have hvalid : c.toNat < 0xD800 ∨ 0xDFFF < c.toNat ∧ c.toNat < 0x110000 := c.valid
  unfold asciiEscape
  cases hshort : shortEscape c with
  | some e => exact ⟨_, spells_shortEscape hshort, stands_char c⟩
  | none =>
      obtain ⟨hquote, hslash⟩ := shortEscape_none hshort
      simp only
      split_ifs with hascii hunit
      · exact ⟨_, spells_char hascii.1 hquote hslash, stands_char c⟩
      · exact ⟨_, spells_unit hunit, stands_unit c⟩
      · have hhigh := spells_unit (n := 0xD800 + (c.toNat - 0x10000) / 0x400) (by omega)
        have hlow := spells_unit (n := 0xDC00 + (c.toNat - 0x10000) % 0x400) (by omega)
        exact ⟨_, hhigh.append hlow, stands_pair (by omega)⟩

/-! ## Reading what was written -/

section

variable {escape : Char → Text} (h : Escapes escape)

include h

theorem readPieces_flatMap (s rest : Text) :
    ∃ ps, joinPieces ps (none, []) = some (none, s) ∧
      readPieces (s.flatMap escape ++ '"' :: rest) = some (ps, rest) := by
  induction s with
  | nil => exact ⟨[], rfl, rfl⟩
  | cons c s ih =>
      obtain ⟨ps, hps, hread⟩ := ih
      obtain ⟨qs, hspells, hstands⟩ := h c
      refine ⟨qs ++ ps, ?_, ?_⟩
      · rw [joinPieces_append, hps, Option.bind_some, hstands]
      · rw [List.flatMap_cons, List.append_assoc, hspells, hread]
        rfl

theorem readString_flatMap (s rest : Text) :
    readString (s.flatMap escape ++ '"' :: rest) = some (s, rest) := by
  obtain ⟨ps, hjoin, hread⟩ := readPieces_flatMap h s rest
  unfold readString join
  rw [hread, Option.bind_some, hjoin]
  rfl

theorem readMember_writeMember (m : Text × Text) (rest : Text) :
    readMember (writeMember escape m ++ rest) = some (m, rest) := by
  have htext : writeMember escape m ++ rest =
      '"' :: (m.1.flatMap escape ++ '"' :: ':' :: '"' :: (m.2.flatMap escape ++ '"' :: rest)) := by
    simp only [writeMember, writeString, List.cons_append, List.append_assoc, List.nil_append]
  rw [htext]
  simp only [readMember, readString_flatMap h, Option.map_some]

omit h in
theorem intercalate_cons_cons (m m' : Text × Text) (members : List (Text × Text)) (rest : Text) :
    List.intercalate [','] ((m :: m' :: members).map (writeMember escape)) ++ rest =
      writeMember escape m ++
        ',' :: (List.intercalate [','] ((m' :: members).map (writeMember escape)) ++ rest) := by
  rw [List.map_cons, List.map_cons, List.intercalate_cons_cons, List.append_assoc,
    List.append_assoc, List.singleton_append]

theorem readMembers_intercalate (m : Text × Text) (members : List (Text × Text)) :
    ∀ fuel, members.length < fuel →
      readMembers fuel (List.intercalate [','] ((m :: members).map (writeMember escape)) ++ ['}']) =
        some (m :: members) := by
  induction members generalizing m with
  | nil =>
      intro fuel hfuel
      obtain ⟨fuel, rfl⟩ := Nat.exists_eq_succ_of_ne_zero (Nat.ne_of_gt hfuel)
      have htext : List.intercalate [','] ([m].map (writeMember escape)) = writeMember escape m :=
        List.intercalate_singleton
      rw [htext]
      simp only [readMembers, readMember_writeMember h]
  | cons m' members ih =>
      intro fuel hfuel
      obtain ⟨fuel, rfl⟩ := Nat.exists_eq_succ_of_ne_zero (by omega : fuel ≠ 0)
      have hrest := ih m' fuel (Nat.lt_of_succ_lt_succ hfuel)
      rw [intercalate_cons_cons]
      simp only [readMembers, readMember_writeMember h, hrest, Option.map_some]

omit h in
/-- There are more characters than members. -/
theorem length_lt_intercalate (m : Text × Text) (members : List (Text × Text)) :
    members.length <
      (List.intercalate [','] ((m :: members).map (writeMember escape)) ++ ['}']).length := by
  induction members generalizing m with
  | nil =>
      rw [List.length_append]
      exact Nat.lt_add_left _ Nat.one_pos
  | cons m' members ih =>
      have hrest := ih m'
      rw [intercalate_cons_cons, List.length_append, List.length_cons, List.length_cons]
      omega

/-- An object of strings is read back. -/
theorem readObject_writeObject (members : List (Text × Text)) :
    readObject (writeObject escape members) = some members := by
  cases members with
  | nil => rfl
  | cons m members =>
      have hlength : members.length <
          (List.intercalate [','] ((m :: members).map (writeMember escape)) ++ ['}']).length :=
        length_lt_intercalate m members
      have hread := readMembers_intercalate h m members _ hlength
      obtain ⟨s, hs⟩ : ∃ s,
          List.intercalate [','] ((m :: members).map (writeMember escape)) ++ ['}'] =
            '"' :: s := by
        cases members with
        | nil => exact ⟨_, rfl⟩
        | cons m' members =>
            rw [intercalate_cons_cons]
            exact ⟨_, rfl⟩
      rw [hs] at hread
      have htext : writeObject escape (m :: members) = '{' :: '"' :: s := by
        unfold writeObject
        rw [List.cons_append, hs]
      rw [htext]
      exact hread

example : readObject (writeObject asciiEscape [(['s'], "a\"/é🌐".toList)]) =
    some [(['s'], "a\"/é🌐".toList)] := by decide

end

end JsonText

end Aivpn.Lib
