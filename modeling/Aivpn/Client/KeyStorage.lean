import Aivpn.Lib.Bytes
import Aivpn.Lib.Runs
import Aivpn.Lib.Text
import Mathlib.Data.List.Nodup

/-!
# Connection keys of the Windows client

`key_storage.rs` keeps a list of connection keys and the index of the selected one. The index follows
its entry through every removal, and is missing only from an empty list once a key has been added.

`add_key` refuses a key that is already in the list. `update_key` writes the new key without looking,
so that the keys stay distinct along a run exactly if no update writes the key of another entry
(`keyList_intact_iff`).
-/

set_option autoImplicit false

namespace Aivpn

open Aivpn.Lib

/-- A `serde_json::Value`; only its strings and objects are looked into. -/
inductive Json where
  | string (s : Text)
  | object (fields : List (Text × Json))
  | other

namespace Json

/-- `json[key]`. A member that is missing reads as null. -/
def index : Json → Text → Json
  | object fields, key => (fields.lookup key).getD other
  | _, _ => other

/-- `as_str`. -/
def asStr : Json → Option Text
  | string s => some s
  | _ => none

end Json

/-- The decoders that a connection key goes through: base64 with the alphabet for URLs and without
padding, and `serde_json::from_slice`. -/
structure KeyDecoders where
  decode : Text → Option Bytes
  fromSlice : Bytes → Option Json

/-- `ConnectionKey`. -/
structure ConnectionKey where
  name : Text
  key : Text
  serverAddr : Text
  vpnIp : Text
deriving DecidableEq, Repr

namespace ConnectionKey

/-- `str::trim`. -/
def trim (s : Text) : Text := trimBy isWhitespace s

/-- `ConnectionKey::from_key_string`. -/
def fromKeyString (dec : KeyDecoders) (name key : Text) : Option ConnectionKey := do
  let payload := (stripPrefix "shade://".toList (trim key)).getD (trim key)
  let jsonBytes ← dec.decode payload
  let json ← dec.fromSlice jsonBytes
  let serverAddr := (json.index ['s']).asStr.getD []
  let vpnIp := (json.index ['i']).asStr.getD []
  some ⟨name, trim key, serverAddr, vpnIp⟩

end ConnectionKey

/-- `KeyStorage`. -/
structure KeyStorage where
  keys : List ConnectionKey
  selected : Option Nat
  fullTunnel : Bool
deriving DecidableEq, Repr

namespace KeyStorage

/-- `KeyStorage::load`, from what the file parses to. A selection outside the list is dropped. -/
def load (file : Option KeyStorage) : KeyStorage :=
  match file with
  | some storage => match storage.selected with
    | some idx => if storage.keys.length ≤ idx then { storage with selected := none } else storage
    | none => storage
  | none => ⟨[], none, false⟩

/-- `KeyStorage::add_key`. -/
def addKey (dec : KeyDecoders) (name key : Text) (s : KeyStorage) : Except String Unit × KeyStorage :=
  match ConnectionKey.fromKeyString dec name key with
  | none => (.error "Invalid connection key format", s)
  | some ck =>
      if s.keys.any fun k => k.key == ck.key then (.error "This key already exists", s)
      else
        let keys := s.keys ++ [ck]
        let selected := if s.selected.isNone then some (keys.length - 1) else s.selected
        (.ok (), { s with keys := keys, selected := selected })

/-- `KeyStorage::update_key`. -/
def updateKey (dec : KeyDecoders) (idx : Nat) (name key : Text) (s : KeyStorage) :
    Except String Unit × KeyStorage :=
  if s.keys.length ≤ idx then (.error "Invalid key index", s)
  else match ConnectionKey.fromKeyString dec name key with
    | none => (.error "Invalid connection key format", s)
    | some ck => (.ok (), { s with keys := s.keys.set idx ck })

/-- `KeyStorage::remove_key`. -/
def removeKey (idx : Nat) (s : KeyStorage) : KeyStorage :=
  if idx < s.keys.length then
    let keys := s.keys.eraseIdx idx
    let selected := match s.selected with
      | some sel =>
          if sel = idx then if keys.isEmpty then none else some (min sel (keys.length - 1))
          else if idx < sel then some (sel - 1)
          else some sel
      | none => none
    { s with keys := keys, selected := selected }
  else s

/-- `KeyStorage::selected_key`. -/
def selectedKey (s : KeyStorage) : Option ConnectionKey := s.selected.bind (s.keys[·]?)

/-! ## What an operation can do -/

/-- The key strings are pairwise distinct. -/
def Distinct (s : KeyStorage) : Prop := (s.keys.map ConnectionKey.key).Nodup

/-- The selection, if there is one, is an index of the list. -/
def ValidSelection (s : KeyStorage) : Prop := ∀ sel, s.selected = some sel → sel < s.keys.length

theorem load_keys (s : KeyStorage) : (load (some s)).keys = s.keys := by
  unfold load
  cases hsel : s.selected with
  | none => simp only [hsel]
  | some sel =>
      simp only [hsel]
      split_ifs <;> rfl

theorem load_validSelection (file : Option KeyStorage) : (load file).ValidSelection := by
  intro sel h
  cases file with
  | none => cases h
  | some s =>
      rw [load_keys]
      unfold load at h
      cases hsel : s.selected with
      | none =>
          simp only [hsel] at h
          cases h
      | some sel' =>
          simp only [hsel] at h
          split_ifs at h with hout
          have heq : sel' = sel := Option.some.inj (hsel.symm.trans h)
          omega

/-- `add_key` fails, or appends a key that is not in the list and selects it if none was. -/
theorem addKey_cases (dec : KeyDecoders) (name key : Text) (s : KeyStorage) :
    (∃ e, addKey dec name key s = (.error e, s)) ∨
      ∃ ck, (∀ k ∈ s.keys, k.key ≠ ck.key) ∧
        addKey dec name key s = (.ok (), { s with
          keys := s.keys ++ [ck], selected := some (s.selected.getD s.keys.length) }) := by
  unfold addKey
  cases ConnectionKey.fromKeyString dec name key with
  | none => exact Or.inl ⟨_, rfl⟩
  | some ck =>
      simp only
      by_cases hdup : (s.keys.any fun k => k.key == ck.key) = true
      · rw [if_pos hdup]
        exact Or.inl ⟨_, rfl⟩
      · rw [if_neg hdup]
        refine Or.inr ⟨ck, ?_, ?_⟩
        · intro k hk heq
          exact hdup (List.any_eq_true.2 ⟨k, hk, beq_iff_eq.2 heq⟩)
        · cases s.selected with
          | none =>
              rw [List.length_append]
              rfl
          | some sel => rfl

/-- `update_key` fails, or writes an entry of the list. -/
theorem updateKey_cases (dec : KeyDecoders) (idx : Nat) (name key : Text) (s : KeyStorage) :
    (∃ e, updateKey dec idx name key s = (.error e, s) ∧
      (idx < s.keys.length → ConnectionKey.fromKeyString dec name key = none)) ∨
      ∃ ck, idx < s.keys.length ∧ ConnectionKey.fromKeyString dec name key = some ck ∧
        updateKey dec idx name key s = (.ok (), { s with keys := s.keys.set idx ck }) := by
  unfold updateKey
  split_ifs with hidx
  · exact Or.inl ⟨_, rfl, fun h => absurd hidx (by omega)⟩
  · cases hck : ConnectionKey.fromKeyString dec name key with
    | none => exact Or.inl ⟨_, rfl, fun _ => rfl⟩
    | some ck => exact Or.inr ⟨ck, by omega, rfl, rfl⟩

/-- A removal keeps a valid selection, and loses it only with the last entry. -/
theorem removeKey_selection {s : KeyStorage} (h : s.ValidSelection) (idx : Nat) :
    (removeKey idx s).ValidSelection ∧
      ((removeKey idx s).selected = none → s.selected = none ∨ (removeKey idx s).keys = []) := by
  unfold removeKey
  split_ifs with hidx
  · have hlen := List.length_eraseIdx_of_lt hidx
    cases hsel : s.selected with
    | none => exact ⟨(fun _ hs => nomatch hs), fun _ => Or.inl rfl⟩
    | some sel =>
        have hvalid := h sel hsel
        by_cases hempty : (s.keys.eraseIdx idx).isEmpty
        · -- the only entry goes
          have hnil := List.isEmpty_iff.1 hempty
          rw [hnil] at hlen
          have hzero : sel = idx := by
            rw [List.length_nil] at hlen
            omega
          simp only [hempty, hzero, if_true]
          exact ⟨(fun _ hs => nomatch hs), fun _ => Or.inr hnil⟩
        · have hpos : 0 < (s.keys.eraseIdx idx).length :=
            List.length_pos_iff.2 fun hnil => hempty (List.isEmpty_iff.2 hnil)
          simp only [hempty, Bool.false_eq_true, if_false]
          split_ifs with heq hlt
          · refine ⟨fun sel' hs => ?_, fun hs => nomatch hs⟩
            cases hs
            show min sel _ < (s.keys.eraseIdx idx).length
            omega
          · refine ⟨fun sel' hs => ?_, fun hs => nomatch hs⟩
            cases hs
            show sel - 1 < (s.keys.eraseIdx idx).length
            omega
          · refine ⟨fun sel' hs => ?_, fun hs => nomatch hs⟩
            cases hs
            show sel < (s.keys.eraseIdx idx).length
            omega
  · exact ⟨h, fun hs => Or.inl hs⟩

/-- The selected entry stays the selected one when another one is removed. -/
theorem removeKey_selectedKey {s : KeyStorage} {idx : Nat} (h : s.selected ≠ some idx) :
    (removeKey idx s).selectedKey = s.selectedKey := by
  unfold removeKey
  split_ifs with hidx
  · unfold selectedKey
    cases hsel : s.selected with
    | none => rfl
    | some sel =>
        have hne : sel ≠ idx := fun heq => h (heq ▸ hsel)
        simp only [hne, if_false]
        split_ifs with hlt
        · -- the entry moves down by one, and so does the index
          rw [Option.bind_some, Option.bind_some, List.getElem?_eraseIdx_of_ge (by omega),
            Nat.sub_add_cancel (by omega)]
        · rw [Option.bind_some, Option.bind_some, List.getElem?_eraseIdx_of_lt (by omega)]
  · rfl

theorem removeKey_distinct {s : KeyStorage} (h : s.Distinct) (idx : Nat) :
    (removeKey idx s).Distinct := by
  unfold removeKey
  split_ifs with hidx
  · exact h.sublist ((List.eraseIdx_sublist s.keys idx).map _)
  · exact h

/-- Writing one element of a list without repetitions repeats none if no other one is equal. -/
theorem nodup_set_iff {α : Type} {l : List α} (h : l.Nodup) {i : Nat} (hi : i < l.length) (a : α) :
    (l.set i a).Nodup ↔ ∀ j, j ≠ i → l[j]? ≠ some a := by
  constructor
  · intro hset j hj heq
    have hlt : j < (l.set i a).length := by
      rw [List.length_set]
      exact (List.getElem?_eq_some_iff.1 heq).1
    have hsame : (l.set i a)[j]? = (l.set i a)[i]? := by
      rw [List.getElem?_set_ne (Ne.symm hj), List.getElem?_set_self hi, heq]
    exact hj ((List.getElem?_inj hlt hset).1 hsame)
  · intro hother
    rw [List.nodup_iff_getElem?_ne_getElem?]
    intro p q hpq hq heq
    rw [List.length_set] at hq
    by_cases hp : p = i
    · subst hp
      rw [List.getElem?_set_self hi, List.getElem?_set_ne (by omega)] at heq
      exact hother q (by omega) heq.symm
    · by_cases hqi : q = i
      · subst hqi
        rw [List.getElem?_set_self hi, List.getElem?_set_ne (by omega)] at heq
        exact hother p hp heq
      · rw [List.getElem?_set_ne (Ne.symm hp), List.getElem?_set_ne (Ne.symm hqi)] at heq
        exact hp (absurd ((List.getElem?_inj (by omega) h).1 heq) (by omega))

end KeyStorage

/-! ## Runs -/

/-- The three operations. -/
inductive KeyOp where
  | addKey (name key : Text)
  | updateKey (idx : Nat) (name key : Text)
  | removeKey (idx : Nat)

/-- The store, and whether a key has been added since it was loaded; the latter is a history
variable. -/
structure KeyRun where
  storage : KeyStorage
  added : Bool

namespace KeyRun

/-- A store as it is loaded. -/
def start (file : Option KeyStorage) : KeyRun := ⟨KeyStorage.load file, false⟩

/-- One operation. -/
def step (dec : KeyDecoders) (r : KeyRun) : KeyOp → KeyRun
  | .addKey name key => match r.storage.addKey dec name key with
    | (.ok (), s) => ⟨s, true⟩
    | (.error _, s) => ⟨s, r.added⟩
  | .updateKey idx name key => { r with storage := (r.storage.updateKey dec idx name key).2 }
  | .removeKey idx => { r with storage := r.storage.removeKey idx }

/-- Distinct keys, and a selection that is valid and, once a key has been added, missing only from an
empty list. -/
structure Sound (r : KeyRun) : Prop where
  distinct : r.storage.Distinct
  valid : r.storage.ValidSelection
  selects : r.added = true → r.storage.selected = none → r.storage.keys = []

/-- The operation is about an entry other than the selected one. -/
def Elsewhere (r : KeyRun) : KeyOp → Prop
  | .addKey _ _ => r.storage.selected ≠ none
  | .updateKey idx _ _ => r.storage.selected ≠ some idx
  | .removeKey idx => r.storage.selected ≠ some idx

/-- An update that goes through does not write the key of another entry. -/
def NoClash (dec : KeyDecoders) (r : KeyRun) : KeyOp → Prop
  | .updateKey idx name key =>
      idx < r.storage.keys.length → (ConnectionKey.fromKeyString dec name key).isSome →
        ∀ j, j ≠ idx → (r.storage.keys.map ConnectionKey.key)[j]? ≠ some (ConnectionKey.trim key)
  | _ => True

/-- The operation leaves a sound list, and the selection where it is unless it is about it. -/
def Intact (dec : KeyDecoders) (r : KeyRun) (op : KeyOp) : Prop :=
  (r.step dec op).Sound ∧
    (r.Elsewhere op → (r.step dec op).storage.selectedKey = r.storage.selectedKey)

variable {dec : KeyDecoders} {r : KeyRun}

theorem key_fromKeyString {name key : Text} {ck : ConnectionKey}
    (h : ConnectionKey.fromKeyString dec name key = some ck) : ck.key = ConnectionKey.trim key := by
  unfold ConnectionKey.fromKeyString at h
  simp only [Option.bind_eq_bind, Option.bind_eq_some_iff, Option.some.injEq] at h
  obtain ⟨jsonBytes, -, json, -, rfl⟩ := h
  rfl

theorem start_sound {file : Option KeyStorage} (h : ∀ s, file = some s → s.Distinct) :
    (start file).Sound where
  distinct := by
    cases file with
    | none => exact List.nodup_nil
    | some s =>
        show ((KeyStorage.load (some s)).keys.map ConnectionKey.key).Nodup
        rw [KeyStorage.load_keys]
        exact h s rfl
  valid := KeyStorage.load_validSelection file
  selects := fun h => nomatch h

/-- Adding a key keeps the list sound, and the selection if there is one. -/
theorem intact_addKey (h : r.Sound) (name key : Text) : r.Intact dec (.addKey name key) := by
  rcases KeyStorage.addKey_cases dec name key r.storage with ⟨e, hadd⟩ | ⟨ck, hnew, hadd⟩
  · have hstep : r.step dec (.addKey name key) = r := by
      simp only [step, hadd]
    rw [Intact, hstep]
    exact ⟨h, fun _ => rfl⟩
  · have hstep : r.step dec (.addKey name key) = ⟨{ r.storage with
        keys := r.storage.keys ++ [ck],
        selected := some (r.storage.selected.getD r.storage.keys.length) }, true⟩ := by
      simp only [step, hadd]
    rw [Intact, hstep]
    refine ⟨⟨?_, ?_, fun _ hs => nomatch hs⟩, ?_⟩
    · show ((r.storage.keys ++ [ck]).map ConnectionKey.key).Nodup
      rw [List.map_append, List.map_singleton, List.nodup_append]
      refine ⟨h.distinct, List.nodup_singleton _, ?_⟩
      intro a ha b hb heq
      obtain ⟨k, hk, rfl⟩ := List.mem_map.1 ha
      exact hnew k hk (heq.trans (List.mem_singleton.1 hb))
    · intro sel hsel
      cases hsel
      show r.storage.selected.getD r.storage.keys.length < (r.storage.keys ++ [ck]).length
      rw [List.length_append, List.length_singleton]
      cases hold : r.storage.selected with
      | none => exact Nat.lt_succ_self _
      | some sel => exact Nat.lt_succ_of_lt (h.valid sel hold)
    · intro hother
      unfold KeyStorage.selectedKey
      cases hold : r.storage.selected with
      | none => exact absurd hold hother
      | some sel =>
          show (r.storage.keys ++ [ck])[sel]? = r.storage.keys[sel]?
          exact List.getElem?_append_left (h.valid sel hold)

theorem intact_removeKey (h : r.Sound) (idx : Nat) : r.Intact dec (.removeKey idx) := by
  have hselection := KeyStorage.removeKey_selection h.valid idx
  refine ⟨⟨KeyStorage.removeKey_distinct h.distinct idx, hselection.1, ?_⟩, fun hother =>
    KeyStorage.removeKey_selectedKey hother⟩
  intro hadded hnone
  rcases hselection.2 hnone with hold | hempty
  · have hnil := h.selects hadded hold
    show (r.storage.removeKey idx).keys = []
    unfold KeyStorage.removeKey
    rw [if_neg (by rw [hnil]; exact Nat.not_lt_zero _)]
    exact hnil
  · exact hempty

/-- An update keeps the list sound exactly if it does not write the key of another entry. -/
theorem intact_updateKey_iff (h : r.Sound) (idx : Nat) (name key : Text) :
    r.Intact dec (.updateKey idx name key) ↔ r.NoClash dec (.updateKey idx name key) := by
  rcases KeyStorage.updateKey_cases dec idx name key r.storage with ⟨e, hup, hfail⟩ |
      ⟨ck, hidx, hck, hup⟩
  · have hstep : r.step dec (.updateKey idx name key) = r := by
      simp only [step, hup]
    refine iff_of_true ?_ ?_
    · rw [Intact, hstep]
      exact ⟨h, fun _ => rfl⟩
    · intro hidx hsome
      rw [hfail hidx] at hsome
      cases hsome
  · have hstep : r.step dec (.updateKey idx name key) =
        { r with storage := { r.storage with keys := r.storage.keys.set idx ck } } := by
      simp only [step, hup]
    have hmap : ((r.storage.keys.set idx ck).map ConnectionKey.key) =
        (r.storage.keys.map ConnectionKey.key).set idx (ConnectionKey.trim key) := by
      rw [List.map_set, key_fromKeyString hck]
    have hdistinct := KeyStorage.nodup_set_iff h.distinct
      (show idx < (r.storage.keys.map ConnectionKey.key).length by rwa [List.length_map])
      (ConnectionKey.trim key)
    rw [Intact, hstep]
    constructor
    · rintro ⟨hsound, -⟩ - -
      have hnodup : ((r.storage.keys.set idx ck).map ConnectionKey.key).Nodup := hsound.distinct
      rw [hmap] at hnodup
      exact hdistinct.1 hnodup
    · intro hclash
      refine ⟨⟨?_, ?_, ?_⟩, ?_⟩
      · show ((r.storage.keys.set idx ck).map ConnectionKey.key).Nodup
        rw [hmap]
        exact hdistinct.2 (hclash hidx (by rw [hck]; rfl))
      · intro sel hsel
        show sel < (r.storage.keys.set idx ck).length
        rw [List.length_set]
        exact h.valid sel hsel
      · intro hadded hnone
        have hnil := h.selects hadded hnone
        rw [hnil] at hidx
        exact absurd hidx (Nat.not_lt_zero _)
      · intro hother
        unfold KeyStorage.selectedKey
        cases hsel : r.storage.selected with
        | none => rfl
        | some sel =>
            have hne : idx ≠ sel := fun heq => hother (heq ▸ hsel)
            exact List.getElem?_set_ne hne

theorem intact_iff (h : r.Sound) (op : KeyOp) : r.Intact dec op ↔ r.NoClash dec op := by
  cases op with
  | addKey name key => exact iff_of_true (intact_addKey h name key) trivial
  | updateKey idx name key => exact intact_updateKey_iff h idx name key
  | removeKey idx => exact iff_of_true (intact_removeKey h idx) trivial

end KeyRun

/-- The list of keys stays sound, and no operation moves the selection of another entry, along
exactly the runs in which no update writes the key of another entry. -/
theorem keyList_intact_iff (dec : KeyDecoders) (file : Option KeyStorage)
    (hfile : ∀ s, file = some s → s.Distinct) (ops : List KeyOp) :
    (KeyRun.start file).Sound ∧
      (Along (KeyRun.step dec) (fun r op => r.Intact dec op) (KeyRun.start file) ops ↔
        Along (KeyRun.step dec) (fun r op => r.NoClash dec op) (KeyRun.start file) ops) := by
  have hstart := KeyRun.start_sound hfile
  refine ⟨hstart, along_iff_of_invariant ?_ (fun r op hr _ => KeyRun.intact_iff hr op) hstart
    (along_of_forall (C := fun _ => True) fun _ _ => trivial)⟩
  intro r op hr _ hclash
  exact ((KeyRun.intact_iff hr op).2 hclash).1

/-- The decoders on two keys, both of the text `{}`. -/
def sampleDecoders : KeyDecoders :=
  ⟨fun payload => if payload = "e30".toList then some [0x7b, 0x7d] else none,
    fun bytes => if bytes = [0x7b, 0x7d] then some (.object []) else none⟩

/-- Two keys, and an update of the second one to the first. -/
def sampleKeyOps : List KeyOp :=
  [.addKey "home".toList "e30".toList, .addKey "work".toList "shade://e30".toList,
    .updateKey 1 "work".toList " e30".toList]

theorem keyList_intact_sample :
    (KeyRun.start none).Sound ∧
      (Along (KeyRun.step sampleDecoders) (fun r op => r.Intact sampleDecoders op)
          (KeyRun.start none) sampleKeyOps ↔
        Along (KeyRun.step sampleDecoders) (fun r op => r.NoClash sampleDecoders op)
          (KeyRun.start none) sampleKeyOps) :=
  keyList_intact_iff sampleDecoders none (fun _ h => nomatch h) sampleKeyOps

/-- The update leaves the same key in both entries. -/
theorem updateKey_repeats_key :
    ¬ Along (KeyRun.step sampleDecoders) (fun r op => r.Intact sampleDecoders op)
      (KeyRun.start none) sampleKeyOps := by
  rintro ⟨-, -, ⟨hsound, -⟩, -⟩
  have hnodup : (["e30".toList, "e30".toList] : List Text).Nodup := hsound.distinct
  exact absurd hnodup (by decide)

end Aivpn
