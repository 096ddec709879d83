import Aivpn.Client.KeyStorage
import Aivpn.Lib.Bytes
import Aivpn.Lib.Runs
import Aivpn.Lib.Text

/-!
# Connection keys of the macOS client

`KeychainStorage` keeps a list of keys and the id of the selected one, in memory and in the user
defaults, and `VPNManager` a second copy of the id. A key of the time before the list is taken over
when the app starts and finds the list empty. The same entry of the defaults is written by each
connection.

In every run the ids and the keys are distinct, and a key is selected unless there is none. A
restart shows what was there before, but for one case: after the last key has been deleted, the one
that was connected last comes back (`keychain_run`).
-/

set_option autoImplicit false

namespace Aivpn

open Aivpn.Lib

/-- The scheme in front of a key. -/
def scheme : Text := "shade://".toList

/-- `Data(base64Encoded:)` and the strings of a dictionary that `JSONSerialization` reads, or
`Base64.decode` without padding and `getString` of a `JSONObject`. -/
structure AppDecoders where
  decode : Text → Option Bytes
  jsonObject : Bytes → Option (Text → Option Text)

namespace Macos

/-- `replacingOccurrences(of:with:)` for a pattern that is not empty: `skip` characters belong to an
occurrence that has been replaced. -/
def replacingFrom (pattern new : Text) : (skip : Nat) → Text → Text
  | _, [] => []
  | 0, c :: s =>
      if pattern.isPrefixOf (c :: s) then new ++ replacingFrom pattern new (pattern.length - 1) s
      else c :: replacingFrom pattern new 0 s
  | skip + 1, _ :: s => replacingFrom pattern new skip s

def replacingOccurrences (pattern new s : Text) : Text := replacingFrom pattern new 0 s

/-- `ConnectionKey` of the macOS client. -/
structure ConnectionKey where
  id : Text
  name : Text
  keyValue : Text
  serverAddress : Option Text
  vpnIP : Option Text
deriving DecidableEq, Repr

namespace ConnectionKey

/-- The text that is stored: without blanks around it and without the scheme. -/
def normalized (keyValue : Text) : Text :=
  replacingOccurrences scheme [] (trimBy isWhitespace keyValue)

/-- `init`. -/
def new (dec : AppDecoders) (id name keyValue : Text) : ConnectionKey :=
  let keyValue := normalized keyValue
  let b64 := replacingOccurrences ['_'] ['/'] (replacingOccurrences ['-'] ['+'] keyValue)
  let remainder := b64.length % 4
  let b64 := if 0 < remainder then b64 ++ List.replicate (4 - remainder) '=' else b64
  let json := (dec.decode b64).bind dec.jsonObject
  ⟨id, name, keyValue, json.bind (· ['s']), json.bind (· ['i'])⟩

/-- `fullKey`. -/
def fullKey (key : ConnectionKey) : Text := scheme ++ key.keyValue

end ConnectionKey

/-! ## The list -/

/-- The three entries of the user defaults. -/
structure UserDefaults where
  savedKeys : Option (List ConnectionKey)
  selectedKeyId : Option Text
  connectionKey : Option Text
deriving DecidableEq, Repr

/-- `KeychainStorage`. -/
structure KeychainStorage where
  keys : List ConnectionKey
  selectedKeyId : Option Text
  userDefaults : UserDefaults
deriving DecidableEq, Repr

namespace KeychainStorage

/-- `keys.first?.id`. -/
def firstId (keys : List ConnectionKey) : Option Text := keys.head?.map ConnectionKey.id

/-- `loadKeys`. A selection that is not in the list is dropped for the first key. -/
def loadKeys (s : KeychainStorage) : KeychainStorage :=
  let keys := s.userDefaults.savedKeys.getD s.keys
  let selected := s.userDefaults.selectedKeyId.filter fun id => keys.any (·.id == id)
  if selected = none ∧ keys ≠ [] then
    ⟨keys, firstId keys, { s.userDefaults with selectedKeyId := firstId keys }⟩
  else ⟨keys, selected, s.userDefaults⟩

/-- `saveKeys`. -/
def saveKeys (s : KeychainStorage) : KeychainStorage :=
  { s with userDefaults := { s.userDefaults with savedKeys := some s.keys } }

/-- `addKey`, with the UUID that is drawn for the key. -/
def addKey (dec : AppDecoders) (id name keyValue : Text) (s : KeychainStorage) :
    Option ConnectionKey × KeychainStorage :=
  if s.keys.any (·.keyValue == ConnectionKey.normalized keyValue) then (none, s)
  else
    let newKey := ConnectionKey.new dec id name keyValue
    let s := saveKeys { s with keys := s.keys ++ [newKey] }
    let selected := if s.keys.length = 1 then some newKey.id else s.selectedKeyId
    (some newKey, { s with selectedKeyId := selected })

/-- `updateKeyName`. -/
def updateKeyName (id newName : Text) (s : KeychainStorage) : KeychainStorage :=
  match s.keys.findIdx? (·.id == id) with
  | some index =>
      saveKeys { s with keys := s.keys.modify index fun key => { key with name := newName } }
  | none => s

/-- `updateKey`. -/
def updateKey (dec : AppDecoders) (id name keyValue : Text) (s : KeychainStorage) :
    Bool × KeychainStorage :=
  match s.keys.findIdx? (·.id == id) with
  | none => (false, s)
  | some index =>
      let normalizedKey := ConnectionKey.normalized keyValue
      if s.keys[index]?.map ConnectionKey.keyValue ≠ some normalizedKey ∧
          s.keys.any (fun key => key.id != id && key.keyValue == normalizedKey) = true then
        (false, s)
      else
        let keys := s.keys.set index (ConnectionKey.new dec id name keyValue)
        (true, saveKeys { s with keys := keys })

/-- `selectKey`. -/
def selectKey (id : Option Text) (s : KeychainStorage) : KeychainStorage :=
  { s with selectedKeyId := id, userDefaults := { s.userDefaults with selectedKeyId := id } }

/-- `deleteKey`. -/
def deleteKey (id : Text) (s : KeychainStorage) : KeychainStorage :=
  let s := saveKeys { s with keys := s.keys.filter (·.id != id) }
  if s.selectedKeyId = some id then selectKey (firstId s.keys) s else s

end KeychainStorage

/-! ## The app -/

/-- `VPNManager`, as far as it is about keys. -/
structure VPNManager where
  storage : KeychainStorage
  selectedKeyId : Option Text
deriving DecidableEq, Repr

namespace VPNManager

open KeychainStorage

/-- `init`, on the defaults that the last run has left. The shared storage is loaded when it is
built, and once more here. -/
def launch (dec : AppDecoders) (id : Text) (userDefaults : UserDefaults) : VPNManager :=
  let s := loadKeys (loadKeys ⟨[], none, userDefaults⟩)
  match userDefaults.connectionKey with
  | some raw =>
      if raw ≠ [] ∧ s.keys = [] then
        let s := (s.addKey dec id "Default".toList (ConnectionKey.normalized raw)).2
        ⟨s, s.selectedKeyId⟩
      else ⟨s, s.selectedKeyId⟩
  | none => ⟨s, s.selectedKeyId⟩

/-- `selectKey`. -/
def selectKey (id : Option Text) (m : VPNManager) : VPNManager := ⟨m.storage.selectKey id, id⟩

/-- `addKey`: a key that is added is selected. -/
def addKey (dec : AppDecoders) (id name keyValue : Text) (m : VPNManager) : Bool × VPNManager :=
  match m.storage.addKey dec id name keyValue with
  | (some newKey, s) => (true, ⟨s.selectKey (some newKey.id), some newKey.id⟩)
  | (none, s) => (false, { m with storage := s })

/-- `deleteKey`. -/
def deleteKey (id : Text) (m : VPNManager) : VPNManager :=
  let s := m.storage.deleteKey id
  ⟨s, if m.selectedKeyId = some id then s.selectedKeyId else m.selectedKeyId⟩

/-- `updateKey`. -/
def updateKey (dec : AppDecoders) (id name keyValue : Text) (m : VPNManager) : Bool × VPNManager :=
  let (updated, s) := m.storage.updateKey dec id name keyValue
  (updated, { m with storage := s })

/-- `updateKeyName`. -/
def updateKeyName (id newName : Text) (m : VPNManager) : VPNManager :=
  { m with storage := m.storage.updateKeyName id newName }

/-- `selectedKey`. -/
def selectedKey (m : VPNManager) : Option ConnectionKey :=
  m.selectedKeyId.bind fun id => m.storage.keys.find? (·.id == id)

/-- The connect button. `ready` says that the helper answers and that no connection is up or
being made. -/
def connect (ready : Bool) (m : VPNManager) : VPNManager :=
  match m.selectedKey.or m.storage.keys.head? with
  | some key =>
      if ready then
        let userDefaults := { m.storage.userDefaults with
          connectionKey := some (ConnectionKey.normalized key.keyValue) }
        { m with storage := { m.storage with userDefaults := userDefaults } }
      else m
  | none => m

/-- What the user does. -/
inductive Op where
  | addKey (id name keyValue : Text)
  | updateKey (id name keyValue : Text)
  | updateKeyName (id newName : Text)
  | deleteKey (id : Text)
  | selectKey (id : Text)
  | connect (ready : Bool)
  | relaunch (id : Text)

/-- One operation. -/
def step (dec : AppDecoders) (m : VPNManager) : Op → VPNManager
  | .addKey id name keyValue => (m.addKey dec id name keyValue).2
  | .updateKey id name keyValue => (m.updateKey dec id name keyValue).2
  | .updateKeyName id newName => m.updateKeyName id newName
  | .deleteKey id => m.deleteKey id
  | .selectKey id => m.selectKey (some id)
  | .connect ready => m.connect ready
  | .relaunch id => launch dec id m.storage.userDefaults

/-- The ids in the list. -/
def ids (m : VPNManager) : List Text := m.storage.keys.map ConnectionKey.id

/-- A new UUID is none of those in the list, and the rows of the list are what can be selected. -/
def Due (m : VPNManager) : Op → Prop
  | .addKey id _ _ => id ∉ m.ids
  | .selectKey id => id ∈ m.ids
  | _ => True

/-- Before the first start. An earlier version may have left a key. -/
def fresh (legacy : Option Text) : VPNManager := ⟨⟨[], none, ⟨none, none, legacy⟩⟩, none⟩

end VPNManager

/-! ## What every operation keeps -/

namespace KeychainStorage

/-- Distinct ids and distinct keys, all of them saved, and one of them selected unless there is
none. The selection is saved as well, or a start will choose it again. -/
structure Kept (s : KeychainStorage) : Prop where
  ids : (s.keys.map ConnectionKey.id).Nodup
  values : (s.keys.map ConnectionKey.keyValue).Nodup
  saved : s.userDefaults.savedKeys.getD [] = s.keys
  selects : s.selectedKeyId = none → s.keys = []
  listed : ∀ id, s.selectedKeyId = some id → id ∈ s.keys.map ConnectionKey.id
  stored : s.userDefaults.selectedKeyId = s.selectedKeyId ∨
    s.userDefaults.selectedKeyId = none ∧ s.selectedKeyId = firstId s.keys

section

variable {dec : AppDecoders} {s t : KeychainStorage} {id name keyValue : Text}

theorem firstId_eq (keys : List ConnectionKey) :
    firstId keys = (keys.map ConnectionKey.id).head? := List.head?_map.symm

theorem firstId_eq_none {keys : List ConnectionKey} (h : firstId keys = none) : keys = [] := by
  cases keys with
  | nil => rfl
  | cons key keys => cases h

theorem mem_of_firstId {keys : List ConnectionKey} (h : firstId keys = some id) :
    id ∈ keys.map ConnectionKey.id := by
  rw [firstId_eq] at h
  exact List.mem_of_head? h

/-- In an empty list nothing is selected, nor saved as selected. -/
theorem Kept.of_nil (h : s.Kept) (hnil : s.keys = []) :
    s.selectedKeyId = none ∧ s.userDefaults.selectedKeyId = none := by
  have hselected : s.selectedKeyId = none := by
    cases hid : s.selectedKeyId with
    | none => rfl
    | some id =>
        have hmem := h.listed id hid
        rw [hnil] at hmem
        cases hmem
  refine ⟨hselected, ?_⟩
  rcases h.stored with hstored | ⟨hstored, -⟩
  · rw [hstored, hselected]
  · exact hstored

/-- The list may be written anew as long as the ids stay. -/
theorem Kept.withKeys (h : s.Kept) {keys : List ConnectionKey}
    (hids : keys.map ConnectionKey.id = s.keys.map ConnectionKey.id)
    (hvalues : (keys.map ConnectionKey.keyValue).Nodup) :
    (saveKeys { s with keys := keys }).Kept where
  ids := hids ▸ h.ids
  values := hvalues
  saved := rfl
  selects := by
    intro hnone
    have hnil := h.selects hnone
    rw [hnil, List.map_nil, List.map_eq_nil_iff] at hids
    exact hids
  listed := hids ▸ h.listed
  stored := by
    have hstored := h.stored
    rw [firstId_eq, ← hids, ← firstId_eq] at hstored
    exact hstored

/-- The same list and the same selection, wherever the selection is saved. -/
theorem Kept.congr (h : s.Kept) (hkeys : t.keys = s.keys)
    (hselected : t.selectedKeyId = s.selectedKeyId)
    (hsaved : t.userDefaults.savedKeys = s.userDefaults.savedKeys)
    (hstored : t.userDefaults.selectedKeyId = t.selectedKeyId ∨
      t.userDefaults.selectedKeyId = none ∧ t.selectedKeyId = firstId t.keys) : t.Kept where
  ids := by rw [hkeys]; exact h.ids
  values := by rw [hkeys]; exact h.values
  saved := by rw [hkeys, hsaved]; exact h.saved
  selects := by rw [hkeys, hselected]; exact h.selects
  listed := by rw [hkeys, hselected]; exact h.listed
  stored := hstored

/-- A key is found under its id. -/
theorem exists_of_findIdx? {index : Nat} (h : s.keys.findIdx? (·.id == id) = some index) :
    ∃ key, s.keys[index]? = some key ∧ key.id = id := by
  obtain ⟨hlt, hid, -⟩ := List.findIdx?_eq_some_iff_getElem.1 h
  exact ⟨_, List.getElem?_eq_getElem hlt, beq_iff_eq.1 hid⟩

/-! ### Loading -/

/-- A start finds the list and the selection of before. -/
theorem kept_loadKeys (h : s.Kept) (hdefaults : t.userDefaults = s.userDefaults)
    (hkeys : t.keys = [] ∨ t.keys = s.keys) :
    (loadKeys t).Kept ∧ (loadKeys t).keys = s.keys ∧
      (loadKeys t).selectedKeyId = s.selectedKeyId ∧
      (loadKeys t).userDefaults.connectionKey = s.userDefaults.connectionKey := by
  have hlist : s.userDefaults.savedKeys.getD t.keys = s.keys := by
    have hsaved := h.saved
    cases hd : s.userDefaults.savedKeys with
    | some keys => rwa [hd] at hsaved
    | none =>
        rw [hd] at hsaved
        rcases hkeys with hnil | hsame
        · exact hnil.trans hsaved
        · exact hsame
  have hfilter : s.selectedKeyId.filter (fun id => s.keys.any (·.id == id)) = s.selectedKeyId := by
    cases hid : s.selectedKeyId with
    | none => rfl
    | some id =>
        obtain ⟨key, hkey, heq⟩ := List.mem_map.1 (h.listed id hid)
        exact Option.filter_some_pos (List.any_eq_true.2 ⟨key, hkey, beq_iff_eq.2 heq⟩)
  have hload : (loadKeys t).keys = s.keys ∧ (loadKeys t).selectedKeyId = s.selectedKeyId ∧
      ((loadKeys t).userDefaults = s.userDefaults ∨ (loadKeys t).userDefaults =
        { s.userDefaults with selectedKeyId := s.selectedKeyId }) := by
    unfold loadKeys
    simp only [hdefaults, hlist]
    rcases h.stored with hstored | ⟨hstored, hfirst⟩
    · have hcond : ¬ (s.selectedKeyId = none ∧ s.keys ≠ []) := fun hc => hc.2 (h.selects hc.1)
      rw [hstored, hfilter, if_neg hcond]
      exact ⟨rfl, rfl, Or.inl rfl⟩
    · rw [hstored, Option.filter_none]
      by_cases hnil : s.keys = []
      · rw [if_neg fun hc => hc.2 hnil]
        exact ⟨rfl, (h.of_nil hnil).1.symm, Or.inl rfl⟩
      · rw [if_pos ⟨rfl, hnil⟩, hfirst]
        exact ⟨rfl, rfl, Or.inr rfl⟩
  obtain ⟨hkeys', hselected, hd⟩ := hload
  refine ⟨h.congr hkeys' hselected ?_ ?_, hkeys', hselected, ?_⟩
  · rcases hd with hd | hd <;> rw [hd]
  · rcases hd with hd | hd
    · rw [hd, hselected, hkeys']
      exact h.stored
    · rw [hd, hselected]
      exact Or.inl rfl
  · rcases hd with hd | hd <;> rw [hd]

/-! ### The operations -/

theorem id_new (dec : AppDecoders) (id name keyValue : Text) :
    (ConnectionKey.new dec id name keyValue).id = id := rfl

theorem keyValue_new (dec : AppDecoders) (id name keyValue : Text) :
    (ConnectionKey.new dec id name keyValue).keyValue = ConnectionKey.normalized keyValue := rfl

/-- `addKey` refuses a key of the list, or appends the key and saves the list. -/
theorem addKey_cases (dec : AppDecoders) (id name keyValue : Text) (s : KeychainStorage) :
    (ConnectionKey.normalized keyValue ∈ s.keys.map ConnectionKey.keyValue ∧
      addKey dec id name keyValue s = (none, s)) ∨
      ConnectionKey.normalized keyValue ∉ s.keys.map ConnectionKey.keyValue ∧
        ∃ t, addKey dec id name keyValue s = (some (ConnectionKey.new dec id name keyValue), t) ∧
          t.keys = s.keys ++ [ConnectionKey.new dec id name keyValue] ∧
          t.userDefaults = { s.userDefaults with savedKeys := some t.keys } ∧
          (s.keys = [] → t.selectedKeyId = some id) := by
  unfold addKey
  by_cases hdup : s.keys.any (·.keyValue == ConnectionKey.normalized keyValue) = true
  · rw [if_pos hdup]
    obtain ⟨key, hkey, heq⟩ := List.any_eq_true.1 hdup
    exact Or.inl ⟨List.mem_map.2 ⟨key, hkey, beq_iff_eq.1 heq⟩, rfl⟩
  · rw [if_neg hdup]
    refine Or.inr ⟨?_, _, rfl, rfl, rfl, ?_⟩
    · intro hmem
      obtain ⟨key, hkey, heq⟩ := List.mem_map.1 hmem
      exact hdup (List.any_eq_true.2 ⟨key, hkey, beq_iff_eq.2 heq⟩)
    · intro hnil
      apply if_pos
      show (s.keys ++ [ConnectionKey.new dec id name keyValue]).length = 1
      rw [hnil]
      rfl

/-- A new key behind the others. -/
theorem Kept.nodup_append (h : s.Kept) (hid : id ∉ s.keys.map ConnectionKey.id)
    (hvalue : ConnectionKey.normalized keyValue ∉ s.keys.map ConnectionKey.keyValue)
    (hkeys : t.keys = s.keys ++ [ConnectionKey.new dec id name keyValue]) :
    (t.keys.map ConnectionKey.id).Nodup ∧ (t.keys.map ConnectionKey.keyValue).Nodup := by
  rw [hkeys, List.map_append, List.map_append, List.map_singleton, List.map_singleton, id_new,
    keyValue_new]
  exact ⟨h.ids.append (List.nodup_singleton _) (List.disjoint_singleton.2 hid),
    h.values.append (List.nodup_singleton _) (List.disjoint_singleton.2 hvalue)⟩

theorem kept_updateKeyName (h : s.Kept) (id newName : Text) :
    (updateKeyName id newName s).Kept := by
  unfold updateKeyName
  cases hindex : s.keys.findIdx? (·.id == id) with
  | none => exact h
  | some index =>
      have hmap {β : Type} (f : ConnectionKey → β)
          (hf : ∀ key : ConnectionKey, f { key with name := newName } = f key) :
          (s.keys.modify index fun key => { key with name := newName }).map f = s.keys.map f := by
        apply List.ext_getElem?
        intro i
        rw [List.getElem?_map, List.getElem?_map, List.getElem?_modify]
        cases s.keys[i]? with
        | none => rfl
        | some key =>
            by_cases hi : index = i
            · simp only [Option.map_eq_map, Option.map_some, if_pos hi, hf]
            · simp only [Option.map_eq_map, Option.map_some, if_neg hi]
      apply h.withKeys (hmap _ fun _ => rfl)
      rw [hmap _ fun _ => rfl]
      exact h.values

theorem kept_updateKey (h : s.Kept) (dec : AppDecoders) (id name keyValue : Text) :
    (updateKey dec id name keyValue s).2.Kept := by
  unfold updateKey
  cases hindex : s.keys.findIdx? (·.id == id) with
  | none => exact h
  | some index =>
      obtain ⟨key, hkey, hid⟩ := exists_of_findIdx? hindex
      obtain ⟨hlt, -⟩ := List.getElem?_eq_some_iff.1 hkey
      have hids : (s.keys.map ConnectionKey.id)[index]? = some id := by
        rw [List.getElem?_map, hkey, Option.map_some, hid]
      have hvalue : (s.keys.map ConnectionKey.keyValue)[index]? = some key.keyValue := by
        rw [List.getElem?_map, hkey, Option.map_some]
      simp only [hkey, Option.map_some]
      split_ifs with hclash
      · exact h
      apply h.withKeys
      · rw [List.map_set, id_new]
        obtain ⟨hlt', heq⟩ := List.getElem?_eq_some_iff.1 hids
        rw [← heq]
        exact List.set_getElem_self hlt'
      · rw [List.map_set, keyValue_new]
        apply (KeyStorage.nodup_set_iff h.values (by rwa [List.length_map]) _).2
        intro j hj hother
        by_cases hsame : key.keyValue = ConnectionKey.normalized keyValue
        · -- the key keeps its own text
          rw [← hsame, ← hvalue] at hother
          have hlt' := (List.getElem?_eq_some_iff.1 (hother.trans hvalue)).1
          exact hj ((List.getElem?_inj hlt' h.values).1 hother)
        · rw [List.getElem?_map] at hother
          obtain ⟨other, hget, htext⟩ := Option.map_eq_some_iff.1 hother
          have hdifferent : other.id ≠ id := by
            intro heq
            have hj' : (s.keys.map ConnectionKey.id)[j]? = some id := by
              rw [List.getElem?_map, hget, Option.map_some, heq]
            apply hj
            exact (List.getElem?_inj (List.getElem?_eq_some_iff.1 hj').1 h.ids).1
              (hj'.trans hids.symm)
          apply hclash
          refine ⟨fun heq => hsame (Option.some.inj heq), List.any_eq_true.2 ⟨other, ?_, ?_⟩⟩
          · exact List.mem_of_getElem? hget
          · rw [Bool.and_eq_true, bne_iff_ne, beq_iff_eq]
            exact ⟨hdifferent, htext⟩

theorem kept_deleteKey (h : s.Kept) (id : Text) : (deleteKey id s).Kept := by
  have hsublist := List.filter_sublist (p := fun key : ConnectionKey => key.id != id) (l := s.keys)
  have hids := h.ids.sublist (hsublist.map _)
  have hvalues := h.values.sublist (hsublist.map _)
  unfold deleteKey
  simp only
  split_ifs with hselected
  · exact ⟨hids, hvalues, rfl, firstId_eq_none, fun _ => mem_of_firstId, Or.inl rfl⟩
  · have hother {i : Text} (hi : s.selectedKeyId = some i) : i ≠ id := fun heq =>
      hselected (heq ▸ hi)
    refine ⟨hids, hvalues, rfl, ?_, ?_, ?_⟩
    · intro hnone
      show s.keys.filter _ = []
      rw [h.selects hnone]
      rfl
    · intro i hi
      obtain ⟨key, hkey, heq⟩ := List.mem_map.1 (h.listed i hi)
      have hkept : (key.id != id) = true := bne_iff_ne.2 (heq ▸ hother hi)
      exact List.mem_map.2 ⟨key, List.mem_filter.2 ⟨hkey, hkept⟩, heq⟩
    · rcases h.stored with hstored | ⟨hstored, hfirst⟩
      · exact Or.inl hstored
      · refine Or.inr ⟨hstored, ?_⟩
        show s.selectedKeyId = firstId (s.keys.filter fun key => key.id != id)
        rw [hfirst]
        cases hkeys : s.keys with
        | nil => rfl
        | cons key keys =>
            -- the first key is the selected one, and so it stays
            rw [hkeys] at hfirst
            have hkept : (key.id != id) = true := bne_iff_ne.2 (hother hfirst)
            rw [List.filter_cons, if_pos hkept]
            rfl

end

end KeychainStorage

namespace VPNManager

open KeychainStorage

/-- The storage is in order, and both parts of the app have selected the same key. -/
structure Kept (m : VPNManager) : Prop where
  storage : m.storage.Kept
  same : m.selectedKeyId = m.storage.selectedKeyId

section

variable {dec : AppDecoders} {m : VPNManager}

theorem kept_fresh (legacy : Option Text) : (fresh legacy).Kept where
  storage := ⟨List.nodup_nil, List.nodup_nil, rfl, fun _ => rfl, fun _ h => (by cases h),
    Or.inl rfl⟩
  same := rfl

/-- The list and the selection are those of before. -/
def Shows (m before : VPNManager) : Prop :=
  m.storage.keys = before.storage.keys ∧ m.selectedKeyId = before.selectedKeyId

/-- A start shows what was there, unless the list is empty and there is a key to take over. -/
theorem launch_kept (h : m.Kept) (dec : AppDecoders) (id : Text) :
    (launch dec id m.storage.userDefaults).Kept ∧
      (m.storage.keys ≠ [] ∨ m.storage.userDefaults.connectionKey.getD [] = [] →
        (launch dec id m.storage.userDefaults).Shows m) ∧
      ∀ raw, m.storage.keys = [] → m.storage.userDefaults.connectionKey = some raw → raw ≠ [] →
        (launch dec id m.storage.userDefaults).storage.keys = [ConnectionKey.new dec id
          "Default".toList (ConnectionKey.normalized raw)] := by
  obtain ⟨hkept₁, hkeys₁, hselected₁, hkey₁⟩ :=
    kept_loadKeys (t := ⟨[], none, m.storage.userDefaults⟩) h.storage rfl (Or.inl rfl)
  obtain ⟨hkept, hkeys, hselected, -⟩ := kept_loadKeys hkept₁ rfl (Or.inr rfl)
  rw [hkeys₁] at hkeys
  rw [hselected₁] at hselected
  have hsame : Shows ⟨loadKeys (loadKeys ⟨[], none, m.storage.userDefaults⟩),
      (loadKeys (loadKeys ⟨[], none, m.storage.userDefaults⟩)).selectedKeyId⟩ m :=
    ⟨hkeys, hselected.trans h.same.symm⟩
  unfold launch
  simp only
  cases hraw : m.storage.userDefaults.connectionKey with
  | none => exact ⟨⟨hkept, rfl⟩, fun _ => hsame, fun raw _ heq => by cases heq⟩
  | some raw =>
      simp only
      split_ifs with htake
      · obtain ⟨hne, hnil⟩ := htake
        have hnew : ConnectionKey.normalized (ConnectionKey.normalized raw) ∉
            (loadKeys (loadKeys ⟨[], none, m.storage.userDefaults⟩)).keys.map
              ConnectionKey.keyValue := by
          rw [hnil]
          exact List.not_mem_nil
        have hid : id ∉ (loadKeys (loadKeys ⟨[], none, m.storage.userDefaults⟩)).keys.map
            ConnectionKey.id := by
          rw [hnil]
          exact List.not_mem_nil
        rcases addKey_cases dec id "Default".toList (ConnectionKey.normalized raw)
          (loadKeys (loadKeys ⟨[], none, m.storage.userDefaults⟩)) with ⟨hold, -⟩ |
            ⟨-, t, hadd, hlist, hdefaults, hselect⟩
        · exact absurd hold hnew
        obtain ⟨hids, hvalues⟩ := hkept.nodup_append hid hnew hlist
        rw [hadd]
        rw [hnil] at hlist
        have ht : t.Kept := by
          refine ⟨hids, hvalues, ?_, ?_, ?_, Or.inr ⟨?_, ?_⟩⟩
          · rw [hdefaults]
            rfl
          · rw [hselect hnil]
            intro h
            cases h
          · rw [hselect hnil, hlist]
            rintro _ ⟨⟩
            exact List.mem_singleton_self _
          · rw [hdefaults]
            exact (hkept.of_nil hnil).2
          · rw [hselect hnil, hlist]
            rfl
        refine ⟨⟨ht, rfl⟩, ?_, ?_⟩
        · rintro (hkeep | hempty)
          · exact absurd (hkeys ▸ hnil) hkeep
          · exact absurd hempty hne
        · rintro _ - ⟨⟩ -
          exact hlist
      · refine ⟨⟨hkept, rfl⟩, fun _ => hsame, ?_⟩
        rintro _ hnil ⟨⟩ hne
        exact absurd ⟨hne, hkeys.trans hnil⟩ htake

theorem selectedKeyId_updateKey (dec : AppDecoders) (id name keyValue : Text)
    (s : KeychainStorage) :
    (s.updateKey dec id name keyValue).2.selectedKeyId = s.selectedKeyId := by
  unfold KeychainStorage.updateKey
  split
  · rfl
  · simp only
    split_ifs <;> rfl

theorem selectedKeyId_updateKeyName (id newName : Text) (s : KeychainStorage) :
    (s.updateKeyName id newName).selectedKeyId = s.selectedKeyId := by
  unfold KeychainStorage.updateKeyName
  split <;> rfl

theorem kept_addKey (h : m.Kept) {id : Text} (hid : id ∉ m.ids) (name keyValue : Text) :
    (m.addKey dec id name keyValue).2.Kept := by
  unfold addKey
  rcases addKey_cases dec id name keyValue m.storage with ⟨-, hadd⟩ |
    ⟨hnew, t, hadd, hkeys, hdefaults, -⟩
  · rw [hadd]
    exact h
  · rw [hadd]
    obtain ⟨hids, hvalues⟩ := h.storage.nodup_append hid hnew hkeys
    refine ⟨⟨hids, hvalues, ?_, fun hnone => (by cases hnone), ?_, Or.inl rfl⟩, rfl⟩
    · show t.userDefaults.savedKeys.getD [] = t.keys
      rw [hdefaults]
      rfl
    · rintro _ ⟨⟩
      show id ∈ t.keys.map ConnectionKey.id
      rw [hkeys, List.map_append]
      exact List.mem_append_right _ (List.mem_singleton_self _)

theorem kept_deleteKey (h : m.Kept) (id : Text) : (m.deleteKey id).Kept := by
  refine ⟨KeychainStorage.kept_deleteKey h.storage id, ?_⟩
  unfold deleteKey KeychainStorage.deleteKey
  simp only [h.same]
  split_ifs with hselected hsaved
  · rfl
  · exact absurd hselected hsaved
  · rename_i hsaved
    exact absurd hsaved hselected
  · rfl

theorem kept_connect (h : m.Kept) (ready : Bool) : (m.connect ready).Kept := by
  unfold connect
  split
  · split_ifs
    · exact ⟨h.storage.congr rfl rfl rfl h.storage.stored, h.same⟩
    · exact h
  · exact h

/-- Each operation keeps the storage in order. -/
theorem Kept.step (h : m.Kept) {op : Op} (hop : m.Due op) : (m.step dec op).Kept := by
  cases op with
  | addKey id name keyValue => exact kept_addKey h hop name keyValue
  | updateKey id name keyValue =>
      refine ⟨kept_updateKey h.storage dec id name keyValue, ?_⟩
      exact h.same.trans (selectedKeyId_updateKey dec id name keyValue m.storage).symm
  | updateKeyName id newName =>
      refine ⟨kept_updateKeyName h.storage id newName, ?_⟩
      exact h.same.trans (selectedKeyId_updateKeyName id newName m.storage).symm
  | deleteKey id => exact kept_deleteKey h id
  | selectKey id =>
      refine ⟨⟨h.storage.ids, h.storage.values, h.storage.saved, fun hnone => (by cases hnone), ?_,
        Or.inl rfl⟩, rfl⟩
      rintro _ ⟨⟩
      exact hop
  | connect ready => exact kept_connect h ready
  | relaunch id => exact (launch_kept h dec id).1

end

/-- In every run of the app, with any restarts, the ids and the keys are distinct, and one of them
is selected unless there is none. A restart shows the same list and the same selection, unless the
list is empty and a key is left to take over; then it shows that key. -/
theorem keychain_run (dec : AppDecoders) (legacy : Option Text) (ops : List Op)
    (hops : Along (step dec) Due (fresh legacy) ops) :
    let m := runFrom (step dec) (fresh legacy) ops
    m.Kept ∧
      (∀ id, (m.step dec (.relaunch id)).Shows m ↔
        m.storage.keys ≠ [] ∨ m.storage.userDefaults.connectionKey.getD [] = []) ∧
      ∀ id raw, m.storage.keys = [] → m.storage.userDefaults.connectionKey = some raw → raw ≠ [] →
        (m.step dec (.relaunch id)).storage.keys =
          [ConnectionKey.new dec id "Default".toList (ConnectionKey.normalized raw)] := by
  intro m
  have hkept : m.Kept := runFrom_invariant_of_along (fun _ _ h hop => h.step hop)
    (kept_fresh legacy) hops
  refine ⟨hkept, fun id => ⟨?_, (launch_kept hkept dec id).2.1⟩, fun id =>
    (launch_kept hkept dec id).2.2⟩
  intro hshows
  by_contra hnot
  obtain ⟨hkeys, hraw⟩ := not_or.1 hnot
  have hnil : m.storage.keys = [] := not_not.1 hkeys
  cases hkey : m.storage.userDefaults.connectionKey with
  | none =>
      rw [hkey] at hraw
      exact hraw rfl
  | some raw =>
      rw [hkey] at hraw
      have htaken := (launch_kept hkept dec id).2.2 raw hnil hkey hraw
      have hsame : (m.step dec (.relaunch id)).storage.keys = [] := hshows.1.trans hnil
      rw [show (m.step dec (.relaunch id)).storage.keys = _ from htaken] at hsame
      cases hsame

/-- A key is added, connected and deleted, and comes back with the next start. -/
def sampleOps : List Op :=
  [.relaunch "A".toList, .addKey "B".toList "home".toList "shade://e30".toList, .connect true,
    .deleteKey "B".toList, .relaunch "C".toList]

theorem keychain_sample :
    let m := runFrom (step ⟨fun _ => none, fun _ => none⟩) (fresh none) sampleOps
    m.Kept ∧
      (∀ id, (m.step ⟨fun _ => none, fun _ => none⟩ (.relaunch id)).Shows m ↔
        m.storage.keys ≠ [] ∨ m.storage.userDefaults.connectionKey.getD [] = []) ∧
      ∀ id raw, m.storage.keys = [] → m.storage.userDefaults.connectionKey = some raw → raw ≠ [] →
        (m.step ⟨fun _ => none, fun _ => none⟩ (.relaunch id)).storage.keys =
          [ConnectionKey.new ⟨fun _ => none, fun _ => none⟩ id "Default".toList
            (ConnectionKey.normalized raw)] := by
  apply keychain_run
  refine ⟨trivial, ?_, trivial, trivial, trivial, trivial⟩
  show "B".toList ∉ ids _
  decide

end VPNManager

end Macos

end Aivpn
