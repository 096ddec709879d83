import Aivpn.Server.ClientDb

/-!
# Updates of the client database that fail

`add_client` and `remove_client` of `client_db.rs` with the save at their end. Both change the copy in
memory, give the lock back and then save; a save that fails, wherever it fails, ends the call with an
error and leaves the change. A call that fails leaves no trace exactly as long as it fails before
(`leavesNoTrace_iff`).
-/

set_option autoImplicit false

namespace Aivpn

open Aivpn.Lib

/-- Where `save` fails. -/
inductive SaveFailure where
  | serialize
  | write
  | rename
deriving DecidableEq, Repr

namespace SaveFailure

/-- The error of a save that fails. -/
def error : SaveFailure → Error
  | serialize => .session "Failed to serialize client DB"
  | write => .session "Failed to write client DB"
  | rename => .session "Failed to rename client DB"

end SaveFailure

namespace ClientDbFile

/-- `save`. It reads the copy in memory and does not change it. -/
def save : Option SaveFailure → Except Error Unit
  | none => .ok ()
  | some failure => .error failure.error

/-- `add_client`, with the random bytes and the time it takes. -/
def addClientAndSave (saved : Option SaveFailure) (name : String) (idBytes : ByteArr 8) (psk : Key)
    (now : Nat) (d : ClientDbFile) : Except Error ClientRecord × ClientDbFile :=
  match d.addClient name idBytes psk now with
  | (.error e, d') => (.error e, d')
  | (.ok client, d') => ((save saved).map fun _ => client, d')

/-- `remove_client`. -/
def removeClientAndSave (saved : Option SaveFailure) (clientId : String) (d : ClientDbFile) :
    Except Error Unit × ClientDbFile :=
  match d.removeClient clientId with
  | (.error e, d') => (.error e, d')
  | (.ok _, d') => (save saved, d')

/-- A call of one of them. -/
inductive Update where
  | addClient (name : String) (idBytes : ByteArr 8) (psk : Key) (now : Nat)
  | removeClient (clientId : String)

namespace Update

/-- The copy in memory behind the call. -/
def memory (saved : Option SaveFailure) (d : ClientDbFile) : Update → ClientDbFile
  | addClient name idBytes psk now => (d.addClientAndSave saved name idBytes psk now).2
  | removeClient clientId => (d.removeClientAndSave saved clientId).2

/-- The call returns `Err`. -/
def Fails (saved : Option SaveFailure) (d : ClientDbFile) : Update → Prop
  | addClient name idBytes psk now => ∃ e, (d.addClientAndSave saved name idBytes psk now).1 = .error e
  | removeClient clientId => ∃ e, (d.removeClientAndSave saved clientId).1 = .error e

/-- The call gets as far as its save. -/
def Reaches (d : ClientDbFile) : Update → Prop
  | addClient name _ _ _ => (∀ c ∈ d.clients, c.name ≠ name) ∧ d.nextOctet ≤ 254
  | removeClient clientId => ∃ c ∈ d.clients, c.id = clientId

/-- A call that fails leaves the clients and the next octet as they were. -/
def LeavesNoTrace (saved : Option SaveFailure) (d : ClientDbFile) (u : Update) : Prop :=
  u.Fails saved d → u.memory saved d = d

variable {d : ClientDbFile}

/-- A call that does not reach its save changes nothing. -/
theorem memory_of_not_reaches {u : Update} (h : ¬ u.Reaches d) (saved : Option SaveFailure) :
    u.memory saved d = d := by
  cases u with
  | addClient name idBytes psk now =>
      show (d.addClientAndSave saved name idBytes psk now).2 = d
      unfold addClientAndSave ClientDbFile.addClient
      by_cases hname : d.clients.any (fun c => c.name == name) = true
      · rw [if_pos hname]
      by_cases hoctet : 254 < d.nextOctet
      · rw [if_neg hname, if_pos hoctet]
      · refine absurd ⟨?_, UInt8.not_lt.1 hoctet⟩ h
        intro c hc hsame
        exact hname (List.any_eq_true.2 ⟨c, hc, beq_iff_eq.2 hsame⟩)
  | removeClient clientId =>
      have hkept : d.clients.filter (fun c => c.id != clientId) = d.clients := by
        rw [List.filter_eq_self]
        intro c hc
        exact bne_iff_ne.2 fun hid => h ⟨c, hc, hid⟩
      show (d.removeClientAndSave saved clientId).2 = d
      unfold removeClientAndSave ClientDbFile.removeClient
      simp only [hkept, if_true]

/-- A call that reaches its save has changed the clients, and fails if the save does. -/
theorem fails_of_reaches {u : Update} (h : u.Reaches d) (saved : Option SaveFailure) :
    (u.Fails saved d ↔ saved ≠ none) ∧
      (u.memory saved d).clients.length ≠ d.clients.length := by
  cases u with
  | addClient name idBytes psk now =>
      have hname : ¬ d.clients.any (fun c => c.name == name) = true := by
        rw [List.any_eq_true]
        rintro ⟨c, hc, hsame⟩
        exact h.1 c hc (beq_iff_eq.1 hsame)
      have hoctet : ¬ 254 < d.nextOctet := UInt8.not_lt.2 h.2
      show ((∃ e, (d.addClientAndSave saved name idBytes psk now).1 = .error e) ↔ _) ∧
        (d.addClientAndSave saved name idBytes psk now).2.clients.length ≠ _
      unfold addClientAndSave ClientDbFile.addClient
      rw [if_neg hname, if_neg hoctet]
      refine ⟨?_, ?_⟩
      · cases saved <;> simp [save, Except.map]
      · simp only [List.length_append, List.length_singleton]
        omega
  | removeClient clientId =>
      obtain ⟨c, hc, hid⟩ := h
      have hshorter : (d.clients.filter fun c => c.id != clientId).length ≠ d.clients.length := by
        rw [Ne, List.length_filter_eq_length_iff]
        intro hall
        exact bne_iff_ne.1 (hall c hc) hid
      show ((∃ e, (d.removeClientAndSave saved clientId).1 = .error e) ↔ _) ∧
        (d.removeClientAndSave saved clientId).2.clients.length ≠ _
      unfold removeClientAndSave ClientDbFile.removeClient
      simp only
      rw [if_neg hshorter]
      refine ⟨?_, hshorter⟩
      cases saved <;> simp [save]

/-- A failed call leaves no trace if and only if the save does not fail, or the call ends before. -/
theorem leavesNoTrace_iff (u : Update) (saved : Option SaveFailure) (d : ClientDbFile) :
    u.LeavesNoTrace saved d ↔ saved = none ∨ ¬ u.Reaches d := by
  constructor
  · intro h
    by_contra hnot
    obtain ⟨hsaved, hreaches⟩ := not_or.1 hnot
    obtain ⟨hfails, hchanged⟩ := fails_of_reaches (not_not.1 hreaches) saved
    exact hchanged (by rw [h (hfails.2 hsaved)])
  · rintro (rfl | hnot) hfails
    · by_cases hreaches : u.Reaches d
      · exact absurd rfl ((fails_of_reaches hreaches none).1.1 hfails)
      · exact memory_of_not_reaches hreaches none
    · exact memory_of_not_reaches hnot saved

/-- The rename fails behind the first registration: the call fails, and the client is there. -/
theorem failed_addClient_leaves_client :
    ¬ (addClient "Phone" (ByteArr.replicate 8 0) (ByteArr.replicate 32 0) 0).LeavesNoTrace
      (some .rename) default := by
  intro h
  have hsame := congrArg (fun d => d.clients.length) (h ⟨_, rfl⟩)
  exact absurd hsame (by decide)

end Update

end ClientDbFile

end Aivpn
