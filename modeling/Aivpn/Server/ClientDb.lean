import Aivpn.Server.Gateway
import Aivpn.Lib.Runs
import Mathlib.Data.Finset.Dedup

/-!
# The client database

`client_db.rs`: the registered clients with their keys, addresses and statistics, and the file that
holds them. What the file holds is the database itself; the JSON in between is left out.

A reload compares the ids of the two versions and nothing else. It takes effect exactly if the ids
differ or there is nothing to take over (`reload_takesEffect_iff`).
-/

set_option autoImplicit false

namespace Aivpn

open Aivpn.Lib

/-- `ClientStats`. The counters wrap around. -/
structure ClientStats where
  bytesIn : UInt64
  bytesOut : UInt64
  lastConnected : Option Nat
  totalConnections : UInt64
  lastHandshake : Option Nat
deriving DecidableEq, Repr

/-- `ClientStats::default`. -/
def ClientStats.default : ClientStats := ⟨0, 0, none, 0, none⟩

/-- `ClientConfig` with all its fields. -/
structure ClientRecord extends ClientConfig where
  name : String
  createdAt : Nat
  stats : ClientStats
deriving DecidableEq, Repr

/-- `ClientDbFile`. -/
structure ClientDbFile where
  clients : List ClientRecord
  nextOctet : UInt8
deriving DecidableEq, Repr

/-- What is found at a path. -/
inductive Disk where
  | missing
  | malformed
  | content (data : ClientDbFile)
deriving DecidableEq, Repr

namespace ClientDbFile

/-- `ClientDbFile::default`: 10.0.0.1 is the server. -/
def default : ClientDbFile := ⟨[], 2⟩

/-! ## The functions of `ClientDatabase` -/

/-- `load`. -/
def load : Disk → Except Error ClientDbFile
  | .missing => .ok default
  | .malformed => .error (.session "Failed to parse client DB")
  | .content data => .ok data

/-- A byte as `{:02x}`. -/
def hexByte (b : UInt8) : String :=
  let digit (n : Nat) : Char := "0123456789abcdef".toList.getD n '0'
  String.ofList [digit (b.toNat / 16), digit (b.toNat % 16)]

/-- The id of a client in hexadecimal. -/
def hexId (idBytes : ByteArr 8) : String := String.join (idBytes.toList.map hexByte)

/-- `add_client` up to the save, with the random bytes and the time it takes. -/
def addClient (name : String) (idBytes : ByteArr 8) (psk : Key) (now : Nat) (d : ClientDbFile) :
    Except Error ClientRecord × ClientDbFile :=
  if d.clients.any (fun c => c.name == name) then
    (.error (.session s!"Client '{name}' already exists"), d)
  else if 254 < d.nextOctet then (.error (.session "No more VPN IPs available"), d)
  else
    let client : ClientRecord :=
      { id := hexId idBytes
        name := name
        psk := psk
        vpnIp := ⟨10, 0, 0, d.nextOctet⟩
        enabled := true
        createdAt := now
        stats := ClientStats.default }
    (.ok client, ⟨d.clients ++ [client], d.nextOctet + 1⟩)

/-- `remove_client` up to the save. -/
def removeClient (clientId : String) (d : ClientDbFile) : Except Error Unit × ClientDbFile :=
  let kept := d.clients.filter fun c => c.id != clientId
  if kept.length = d.clients.length then
    (.error (.session s!"Client '{clientId}' not found"), { d with clients := kept })
  else (.ok (), { d with clients := kept })

/-- `iter_mut().find(..)`: the statistics of the first client with the id change. -/
def updateStats (clientId : String) (f : ClientStats → ClientStats) :
    List ClientRecord → List ClientRecord
  | [] => []
  | c :: cs =>
      if c.id = clientId then { c with stats := f c.stats } :: cs
      else c :: updateStats clientId f cs

/-- `record_handshake`. -/
def recordHandshake (clientId : String) (now : Nat) (d : ClientDbFile) : ClientDbFile :=
  { d with clients := updateStats clientId (fun stats => { stats with
      totalConnections := stats.totalConnections + 1
      lastHandshake := some now
      lastConnected := some now }) d.clients }

/-- `record_traffic`. -/
def recordTraffic (clientId : String) (bytesIn bytesOut : UInt64) (now : Nat) (d : ClientDbFile) :
    ClientDbFile :=
  { d with clients := updateStats clientId (fun stats => { stats with
      bytesIn := stats.bytesIn + bytesIn
      bytesOut := stats.bytesOut + bytesOut
      lastConnected := some now }) d.clients }

/-- The ids of the registered clients. -/
def ids (d : ClientDbFile) : Finset String := (d.clients.map fun c => c.id).toFinset

/-- The map of statistics by id. Later clients overwrite earlier ones with the same id. -/
def savedStats (d : ClientDbFile) (clientId : String) : Option ClientStats :=
  (d.clients.reverse.find? fun c => c.id == clientId).map ClientRecord.stats

/-- `reload_from_disk`. -/
def reloadFromDisk (disk : Disk) (d : ClientDbFile) : Except Error Bool × ClientDbFile :=
  match disk with
  | .missing => (.error (.session "Failed to read client DB for reload"), d)
  | .malformed => (.error (.session "Failed to parse client DB for reload"), d)
  | .content newData =>
      if d.ids = newData.ids then (.ok false, d)
      else (.ok true,
        { clients := newData.clients.map fun c =>
            match d.savedStats c.id with
            | some stats => { c with stats := stats }
            | none => c
          nextOctet := newData.nextOctet })

/-- `reload_if_changed`. -/
def reloadIfChanged (disk : Disk) (d : ClientDbFile) : Bool × ClientDbFile :=
  match disk with
  | .missing => (false, d)
  | _ => match d.reloadFromDisk disk with
    | (.ok changed, d') => (changed, d')
    | (.error _, d') => (false, d')

/-! ## What a database says about its clients -/

/-- A client without its statistics and the time of its registration. -/
def core (c : ClientRecord) : ClientConfig × String := (c.toClientConfig, c.name)

/-- The same clients, with the same keys, addresses and flags, and the same counter. -/
def Agrees (d d' : ClientDbFile) : Prop :=
  (∀ x, x ∈ d.clients.map core ↔ x ∈ d'.clients.map core) ∧ d.nextOctet = d'.nextOctet

/-- What a reload is for: the clients are those of the file, and those that were known before keep
their statistics. -/
def TakesEffect (file d d' : ClientDbFile) : Prop :=
  d'.Agrees file ∧
    ∀ c ∈ d'.clients, c.id ∈ d.ids → ∃ c₀ ∈ d.clients, c₀.id = c.id ∧ c.stats = c₀.stats

theorem Agrees.refl (d : ClientDbFile) : d.Agrees d := ⟨fun _ => Iff.rfl, rfl⟩

theorem mem_ids {d : ClientDbFile} {clientId : String} :
    clientId ∈ d.ids ↔ ∃ c ∈ d.clients, c.id = clientId := by
  unfold ids
  rw [List.mem_toFinset, List.mem_map]

/-- The ids are part of what the core says. -/
theorem ids_eq_of_core {d d' : ClientDbFile} (h : d.clients.map core = d'.clients.map core) :
    d.ids = d'.ids := by
  have hids : ∀ cs : List ClientRecord, cs.map (fun c => c.id) =
      (cs.map core).map fun x => x.1.id := by
    intro cs
    rw [List.map_map]
    rfl
  unfold ids
  rw [hids, hids, h]

theorem updateStats_core (clientId : String) (f : ClientStats → ClientStats)
    (cs : List ClientRecord) : (updateStats clientId f cs).map core = cs.map core := by
  induction cs with
  | nil => rfl
  | cons c cs ih =>
      unfold updateStats
      split_ifs
      · rfl
      · rw [List.map_cons, List.map_cons, ih]

/-- The statistics of a known id are those of a client in memory. -/
theorem savedStats_spec {d : ClientDbFile} {clientId : String} (h : clientId ∈ d.ids) :
    ∃ c₀ ∈ d.clients, c₀.id = clientId ∧ d.savedStats clientId = some c₀.stats := by
  obtain ⟨c, hc, hid⟩ := mem_ids.1 h
  unfold savedStats
  cases hfind : d.clients.reverse.find? fun c => c.id == clientId with
  | none =>
      have hne := List.find?_eq_none.1 hfind c (List.mem_reverse.2 hc)
      rw [hid, beq_self_eq_true] at hne
      exact absurd rfl hne
  | some c₀ =>
      have heq := List.find?_some hfind
      refine ⟨c₀, List.mem_reverse.1 (List.mem_of_find?_eq_some hfind), ?_, rfl⟩
      exact beq_iff_eq.1 heq

/-! ## Reloading -/

theorem reloadIfChanged_of_ids {d file : ClientDbFile} (h : d.ids = file.ids) :
    d.reloadIfChanged (.content file) = (false, d) := by
  unfold reloadIfChanged reloadFromDisk
  simp only [if_pos h]

/-- With other ids the clients and the counter of the file are taken over. -/
theorem reloadIfChanged_of_ids_ne {d file : ClientDbFile} (h : d.ids ≠ file.ids) :
    (d.reloadIfChanged (.content file)).1 = true ∧
      (d.reloadIfChanged (.content file)).2.clients.map core = file.clients.map core ∧
      (d.reloadIfChanged (.content file)).2.nextOctet = file.nextOctet := by
  unfold reloadIfChanged reloadFromDisk
  simp only [if_neg h, true_and, and_true, List.map_map]
  refine List.map_congr_left fun c _ => ?_
  simp only [Function.comp_apply]
  cases d.savedStats c.id with
  | none => rfl
  | some stats => rfl

theorem reloadIfChanged_ids (d file : ClientDbFile) :
    (d.reloadIfChanged (.content file)).2.ids = file.ids := by
  by_cases h : d.ids = file.ids
  · rw [reloadIfChanged_of_ids h, h]
  · exact ids_eq_of_core (reloadIfChanged_of_ids_ne h).2.1

/-- A reload that reports no change leaves the clients. -/
theorem ids_of_reload_unchanged {d d' file : ClientDbFile}
    (h : d.reloadIfChanged (.content file) = (false, d')) : d'.ids = d.ids := by
  by_cases hids : d.ids = file.ids
  · rw [reloadIfChanged_of_ids hids] at h
    cases h
    rfl
  · have hchanged := (reloadIfChanged_of_ids_ne hids).1
    rw [h] at hchanged
    cases hchanged

theorem ids_of_addClient {d d' : ClientDbFile} {name : String} {idBytes : ByteArr 8} {psk : Key}
    {now : Nat} {client : ClientRecord} (h : d.addClient name idBytes psk now = (.ok client, d')) :
    client.id ∈ d'.ids ∧ ∀ id, id ≠ client.id → (id ∈ d'.ids ↔ id ∈ d.ids) := by
  have hclients : d'.clients = d.clients ++ [client] := by
    unfold addClient at h
    split_ifs at h
    · cases h
    · cases h
    · obtain ⟨hclient, rfl⟩ := Prod.mk.inj h
      rw [Except.ok.inj hclient]
  simp only [mem_ids, hclients, List.mem_append, List.mem_singleton]
  refine ⟨⟨client, Or.inr rfl, rfl⟩, fun id hne => ⟨?_, ?_⟩⟩
  · rintro ⟨c, hc | rfl, hid⟩
    · exact ⟨c, hc, hid⟩
    · exact absurd hid.symm hne
  · rintro ⟨c, hc, hid⟩
    exact ⟨c, Or.inl hc, hid⟩

theorem ids_of_addClient_error {d d' : ClientDbFile} {name : String} {idBytes : ByteArr 8}
    {psk : Key} {now : Nat} {e : Error} (h : d.addClient name idBytes psk now = (.error e, d')) :
    d'.ids = d.ids := by
  unfold addClient at h
  split_ifs at h
  all_goals cases h
  all_goals rfl

theorem ids_of_removeClient (clientId : String) (d : ClientDbFile) :
    clientId ∉ (d.removeClient clientId).2.ids ∧
      ∀ id, id ≠ clientId → (id ∈ (d.removeClient clientId).2.ids ↔ id ∈ d.ids) := by
  have hclients : (d.removeClient clientId).2.clients =
      d.clients.filter fun c => c.id != clientId := by
    unfold removeClient
    simp only
    split_ifs <;> rfl
  simp only [mem_ids, hclients, List.mem_filter, bne_iff_ne]
  refine ⟨?_, fun id hne => ⟨?_, ?_⟩⟩
  · rintro ⟨c, ⟨-, hkept⟩, hid⟩
    exact hkept hid
  · rintro ⟨c, ⟨hc, -⟩, hid⟩
    exact ⟨c, hc, hid⟩
  · rintro ⟨c, hc, rfl⟩
    exact ⟨c, ⟨hc, hne⟩, rfl⟩

theorem ids_of_removeClient_error {clientId : String} {d d' : ClientDbFile} {e : Error}
    (h : d.removeClient clientId = (.error e, d')) : d'.ids = d.ids := by
  unfold removeClient at h
  simp only at h
  split_ifs at h with hlength
  · cases h
    -- all clients are kept
    unfold ids
    rw [List.filter_eq_self.2 (List.length_filter_eq_length_iff.1 hlength)]
  · cases h

/-- The clients that were known keep their statistics, whatever the file says. -/
theorem reloadIfChanged_stats (d file : ClientDbFile) {c : ClientRecord}
    (hc : c ∈ (d.reloadIfChanged (.content file)).2.clients) (hknown : c.id ∈ d.ids) :
    ∃ c₀ ∈ d.clients, c₀.id = c.id ∧ c.stats = c₀.stats := by
  by_cases h : d.ids = file.ids
  · rw [reloadIfChanged_of_ids h] at hc
    exact ⟨c, hc, rfl, rfl⟩
  · unfold reloadIfChanged reloadFromDisk at hc
    simp only [if_neg h, List.mem_map] at hc
    obtain ⟨c', -, rfl⟩ := hc
    have hid : ∀ o : Option ClientStats, (match o with
        | some stats => { c' with stats := stats }
        | none => c' : ClientRecord).id = c'.id := by
      intro o
      cases o <;> rfl
    rw [hid] at hknown ⊢
    obtain ⟨c₀, hc₀, hid₀, hstats⟩ := savedStats_spec hknown
    refine ⟨c₀, hc₀, hid₀, ?_⟩
    rw [hstats]

/-- A reload takes effect if and only if the ids of the clients have changed, or memory and file
agree anyway. -/
theorem reload_takesEffect_iff (d file : ClientDbFile) :
    TakesEffect file d (d.reloadIfChanged (.content file)).2 ↔ d.ids ≠ file.ids ∨ d.Agrees file := by
  constructor
  · rintro ⟨hagrees, -⟩
    by_cases h : d.ids = file.ids
    · rw [reloadIfChanged_of_ids h] at hagrees
      exact Or.inr hagrees
    · exact Or.inl h
  · intro h
    refine ⟨?_, fun c hc => reloadIfChanged_stats d file hc⟩
    by_cases hids : d.ids = file.ids
    · rw [reloadIfChanged_of_ids hids]
      exact h.resolve_left fun hne => hne hids
    · obtain ⟨-, hcore, hoctet⟩ := reloadIfChanged_of_ids_ne hids
      refine ⟨?_, hoctet⟩
      intro x
      rw [hcore]

/-- A registered client. -/
def sampleRecord : ClientRecord :=
  ⟨⟨"0000000000000001", ByteArr.replicate 32 9, ⟨10, 0, 0, 2⟩, true⟩, "alice", 0,
    ClientStats.default⟩

/-- The file disables the only client: the reload leaves it enabled. -/
theorem reload_misses_disabling :
    ¬ TakesEffect ⟨[{ sampleRecord with enabled := false }], 3⟩ ⟨[sampleRecord], 3⟩
      ((⟨[sampleRecord], 3⟩ : ClientDbFile).reloadIfChanged
        (.content ⟨[{ sampleRecord with enabled := false }], 3⟩)).2 := by
  rintro ⟨⟨hclients, -⟩, -⟩
  have hmem := (hclients (core sampleRecord)).1 (by decide +kernel)
  revert hmem
  decide +kernel

end ClientDbFile

end Aivpn
