import Aivpn.Server.ClientDb

/-!
# Runs of the client database

One process at a time works on the file: it changes the database in memory, saves it, reloads it, or
is restarted and loads it. All saves succeed. Memory and file then differ in the statistics at most,
and the counter `next_octet` numbers the registrations: no address is assigned twice, and behind
10.0.0.254 there are no more registrations (`clientDb_invariant`).
-/

set_option autoImplicit false

namespace Aivpn

open Aivpn.Lib

/-- The file and the database in memory. `registered` lists what `add_client` has returned, newest
first; it is a history variable. -/
structure ClientStore where
  disk : Disk
  data : ClientDbFile
  registered : List ClientRecord
deriving DecidableEq

namespace ClientStore

/-- What the processes do, with the random bytes and the time it takes. -/
inductive Op where
  | addClient (name : String) (idBytes : ByteArr 8) (psk : Key) (now : Nat)
  | removeClient (clientId : String)
  | recordHandshake (clientId : String) (now : Nat)
  | recordTraffic (clientId : String) (bytesIn bytesOut : UInt64) (now : Nat)
  | flushStats
  | reloadIfChanged
  | restart

/-- A new file. -/
def new : ClientStore := ⟨.missing, .default, []⟩

/-- `save`. -/
def save (s : ClientStore) : ClientStore := { s with disk := .content s.data }

/-- One operation. A process that cannot load the file does not start. -/
def step (s : ClientStore) : Op → ClientStore
  | .addClient name idBytes psk now => match s.data.addClient name idBytes psk now with
    | (.ok client, d) => save { s with data := d, registered := client :: s.registered }
    | (.error _, d) => { s with data := d }
  | .removeClient clientId => match s.data.removeClient clientId with
    | (.ok _, d) => save { s with data := d }
    | (.error _, d) => { s with data := d }
  | .recordHandshake clientId now => { s with data := s.data.recordHandshake clientId now }
  | .recordTraffic clientId bytesIn bytesOut now =>
      { s with data := s.data.recordTraffic clientId bytesIn bytesOut now }
  | .flushStats => save s
  | .reloadIfChanged => { s with data := (s.data.reloadIfChanged s.disk).2 }
  | .restart => match ClientDbFile.load s.disk with
    | .ok d => { s with data := d }
    | .error _ => s

/-! ## What a step can do -/

/-- The clients and the counter, without statistics. -/
def book (d : ClientDbFile) : List (ClientConfig × String) × UInt8 :=
  (d.clients.map ClientDbFile.core, d.nextOctet)

/-- The file says the same about the clients as the memory. -/
def Synced (s : ClientStore) : Prop := ∃ d, ClientDbFile.load s.disk = .ok d ∧ book d = book s.data

theorem synced_save (s : ClientStore) : (save s).Synced := ⟨s.data, rfl, rfl⟩

theorem book_recordHandshake (clientId : String) (now : Nat) (d : ClientDbFile) :
    book (d.recordHandshake clientId now) = book d := by
  unfold book ClientDbFile.recordHandshake
  rw [ClientDbFile.updateStats_core]

theorem book_recordTraffic (clientId : String) (bytesIn bytesOut : UInt64) (now : Nat)
    (d : ClientDbFile) : book (d.recordTraffic clientId bytesIn bytesOut now) = book d := by
  unfold book ClientDbFile.recordTraffic
  rw [ClientDbFile.updateStats_core]

/-- A step leaves the book as it is, registers a client under a new name and the next address, or
removes clients. -/
theorem step_cases (s : ClientStore) (hs : s.Synced) (op : Op) :
    (s.step op).Synced ∧
      (book (s.step op).data = book s.data ∧ (s.step op).registered = s.registered ∨
      (∃ client, (s.step op).data = ⟨s.data.clients ++ [client], s.data.nextOctet + 1⟩ ∧
        (s.step op).registered = client :: s.registered ∧
        (∀ c ∈ s.data.clients, c.name ≠ client.name) ∧ s.data.nextOctet ≤ 254 ∧
        client.vpnIp = ⟨10, 0, 0, s.data.nextOctet⟩) ∨
      ∃ clientId, (s.step op).data =
          { s.data with clients := s.data.clients.filter fun c => c.id != clientId } ∧
        (s.step op).registered = s.registered) := by
  obtain ⟨file, hload, hbook⟩ := hs
  cases op with
  | addClient name idBytes psk now =>
      simp only [step]
      unfold ClientDbFile.addClient
      split_ifs with hname hoctet
      · exact ⟨⟨file, hload, hbook⟩, Or.inl ⟨rfl, rfl⟩⟩
      · exact ⟨⟨file, hload, hbook⟩, Or.inl ⟨rfl, rfl⟩⟩
      · refine ⟨synced_save _, Or.inr (Or.inl ⟨_, rfl, rfl, ?_, UInt8.not_lt.1 hoctet, rfl⟩)⟩
        intro c hc heq
        exact hname (List.any_eq_true.2 ⟨c, hc, beq_iff_eq.2 heq⟩)
  | removeClient clientId =>
      simp only [step]
      unfold ClientDbFile.removeClient
      simp only
      split_ifs with hlen
      · -- nothing was removed
        have hkept : s.data.clients.filter (fun c => c.id != clientId) = s.data.clients :=
          List.filter_sublist.eq_of_length hlen
        rw [hkept]
        exact ⟨⟨file, hload, hbook⟩, Or.inl ⟨rfl, rfl⟩⟩
      · exact ⟨synced_save _, Or.inr (Or.inr ⟨clientId, rfl, rfl⟩)⟩
  | recordHandshake clientId now =>
      have hsame := book_recordHandshake clientId now s.data
      exact ⟨⟨file, hload, hbook.trans hsame.symm⟩, Or.inl ⟨hsame, rfl⟩⟩
  | recordTraffic clientId bytesIn bytesOut now =>
      have hsame := book_recordTraffic clientId bytesIn bytesOut now s.data
      exact ⟨⟨file, hload, hbook.trans hsame.symm⟩, Or.inl ⟨hsame, rfl⟩⟩
  | flushStats => exact ⟨synced_save s, Or.inl ⟨rfl, rfl⟩⟩
  | reloadIfChanged =>
      -- the ids are those of the file, so nothing is taken over
      have hsame : (s.data.reloadIfChanged s.disk).2 = s.data := by
        cases hdisk : s.disk with
        | missing => rfl
        | malformed => rfl
        | content d =>
            rw [hdisk] at hload
            cases hload
            have hcore : s.data.clients.map ClientDbFile.core =
                file.clients.map ClientDbFile.core := (congrArg Prod.fst hbook).symm
            rw [ClientDbFile.reloadIfChanged_of_ids (ClientDbFile.ids_eq_of_core hcore)]
      have hstep : s.step .reloadIfChanged = s := by
        unfold step
        rw [hsame]
      rw [hstep]
      exact ⟨⟨file, hload, hbook⟩, Or.inl ⟨rfl, rfl⟩⟩
  | restart =>
      have hstep : s.step .restart = { s with data := file } := by
        unfold step
        rw [hload]
      rw [hstep]
      exact ⟨⟨file, hload, rfl⟩, Or.inl ⟨hbook, rfl⟩⟩

/-! ## The invariant -/

/-- The octet that a registration was given. -/
def octet (c : ClientRecord) : Nat := c.vpnIp.d.toNat

/-- The address is one of those the server hands out, and it has been handed out. -/
def Assigned (nextOctet : UInt8) (c : ClientRecord) : Prop :=
  c.vpnIp = ⟨10, 0, 0, c.vpnIp.d⟩ ∧ 2 ≤ octet c ∧ octet c ≤ 254 ∧ octet c < nextOctet.toNat

/-- What holds between operations. -/
structure Inv (s : ClientStore) : Prop where
  synced : s.Synced
  names : (s.data.clients.map fun c => c.name).Nodup
  addresses : (s.data.clients.map fun c => c.vpnIp).Nodup
  known : ∀ c ∈ s.data.clients, ∃ c' ∈ s.registered, c'.vpnIp = c.vpnIp
  assigned : ∀ c ∈ s.registered, Assigned s.data.nextOctet c
  once : (s.registered.map fun c => c.vpnIp).Nodup
  counter : s.data.nextOctet.toNat = 2 + s.registered.length

theorem inv_new : new.Inv where
  synced := ⟨_, rfl, rfl⟩
  names := List.nodup_nil
  addresses := List.nodup_nil
  known := fun _ hc => absurd hc List.not_mem_nil
  assigned := fun _ hc => absurd hc List.not_mem_nil
  once := List.nodup_nil
  counter := rfl

/-- The names and addresses are part of the book. -/
theorem book_eq {d d' : ClientDbFile} (h : book d = book d') :
    d.clients.map (fun c => c.name) = d'.clients.map (fun c => c.name) ∧
      d.clients.map (fun c => c.vpnIp) = d'.clients.map (fun c => c.vpnIp) ∧
      d.nextOctet = d'.nextOctet := by
  have hcore : d.clients.map ClientDbFile.core = d'.clients.map ClientDbFile.core :=
    congrArg Prod.fst h
  have hname := congrArg (List.map Prod.snd) hcore
  have hip := congrArg (List.map fun x => x.1.vpnIp) hcore
  rw [List.map_map, List.map_map] at hname hip
  exact ⟨hname, hip, congrArg Prod.snd h⟩

theorem Inv.step {s : ClientStore} (hs : s.Inv) (op : Op) : (s.step op).Inv := by
  obtain ⟨hsynced, hstep⟩ := step_cases s hs.synced op
  rcases hstep with ⟨hbook, hreg⟩ | ⟨client, hdata, hreg, hname, hoctet, hip⟩ |
    ⟨clientId, hdata, hreg⟩
  · obtain ⟨hnames, hips, hnext⟩ := book_eq hbook
    refine ⟨hsynced, hnames ▸ hs.names, hips ▸ hs.addresses, ?_, ?_, hreg ▸ hs.once, ?_⟩
    · intro c hc
      have hmem : c.vpnIp ∈ s.data.clients.map fun c => c.vpnIp :=
        hips ▸ List.mem_map_of_mem hc
      obtain ⟨c₀, hc₀, heq⟩ := List.mem_map.1 hmem
      rw [hreg, ← heq]
      exact hs.known c₀ hc₀
    · rw [hreg, hnext]
      exact hs.assigned
    · rw [hreg, hnext]
      exact hs.counter
  · -- the next octet is above all that were given out
    have hle : s.data.nextOctet.toNat ≤ 254 := UInt8.le_iff_toNat_le.1 hoctet
    have hsucc : (s.data.nextOctet + 1).toNat = s.data.nextOctet.toNat + 1 := by
      rw [UInt8.toNat_add]
      exact Nat.mod_eq_of_lt (by rw [UInt8.toNat_one]; omega)
    have hfresh : ∀ c ∈ s.registered, c.vpnIp ≠ client.vpnIp := by
      intro c hc heq
      have hlt := (hs.assigned c hc).2.2.2
      unfold octet at hlt
      rw [heq, hip] at hlt
      exact Nat.lt_irrefl _ hlt
    have hassigned : Assigned (s.data.nextOctet + 1) client := by
      unfold Assigned octet
      rw [hip, hsucc]
      refine ⟨rfl, ?_, hle, Nat.lt_succ_self _⟩
      have hcounter := hs.counter
      simp only
      omega
    refine ⟨hsynced, ?_, ?_, ?_, ?_, ?_, ?_⟩
    · rw [hdata, List.map_append, List.map_singleton, List.nodup_append_comm, List.singleton_append,
        List.nodup_cons]
      refine ⟨?_, hs.names⟩
      intro hmem
      obtain ⟨c, hc, heq⟩ := List.mem_map.1 hmem
      exact hname c hc heq
    · rw [hdata, List.map_append, List.map_singleton, List.nodup_append_comm, List.singleton_append,
        List.nodup_cons]
      refine ⟨?_, hs.addresses⟩
      intro hmem
      obtain ⟨c, hc, heq⟩ := List.mem_map.1 hmem
      obtain ⟨c', hc', heq'⟩ := hs.known c hc
      exact hfresh c' hc' (heq'.trans heq)
    · rw [hdata, hreg]
      intro c hc
      rcases List.mem_append.1 hc with hold | hnew
      · obtain ⟨c', hc', heq⟩ := hs.known c hold
        exact ⟨c', List.mem_cons_of_mem _ hc', heq⟩
      · obtain rfl := List.mem_singleton.1 hnew
        exact ⟨c, List.mem_cons_self, rfl⟩
    · rw [hdata, hreg]
      intro c hc
      rcases List.mem_cons.1 hc with rfl | hold
      · exact hassigned
      · obtain ⟨hshape, hlow, hhigh, hlt⟩ := hs.assigned c hold
        exact ⟨hshape, hlow, hhigh, by rw [hsucc]; omega⟩
    · rw [hreg, List.map_cons, List.nodup_cons]
      refine ⟨?_, hs.once⟩
      intro hmem
      obtain ⟨c, hc, heq⟩ := List.mem_map.1 hmem
      exact hfresh c hc heq
    · rw [hdata, hreg, hsucc, List.length_cons, hs.counter]
      omega
  · have hsub := List.filter_sublist (p := fun c : ClientRecord => c.id != clientId)
      (l := s.data.clients)
    refine ⟨hsynced, ?_, ?_, ?_, ?_, hreg ▸ hs.once, ?_⟩
    · rw [hdata]
      exact hs.names.sublist (hsub.map _)
    · rw [hdata]
      exact hs.addresses.sublist (hsub.map _)
    · rw [hdata, hreg]
      exact fun c hc => hs.known c (hsub.subset hc)
    · rw [hdata, hreg]
      exact hs.assigned
    · rw [hdata, hreg]
      exact hs.counter

theorem inv_of_run (ops : List Op) : (runFrom step new ops).Inv := by
  have hstep : ∀ (s : ClientStore) (op : Op), s.Inv → (s.step op).Inv := fun _ op hs => hs.step op
  exact runFrom_invariant hstep inv_new ops

/-- In every run from a new file: names and addresses are distinct, every address is one of 10.0.0.2
to 10.0.0.254 and below the counter, the counter is the number of registrations plus two, and no
address has been assigned twice, whether its client is still registered or not. -/
theorem clientDb_invariant (ops : List Op) :
    let s := runFrom step new ops
    (s.data.clients.map fun c => c.name).Nodup ∧
    (s.data.clients.map fun c => c.vpnIp).Nodup ∧
    (∀ c ∈ s.data.clients, Assigned s.data.nextOctet c) ∧
    s.data.nextOctet.toNat = 2 + s.registered.length ∧
    (∀ c ∈ s.registered, Assigned s.data.nextOctet c) ∧
    (s.registered.map fun c => c.vpnIp).Nodup := by
  intro s
  have hs : s.Inv := inv_of_run ops
  refine ⟨hs.names, hs.addresses, ?_, hs.counter, hs.assigned, hs.once⟩
  intro c hc
  obtain ⟨c', hc', heq⟩ := hs.known c hc
  have hassigned := hs.assigned c' hc'
  unfold Assigned octet at hassigned ⊢
  rwa [heq] at hassigned

end ClientStore

end Aivpn
