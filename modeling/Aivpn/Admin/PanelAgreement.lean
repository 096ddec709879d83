import Aivpn.Admin.PanelClients
import Aivpn.Server.ClientDbRuns

/-!
# The panel's table and the server's file

After a request the panel's table and the server's file say the same about the clients, and so does
the copy of the server, with two exceptions: a client that is registered and cannot be entered into
the table, and a client that gets the name of another one, because the file has been written before
the commit fails (`panel_agrees_iff`). What the server writes in between changes the statistics
only.
-/

set_option autoImplicit false

namespace Aivpn

open Aivpn.Lib Alphabet ClientTable

namespace Panel

/-! ## The two accounts -/

/-- What both sides say about a client. -/
structure Entry where
  id : Text
  name : String
  vpnIp : Text
  key : Text
  enabled : Bool
deriving DecidableEq

/-- What a row says. -/
def PanelRow.entry (r : PanelRow) : Entry := ⟨r.id, r.name, r.vpnIp, r.psk, r.enabled⟩

/-- What the server's file says, with the key that the server prints for the client. -/
def Setup.entry (U : Setup) (pubKey : Key) (x : ClientConfig × String) : Entry :=
  ⟨x.1.id.toList, x.2, ipText x.1.vpnIp,
    connKey U.serialize U.args.listen serverIp pubKey x.1.psk (ipText x.1.vpnIp), x.1.enabled⟩

/-- The panel's table says the same as the server's file, and so does the copy of the server. -/
def Agrees (U : Setup) (pubKey : Key) (s : State) : Prop :=
  ∃ d, ClientDbFile.load s.disk = .ok d ∧
    s.table.rows.map PanelRow.entry = (d.clients.map ClientDbFile.core).map (U.entry pubKey) ∧
    ClientStore.book s.server = ClientStore.book d

/-- The command registers a client of this name. -/
def Registers (U : Setup) (name : String) (draw : Draws) (s : State) : Prop :=
  U.accepts name = true ∧ draw.saved = none ∧
    ∃ d, ClientDbFile.load s.disk = .ok d ∧ (∀ c ∈ d.clients, c.name ≠ name) ∧ d.nextOctet ≤ 254

/-- The row of a new client can be entered: its id and its token are new, and the end of its
subscription is a date. -/
def Enters (body : ClientCreate) (draw : Draws) (s : State) : Prop :=
  (ClientDbFile.hexId draw.idBytes).toList ∉ s.table.rows.map PanelRow.id ∧
    draw.subToken ∉ s.table.rows.filterMap PanelRow.subToken ∧
    newSubscriptionEnd body draw.now ≠ none

/-- The requests that keep the two accounts together: a client that is registered can be entered,
and no client gets the name of another one. -/
def Keeps (U : Setup) (s : State) : Op → Prop
  | .createClient body draw =>
      body.username ≠ "" → Registers U body.username draw s → Enters body draw s
  | .updateClient cid body =>
      ∀ name, body.username = some name → (∃ r ∈ s.table.rows, r.id = cid) →
        ∀ r ∈ s.table.rows, r.name = name → r.id = cid
  | _ => True

section

variable {U : Setup} {pubKey : Key} {s : State} {d : ClientDbFile}

theorem readClientsDb_of_load (h : ClientDbFile.load s.disk = .ok d) :
    readClientsDb s.disk = some d := by
  revert h
  cases s.disk with
  | missing =>
      rintro ⟨⟩
      rfl
  | malformed => rintro ⟨⟩
  | content data =>
      rintro ⟨⟩
      rfl

/-- A restarted server knows the file. -/
theorem agrees_restart {t : Table}
    (h : t.rows.map PanelRow.entry = (d.clients.map ClientDbFile.core).map (U.entry pubKey))
    (nodes : List NodeRow) (server : ClientDbFile) :
    Agrees U pubKey (restart ⟨t, nodes, .content d, server⟩) :=
  ⟨d, rfl, h, rfl⟩

/-- Behind a write of the file, the table agrees with it exactly if it says the same. -/
theorem agrees_content_iff {t : Table} {nodes : List NodeRow} {server : ClientDbFile} :
    Agrees U pubKey ⟨t, nodes, .content d, server⟩ ↔
      t.rows.map PanelRow.entry = (d.clients.map ClientDbFile.core).map (U.entry pubKey) ∧
        ClientStore.book server = ClientStore.book d := by
  constructor
  · rintro ⟨d', hload, hrows, hserver⟩
    cases hload
    exact ⟨hrows, hserver⟩
  · rintro ⟨hrows, hserver⟩
    exact ⟨d, rfl, hrows, hserver⟩

theorem commit_eq_none_iff {rows : List PanelRow} :
    commit rows = none ↔ ¬ ((rows.map PanelRow.id).Nodup ∧ (rows.map PanelRow.name).Nodup ∧
      (rows.filterMap PanelRow.subToken).Nodup) := by
  unfold commit
  split_ifs with h
  · exact iff_of_false (nofun) (not_not.2 h)
  · exact iff_of_true rfl h

theorem commit_rows {rows : List PanelRow} {t : Table} (h : commit rows = some t) :
    t.rows = rows := by
  unfold commit at h
  split_ifs at h
  cases h
  rfl

end

/-! ## What the server does -/

section

variable {U : Setup} {pubKey : Key} {s : State}

/-- What changes the copy of the server, and not what it says about its clients, keeps the accounts
together. -/
theorem Agrees.server (h : Agrees U pubKey s) {server : ClientDbFile}
    (hbook : ClientStore.book server = ClientStore.book s.server) :
    Agrees U pubKey { s with server := server } := by
  obtain ⟨d, hload, hrows, hserver⟩ := h
  exact ⟨d, hload, hrows, hbook.trans hserver⟩

theorem Agrees.flushStats (h : Agrees U pubKey s) :
    Agrees U pubKey { s with disk := .content s.server } := by
  obtain ⟨d, -, hrows, hserver⟩ := h
  have hcore : s.server.clients.map ClientDbFile.core = d.clients.map ClientDbFile.core :=
    congrArg Prod.fst hserver
  refine ⟨s.server, rfl, ?_, rfl⟩
  rw [hrows, hcore]

theorem Agrees.reload (h : Agrees U pubKey s) :
    Agrees U pubKey { s with server := (s.server.reloadIfChanged s.disk).2 } := by
  apply h.server
  obtain ⟨d, hload, -, hserver⟩ := h
  cases hdisk : s.disk with
  | missing => rfl
  | malformed => rfl
  | content data =>
      -- the ids are those of the file, so nothing is taken over
      rw [hdisk] at hload
      cases hload
      rw [ClientDbFile.reloadIfChanged_of_ids (ClientDbFile.ids_eq_of_core
        (congrArg Prod.fst hserver))]

theorem Agrees.restart (h : Agrees U pubKey s) : Agrees U pubKey (Panel.restart s) := by
  obtain ⟨d, hload, hrows, -⟩ := h
  have hrestart : Panel.restart s = { s with server := d } := by
    unfold Panel.restart
    rw [hload]
  rw [hrestart]
  exact ⟨d, hload, hrows, rfl⟩

end

/-! ## Deleting and disabling -/

section

variable {U : Setup} {pubKey : Key} {s : State}

theorem agrees_deleteClient (h : Agrees U pubKey s) (cid : Text) :
    Agrees U pubKey (deleteClient cid s).2 := by
  unfold deleteClient
  cases s.table.rows.find? fun r => r.id = cid with
  | none => exact h
  | some r =>
      obtain ⟨d, hload, hrows, -⟩ := h
      simp only [readClientsDb_of_load hload]
      apply agrees_restart
      have hfilter := congrArg (List.filter fun e : Entry => e.id ≠ cid) hrows
      rw [List.filter_map, List.map_map, List.filter_map] at hfilter
      show (s.table.rows.filter fun r => r.id ≠ cid).map PanelRow.entry = _
      rw [List.map_map]
      exact hfilter

/-- Both accounts change the same clients in the same way. -/
theorem map_changeCore {f : PanelRow → PanelRow} {g : ClientRecord → ClientRecord}
    {e : Entry → Entry} {cid : Text} {d : ClientDbFile}
    (hrows : s.table.rows.map PanelRow.entry =
      (d.clients.map ClientDbFile.core).map (U.entry pubKey))
    (hf : ∀ r, (f r).entry = if r.id = cid then e r.entry else r.entry)
    (hg : ∀ c, U.entry pubKey (ClientDbFile.core (g c)) =
      e (U.entry pubKey (ClientDbFile.core c))) :
    (s.table.rows.map f).map PanelRow.entry =
      ((changeCore cid g d).clients.map ClientDbFile.core).map (U.entry pubKey) := by
  have hmap := congrArg (List.map fun x : Entry => if x.id = cid then e x else x) hrows
  unfold changeCore
  simp only [List.map_map] at hmap ⊢
  convert hmap using 1
  · exact List.map_congr_left fun r _ => hf r
  · refine List.map_congr_left fun c _ => ?_
    show U.entry pubKey (ClientDbFile.core (if c.id.toList = cid then g c else c)) =
      if c.id.toList = cid then e (U.entry pubKey (ClientDbFile.core c)) else _
    split_ifs with hid
    · exact hg c
    · rfl

theorem agrees_toggleClient (h : Agrees U pubKey s) (cid : Text) (enabled : Bool) :
    Agrees U pubKey (toggleClient cid enabled s).2 := by
  unfold toggleClient
  cases s.table.rows.find? fun r => r.id = cid with
  | none => exact h
  | some r =>
      obtain ⟨d, hload, hrows, -⟩ := h
      simp only [readClientsDb_of_load hload]
      apply agrees_restart
      refine map_changeCore (e := fun x => { x with enabled := enabled }) hrows ?_ fun c => rfl
      intro r
      unfold PanelRow.toggle
      split_ifs <;> rfl

end

/-! ## Renaming -/

section

variable {U : Setup} {pubKey : Key} {s : State} {cid : Text} {body : ClientUpdate}

/-- The rows that `update_client` commits. -/
def updatedRows (U : Setup) (cid : Text) (body : ClientUpdate) (rows : List PanelRow) :
    List PanelRow :=
  rows.map fun r => if r.id = cid then r.update U body else r

theorem updatedRows_id (rows : List PanelRow) :
    (updatedRows U cid body rows).map PanelRow.id = rows.map PanelRow.id := by
  unfold updatedRows
  rw [List.map_map]
  refine List.map_congr_left fun r _ => ?_
  show (if _ then _ else _ : PanelRow).id = r.id
  split_ifs <;> rfl

theorem updatedRows_subToken (rows : List PanelRow) :
    (updatedRows U cid body rows).filterMap PanelRow.subToken =
      rows.filterMap PanelRow.subToken := by
  unfold updatedRows
  rw [List.filterMap_map]
  congr 1
  funext r
  show (if _ then _ else _ : PanelRow).subToken = r.subToken
  split_ifs <;> rfl

/-- A row of a table is the only one with its id. -/
theorem Table.eq_of_id {t : Table} {r r' : PanelRow} (hr : r ∈ t.rows) (hr' : r' ∈ t.rows)
    (h : r.id = r'.id) : r = r' :=
  List.inj_on_of_nodup_map t.ids_nodup hr hr' h

theorem Table.eq_of_name {t : Table} {r r' : PanelRow} (hr : r ∈ t.rows) (hr' : r' ∈ t.rows)
    (h : r.name = r'.name) : r = r' :=
  List.inj_on_of_nodup_map t.names_nodup hr hr' h

/-- The names stay distinct exactly if no other client has the new one. -/
theorem nodup_updatedRows_iff (t : Table) :
    ((updatedRows U cid body t.rows).map PanelRow.name).Nodup ↔
      ∀ name, body.username = some name → (∃ r ∈ t.rows, r.id = cid) →
        ∀ r ∈ t.rows, r.name = name → r.id = cid := by
  have hname : (updatedRows U cid body t.rows).map PanelRow.name =
      t.rows.map fun r => if r.id = cid then body.username.getD r.name else r.name := by
    unfold updatedRows
    rw [List.map_map]
    refine List.map_congr_left fun r _ => ?_
    show (if _ then _ else _ : PanelRow).name = _
    split_ifs <;> rfl
  rw [hname, List.nodup_map_iff_inj_on (List.Nodup.of_map _ t.ids_nodup)]
  constructor
  · rintro hinj name hbody ⟨r, hr, hid⟩ r' hr' hname'
    by_contra hother
    have heq := hinj r hr r' hr' (by
      rw [if_pos hid, if_neg hother, hbody, hname', Option.getD_some])
    rw [← heq] at hother
    exact hother hid
  · intro h r hr r' hr' heq
    have hclash {r r' : PanelRow} (hr : r ∈ t.rows) (hr' : r' ∈ t.rows) (hid : r.id = cid)
        (hid' : ¬ r'.id = cid) (heq : body.username.getD r.name = r'.name) : False := by
      cases hbody : body.username with
      | none =>
          rw [hbody, Option.getD_none] at heq
          exact hid' (t.eq_of_name hr hr' heq ▸ hid)
      | some name =>
          rw [hbody, Option.getD_some] at heq
          exact hid' (h name hbody ⟨r, hr, hid⟩ r' hr' heq.symm)
    by_cases hid : r.id = cid
    · by_cases hid' : r'.id = cid
      · exact t.eq_of_id hr hr' (hid.trans hid'.symm)
      · rw [if_pos hid, if_neg hid'] at heq
        exact absurd heq (hclash hr hr' hid hid')
    · by_cases hid' : r'.id = cid
      · rw [if_neg hid, if_pos hid'] at heq
        exact absurd heq.symm (hclash hr' hr hid' hid)
      · rw [if_neg hid, if_neg hid'] at heq
        exact t.eq_of_name hr hr' heq

theorem commit_updatedRows_eq_none_iff (t : Table) :
    commit (updatedRows U cid body t.rows) = none ↔ ¬ ∀ name, body.username = some name →
      (∃ r ∈ t.rows, r.id = cid) → ∀ r ∈ t.rows, r.name = name → r.id = cid := by
  rw [commit_eq_none_iff, updatedRows_id, updatedRows_subToken, nodup_updatedRows_iff]
  simp only [t.ids_nodup, t.tokens_nodup, true_and, and_true]

/-- What a changed row says. -/
theorem entry_update (r : PanelRow) :
    (r.update U body).entry = { r.entry with name := body.username.getD r.name } := rfl

/-- A request that gives no new name changes nothing that both sides say. -/
theorem agrees_updateRow_same (h : Agrees U pubKey s)
    (hsame : ∀ r ∈ s.table.rows, r.id = cid → body.username.getD r.name = r.name)
    (hfree : ∀ name, body.username = some name → (∃ r ∈ s.table.rows, r.id = cid) →
      ∀ r ∈ s.table.rows, r.name = name → r.id = cid) :
    Agrees U pubKey (updateRow U cid body false s).2 := by
  unfold updateRow
  cases hcommit : commit (updatedRows U cid body s.table.rows) with
  | none => exact absurd hfree ((commit_updatedRows_eq_none_iff s.table).1 hcommit)
  | some table =>
      unfold updatedRows at hcommit
      rw [hcommit]
      obtain ⟨d, hload, hrows, hserver⟩ := h
      refine ⟨d, hload, ?_, hserver⟩
      show table.rows.map PanelRow.entry = _
      rw [commit_rows hcommit, ← hrows, List.map_map]
      refine List.map_congr_left fun r hr => ?_
      show (if _ then _ else _ : PanelRow).entry = _
      split_ifs with hid
      · rw [entry_update, hsame r hr hid]
        rfl
      · rfl

/-- A new name keeps the accounts together exactly if no other client has it. Otherwise the commit
fails, and the file has the name already. -/
theorem agrees_rename_iff {r : PanelRow} (hr : r ∈ s.table.rows) (hid : r.id = cid)
    {name : String} (hbody : body.username = some name) (hnew : name ≠ r.name) {d : ClientDbFile}
    (hrows : s.table.rows.map PanelRow.entry =
      (d.clients.map ClientDbFile.core).map (U.entry pubKey)) :
    Agrees U pubKey (updateRow U cid body true { s with
      disk := .content (changeCore cid (fun c => { c with name := name }) d) }).2 ↔
        Keeps U s (.updateClient cid body) := by
  have hchanged : (updatedRows U cid body s.table.rows).map PanelRow.entry =
      ((changeCore cid (fun c => { c with name := name }) d).clients.map ClientDbFile.core).map
        (U.entry pubKey) := by
    refine map_changeCore (e := fun x => { x with name := name }) hrows ?_ fun c => rfl
    intro r
    split_ifs
    · rw [entry_update, hbody, Option.getD_some]
    · rfl
  have hnone : commit (updatedRows U cid body s.table.rows) = none ↔ _ :=
    commit_updatedRows_eq_none_iff s.table
  unfold updateRow
  cases hcommit : commit (updatedRows U cid body s.table.rows) with
  | none =>
      have hclash := hnone.1 hcommit
      unfold updatedRows at hcommit
      simp only [hcommit]
      refine iff_of_false ?_ hclash
      intro hagrees
      obtain ⟨hsame, -⟩ := agrees_content_iff.1 hagrees
      rw [← hchanged] at hsame
      unfold updatedRows at hsame
      rw [List.map_map, List.map_inj_left] at hsame
      have hentry := hsame r hr
      rw [Function.comp_apply, if_pos hid, entry_update, hbody, Option.getD_some] at hentry
      exact hnew (congrArg Entry.name hentry).symm
  | some table =>
      have hfree := not_not.1 (mt hnone.2 (by rw [hcommit]; exact nofun))
      have htable := commit_rows hcommit
      unfold updatedRows at hcommit
      simp only [hcommit, if_true]
      refine iff_of_true (agrees_restart ?_ _ _) hfree
      rw [htable, hchanged]

theorem agrees_updateClient_iff (h : Agrees U pubKey s) :
    Agrees U pubKey (updateClient U cid body s).2 ↔ Keeps U s (.updateClient cid body) := by
  unfold updateClient
  cases hfind : s.table.rows.find? fun r => r.id = cid with
  | none =>
      refine iff_of_true h ?_
      rintro name - ⟨r, hr, hid⟩
      exact absurd (decide_eq_true hid) (List.find?_eq_none.1 hfind r hr)
  | some r =>
      have hr := List.mem_of_find?_eq_some hfind
      have hid : r.id = cid := by
        have hfound := List.find?_some hfind
        exact of_decide_eq_true hfound
      simp only
      cases hname : body.username.filter (· ≠ r.name) with
      | none =>
          have hkept : ∀ name, body.username = some name → name = r.name := by
            intro name hbody
            rw [hbody, Option.filter_eq_none_iff] at hname
            exact not_not.1 fun hne => hname name rfl (decide_eq_true hne)
          have hfree : Keeps U s (.updateClient cid body) := by
            intro name hbody _ r' hr' hname'
            rw [s.table.eq_of_name hr' hr (hname'.trans (hkept name hbody)), hid]
          refine iff_of_true (agrees_updateRow_same h ?_ hfree) hfree
          intro r' hr' hid'
          obtain rfl := s.table.eq_of_id hr' hr (hid'.trans hid.symm)
          cases hbody : body.username with
          | none => rfl
          | some name => exact hkept name hbody
      | some name =>
          obtain ⟨hbody, hnew⟩ := Option.filter_eq_some_iff.1 hname
          obtain ⟨d, hload, hrows, hserver⟩ := id h
          have hmem : r.entry ∈ (d.clients.map ClientDbFile.core).map (U.entry pubKey) :=
            hrows ▸ List.mem_map_of_mem hr
          rw [List.map_map] at hmem
          obtain ⟨c, hc, hentry⟩ := List.mem_map.1 hmem
          have hcid : c.id.toList = cid := (congrArg Entry.id hentry).trans hid
          have hcore : renameCore cid name d =
              some (changeCore cid (fun c => { c with name := name }) d) :=
            if_pos (List.any_eq_true.2 ⟨c, hc, decide_eq_true hcid⟩)
          simp only [readClientsDb_of_load hload, hcore]
          exact agrees_rename_iff hr hid hbody (of_decide_eq_true hnew) hrows

end

/-! ## Registering a client -/

/-- The client that the command registers. -/
def newClient (name : String) (draw : Draws) (d : ClientDbFile) : ClientRecord :=
  { id := ClientDbFile.hexId draw.idBytes
    name := name
    psk := draw.psk
    vpnIp := ⟨10, 0, 0, d.nextOctet⟩
    enabled := true
    createdAt := draw.created
    stats := ClientStats.default }

section

variable {U : Setup} {pubKey : Key} {s : State} {body : ClientCreate} {draw : Draws}
  {d : ClientDbFile}

theorem addClientCommand_of_registers {name : String} (hload : ClientDbFile.load s.disk = .ok d)
    (h : Registers U name draw s) :
    addClientCommand U name draw s.disk =
      (some (output (createdLines U.prim U.serialize U.args name (newClient name draw d))),
        .content ⟨d.clients ++ [newClient name draw d], d.nextOctet + 1⟩) := by
  obtain ⟨haccepts, hsaved, d', hload', hfree, hoctet⟩ := h
  obtain rfl : d = d' := Except.ok.inj (hload.symm.trans hload')
  have hname : ¬ (d.clients.any fun c => c.name == name) = true := by
    intro hany
    obtain ⟨c, hc, hsame⟩ := List.any_eq_true.1 hany
    exact hfree c hc (beq_iff_eq.1 hsame)
  have hadd : d.addClientAndSave draw.saved name draw.idBytes draw.psk draw.created =
      (.ok (newClient name draw d), ⟨d.clients ++ [newClient name draw d], d.nextOctet + 1⟩) := by
    unfold ClientDbFile.addClientAndSave ClientDbFile.addClient
    rw [if_neg hname, if_neg (UInt8.not_lt.2 hoctet), hsaved]
    rfl
  unfold addClientCommand
  simp only [haccepts, if_true, hload, hadd]

theorem addClientCommand_of_not {name : String} (hload : ClientDbFile.load s.disk = .ok d)
    (h : ¬ Registers U name draw s) : addClientCommand U name draw s.disk = (none, s.disk) := by
  unfold addClientCommand
  split_ifs with haccepts
  · simp only [hload]
    unfold ClientDbFile.addClientAndSave ClientDbFile.addClient
    by_cases hname : (d.clients.any fun c => c.name == name) = true
    · simp only [if_pos hname]
    by_cases hoctet : 254 < d.nextOctet
    · simp only [if_neg hname, if_pos hoctet]
    · cases hsaved : draw.saved with
      | none =>
          refine absurd ⟨haccepts, hsaved, d, hload, ?_, UInt8.not_lt.1 hoctet⟩ h
          intro c hc hsame
          exact hname (List.any_eq_true.2 ⟨c, hc, beq_iff_eq.2 hsame⟩)
      | some failure =>
          simp only [if_neg hname, if_neg hoctet]
          rfl
  · rfl

/-- The ids of both accounts. -/
theorem mem_rows_id_iff (hrows : s.table.rows.map PanelRow.entry =
      (d.clients.map ClientDbFile.core).map (U.entry pubKey)) (id : Text) :
    id ∈ s.table.rows.map PanelRow.id ↔ ∃ c ∈ d.clients, c.id.toList = id := by
  have hids := congrArg (List.map Entry.id) hrows
  simp only [List.map_map] at hids
  have hrowIds : s.table.rows.map PanelRow.id = d.clients.map fun c => c.id.toList := hids
  rw [hrowIds, List.mem_map]

/-- And the names. -/
theorem mem_rows_name_iff (hrows : s.table.rows.map PanelRow.entry =
      (d.clients.map ClientDbFile.core).map (U.entry pubKey)) (name : String) :
    name ∈ s.table.rows.map PanelRow.name ↔ ∃ c ∈ d.clients, c.name = name := by
  have hnames := congrArg (List.map Entry.name) hrows
  simp only [List.map_map] at hnames
  have hrowNames : s.table.rows.map PanelRow.name = d.clients.map fun c => c.name := hnames
  rw [hrowNames, List.mem_map]

/-- The commit of a new row. -/
theorem commit_append_eq_none_iff (t : Table) (r : PanelRow) {token : Text}
    (htoken : r.subToken = some token) :
    commit (t.rows ++ [r]) = none ↔ ¬ (r.id ∉ t.rows.map PanelRow.id ∧
      r.name ∉ t.rows.map PanelRow.name ∧ token ∉ t.rows.filterMap PanelRow.subToken) := by
  have hnew {α : Type} {l : List α} (hl : l.Nodup) (a : α) : (l ++ [a]).Nodup ↔ a ∉ l := by
    rw [List.nodup_append_comm, List.singleton_append, List.nodup_cons]
    exact and_iff_left hl
  have htokens : (t.rows ++ [r]).filterMap PanelRow.subToken =
      t.rows.filterMap PanelRow.subToken ++ [token] := by
    rw [List.filterMap_append, List.filterMap_cons_some htoken, List.filterMap_nil]
  rw [commit_eq_none_iff, List.map_append, List.map_append, htokens, List.map_singleton,
    List.map_singleton, hnew t.ids_nodup, hnew t.names_nodup, hnew t.tokens_nodup]

/-- A client in the file that the table does not have. -/
theorem not_agrees_append (hrows : s.table.rows.map PanelRow.entry =
      (d.clients.map ClientDbFile.core).map (U.entry pubKey)) (c : ClientRecord) (octet : UInt8) :
    ¬ Agrees U pubKey { s with disk := .content ⟨d.clients ++ [c], octet⟩ } := by
  intro h
  obtain ⟨hsame, -⟩ := agrees_content_iff.1 h
  have hlength := congrArg List.length (hrows.symm.trans hsame)
  simp only [List.length_map, List.length_append, List.length_singleton] at hlength
  omega

/-- The new row says what the file says about the new client. -/
theorem agrees_newRow (hrows : s.table.rows.map PanelRow.entry =
      (d.clients.map ClientDbFile.core).map (U.entry pubKey)) {c : ClientRecord} {octet : UInt8}
    {r : PanelRow} (hr : r.entry = U.entry pubKey (ClientDbFile.core c)) {t : Table}
    (ht : t.rows = s.table.rows ++ [r]) :
    Agrees U pubKey (restart ⟨t, s.nodes, .content ⟨d.clients ++ [c], octet⟩, s.server⟩) := by
  apply agrees_restart
  rw [ht, List.map_append, List.map_singleton, hr, hrows, List.map_append, List.map_append,
    List.map_singleton, List.map_singleton]

/-- A client that the command has registered is entered, or the file is ahead of the table. -/
theorem agrees_enterClient_iff {out id link : Text} {c : ClientRecord} {octet : UInt8}
    (hparse : parseCreated out = (some id, some link)) (hid : id = c.id.toList) (hne : id ≠ [])
    (hidBytes : c.id = ClientDbFile.hexId draw.idBytes)
    (hc : U.entry pubKey (ClientDbFile.core c) =
      ⟨id, body.username, ipText c.vpnIp, link, true⟩)
    (hname : body.username ∉ s.table.rows.map PanelRow.name)
    (hrows : s.table.rows.map PanelRow.entry =
      (d.clients.map ClientDbFile.core).map (U.entry pubKey)) :
    Agrees U pubKey (enterClient U body draw out
      { s with disk := .content ⟨d.clients ++ [c], octet⟩ }).2 ↔ Enters body draw s := by
  have hleft := not_agrees_append hrows c octet
  unfold enterClient
  simp only [hparse, if_neg hne, readClientsDb]
  cases hend : newSubscriptionEnd body draw.now with
  | none => exact iff_of_false hleft fun henters => henters.2.2 hend
  | some endsAt =>
      simp only
      split
      next t hcommit =>
        have hnotNone := mt (commit_append_eq_none_iff s.table (newRow body draw id link _ endsAt)
          rfl).2 (by rw [hcommit]; exact nofun)
        obtain ⟨hfreshId, -, hfreshToken⟩ := not_not.1 hnotNone
        refine iff_of_true ?_ ⟨hidBytes ▸ hid ▸ hfreshId, hfreshToken, by rw [hend]; exact nofun⟩
        have hfind : (d.clients ++ [c]).find? (fun c => c.id.toList = id) = some c := by
          rw [List.find?_append, List.find?_eq_none.2, Option.none_or, List.find?_cons_of_pos]
          · exact decide_eq_true hid.symm
          · intro c' hc' heq
            exact hfreshId ((mem_rows_id_iff hrows id).2 ⟨c', hc', of_decide_eq_true heq⟩)
        refine agrees_newRow hrows ?_ (commit_rows hcommit)
        rw [hc]
        simp only [hfind, Option.map_some, Option.getD_some]
        rfl
      next hcommit =>
        refine iff_of_false hleft ?_
        rintro ⟨hfreshId, hfreshToken, -⟩
        refine (commit_append_eq_none_iff s.table _ rfl).1 hcommit ⟨?_, hname, hfreshToken⟩
        rw [← hidBytes, ← hid] at hfreshId
        exact hfreshId

theorem agrees_createClient_iff (hkey : loadServerPublicKey U.prim U.args = some pubKey)
    (h : Agrees U pubKey s) :
    Agrees U pubKey (createClient U body draw s).2 ↔ Keeps U s (.createClient body draw) := by
  obtain ⟨d, hload, hrows, hserver⟩ := id h
  unfold createClient
  by_cases hempty : body.username = ""
  · rw [if_pos hempty]
    exact iff_of_true h fun hne => absurd hempty hne
  rw [if_neg hempty]
  by_cases hregisters : Registers U body.username draw s
  · rw [addClientCommand_of_registers hload hregisters]
    have hname : body.username ∉ s.table.rows.map PanelRow.name := by
      rw [mem_rows_name_iff hrows]
      rintro ⟨c, hc, hsame⟩
      obtain ⟨-, -, d', hload', hfree, -⟩ := hregisters
      obtain rfl : d = d' := Except.ok.inj (hload.symm.trans hload')
      exact hfree c hc hsame
    have hne : (newClient body.username draw d).id.toList ≠ [] := by
      have hlength := length_hexId draw.idBytes
      exact List.ne_nil_of_length_pos (by show 0 < (ClientDbFile.hexId _).toList.length; omega)
    have hparse : parseCreated (output (createdLines U.prim U.serialize U.args body.username
        (newClient body.username draw d))) = _ := parseCreated_output hkey rfl body.username rfl
    rw [agrees_enterClient_iff hparse rfl hne rfl rfl hname hrows]
    exact ⟨fun henters _ _ => henters, fun hkeeps => hkeeps hempty hregisters⟩
  · rw [addClientCommand_of_not hload hregisters]
    exact iff_of_true h fun _ hregistered => absurd hregistered hregisters

end

/-! ## Every run -/

section

variable {U : Setup} {pubKey : Key} {s : State}

/-- A request or a step of the server keeps the accounts together under its condition only. -/
theorem agrees_step_iff (hkey : loadServerPublicKey U.prim U.args = some pubKey)
    (h : Agrees U pubKey s) (op : Op) : Agrees U pubKey (step U s op) ↔ Keeps U s op := by
  cases op with
  | createClient body draw => exact agrees_createClient_iff hkey h
  | deleteClient cid => exact iff_of_true (agrees_deleteClient h cid) trivial
  | updateClient cid body => exact agrees_updateClient_iff h
  | toggleClient cid enabled => exact iff_of_true (agrees_toggleClient h cid enabled) trivial
  | createNode nid name location ipAddress port =>
      refine iff_of_true ?_ trivial
      show Agrees U pubKey (createNode nid name location ipAddress port s).2
      unfold createNode
      split_ifs <;> exact h
  | deleteNode nid =>
      refine iff_of_true ?_ trivial
      show Agrees U pubKey (deleteNode nid s).2
      unfold deleteNode
      split_ifs <;> exact h
  | recordHandshake clientId now =>
      exact iff_of_true (h.server (ClientStore.book_recordHandshake clientId now _)) trivial
  | recordTraffic clientId bytesIn bytesOut now =>
      exact iff_of_true (h.server (ClientStore.book_recordTraffic clientId bytesIn bytesOut now _))
        trivial
  | flushStats => exact iff_of_true h.flushStats trivial
  | reloadIfChanged => exact iff_of_true h.reload trivial
  | restart => exact iff_of_true h.restart trivial

/-- Once the accounts agree, they agree behind every request of a run if and only if every client
that is registered can be entered, and no client gets the name of another one. -/
theorem panel_agrees_iff (hkey : loadServerPublicKey U.prim U.args = some pubKey)
    (h : Agrees U pubKey s) (ops : List Op) :
    Along (step U) (fun s op => Agrees U pubKey (step U s op)) s ops ↔
      Along (step U) (Keeps U) s ops := by
  have hiff : ∀ s op, Agrees U pubKey s → True →
      (Agrees U pubKey (step U s op) ↔ Keeps U s op) := fun s op hagrees _ =>
    agrees_step_iff hkey hagrees op
  have hstep : ∀ s op, Agrees U pubKey s → True → Keeps U s op → Agrees U pubKey (step U s op) :=
    fun s op hagrees htrue hkeeps => (hiff s op hagrees htrue).2 hkeeps
  exact along_iff_of_invariant hstep hiff h (along_of_forall fun _ _ => trivial)

end

/-- A panel on the sample primitives. -/
def sampleSetup : Setup where
  prim := samplePrimitives
  serialize := sampleSerialize
  keyFile := some (ByteArr.replicate 32 7 : Key).toList
  accepts := fun _ => true
  py := samplePython
  strptime := fun _ => none

/-- A panel without clients. -/
def noClients : State where
  table := ⟨[], List.nodup_nil, List.nodup_nil, List.nodup_nil⟩
  nodes := []
  disk := .missing
  server := .default

/-- A client for 30 days. -/
def samplePhone : ClientCreate := ⟨"Phone", none, 100, none, some 30⟩

def sampleDraws : Draws :=
  ⟨ByteArr.replicate 8 1, ByteArr.replicate 32 9, 0, none, "token".toList, 0⟩

theorem sampleSetup_key : loadServerPublicKey samplePrimitives sampleSetup.args =
    some (samplePrimitives.fromPrivateKey (ByteArr.replicate 32 7)).publicKeyBytes := by
  unfold loadServerPublicKey Setup.args sampleSetup
  simp only [Option.bind_some, keyOf_toList, Option.map_some]

theorem agrees_noClients (pubKey : Key) : Agrees sampleSetup pubKey noClients :=
  ⟨.default, rfl, rfl, rfl⟩

theorem keeps_samplePhone : Keeps sampleSetup noClients (.createClient samplePhone sampleDraws) :=
  fun _ _ => ⟨List.not_mem_nil, List.not_mem_nil, by decide⟩

/-- A client is created, disabled, and reloaded by the server. -/
theorem panel_agrees_sample :
    Along (step sampleSetup)
      (fun s op => Agrees sampleSetup
        (samplePrimitives.fromPrivateKey (ByteArr.replicate 32 7)).publicKeyBytes
        (step sampleSetup s op)) noClients
      [.createClient samplePhone sampleDraws,
        .toggleClient "0101010101010101".toList false, .reloadIfChanged] :=
  (panel_agrees_iff sampleSetup_key (agrees_noClients _) _).2
    ⟨keeps_samplePhone, trivial, trivial, trivial⟩

end Panel

end Aivpn
