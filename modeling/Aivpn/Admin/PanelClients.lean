import Aivpn.Admin.ClientRows
import Aivpn.Server.ClientDbUpdates
import Aivpn.Tunnel.ConnectionKeys

/-!
# Clients of the admin panel

The panel keeps a table of clients of its own. It registers a client by running the server with
`--add-client`, takes the id and the key out of what this prints, and looks the address up in the
server's file; it deletes, renames and disables clients by rewriting that file, and then restarts
the server. A table and a file are two accounts of the same clients.

Three things are taken for granted. The panel answers one request after the other, and the running
server takes no step while it does. `AIVPN_CLIENTS_JSON` names the file that the command is given, so
that there is one disk for both. The command can read its key file, and the key in it.

No name can bring an id or a key of its own into the panel, whatever lines it holds
(`parseCreated_output`).
-/

set_option autoImplicit false

namespace Aivpn

open Aivpn.Lib Alphabet ClientTable

namespace Panel

/-! ## The server's command -/

/-- The arguments of the server that `handle_add_client` reads. `keyFile` is the content of the key
file if it can be read. -/
structure ServerArgs where
  listen : Text
  keyFile : Option Bytes
  serverIp : Option Text

/-- `load_server_public_key`. -/
def loadServerPublicKey (P : Primitives) (args : ServerArgs) : Option Key :=
  args.keyFile.bind fun keyData =>
    (keyOf keyData).map fun key => (P.fromPrivateKey key).publicKeyBytes

/-- What `handle_add_client` prints behind the warning sign. -/
def warnings (serverPub : Option Key) (serverIp : Option Text) : List Text :=
  (if serverPub.isNone then
    ["⚠  --key-file not provided, cannot generate connection key".toList] else []) ++
  if serverIp.isNone then
    ["⚠  --server-ip not provided, cannot generate connection key".toList,
      "   Use: --server-ip YOUR_PUBLIC_IP or set SHADEVPN_SERVER_IP env var".toList] else []

/-- What `handle_add_client` prints about a new client, on both channels. -/
def createdLines (P : Primitives) (serialize : List (Text × Text) → Text) (args : ServerArgs)
    (name : String) (client : ClientRecord) : List Text :=
  let serverPub := loadServerPublicKey P args
  ["✅ Client '".toList ++ name.toList ++ "' created!".toList,
    "   ID:     ".toList ++ client.id.toList,
    "   VPN IP: ".toList ++ ipText client.vpnIp,
    []] ++
  match serverPub, args.serverIp with
  | some pubKey, some serverIp =>
      ["══ Connection Key (paste into app) ══".toList,
        [],
        connKey serialize args.listen serverIp pubKey client.psk (ipText client.vpnIp),
        []]
  | serverPub, serverIp => warnings serverPub serverIp

/-! ## The panel -/

/-- `str.split` at a separator. A found separator is skipped. -/
def splitTextFrom (sep cur : Text) : Nat → Text → List Text
  | _, [] => [cur]
  | skip + 1, _ :: s => splitTextFrom sep cur skip s
  | 0, c :: s =>
      if sep.isPrefixOf (c :: s) then cur :: splitTextFrom sep [] (sep.length - 1) s
      else splitTextFrom sep (cur ++ [c]) 0 s

/-- `str.split`. -/
def splitText (sep s : Text) : List Text := splitTextFrom sep [] 0 s

/-- One line of the output: the id and the link found so far. A line that starts with `ID:` has a
part behind it. -/
def parseLine (found : Option Text × Option Text) (line : Text) : Option Text × Option Text :=
  let found :=
    if "ID:".toList.isPrefixOf (strip line) then
      (some (strip ((splitText "ID:".toList line).getD 1 [])), found.2)
    else found
  if scheme.isPrefixOf (strip line) then (found.1, some (strip line)) else found

/-- The id and the link in the output. -/
def parseCreated (out : Text) : Option Text × Option Text :=
  (splitLines out).foldl parseLine (none, none)

/-- `ClientDB`, without the traffic. Times are in microseconds from the first day of year 1 on. The
limit is a finite number: a request may also bring the infinite float, which the table keeps and with
which the answer of `get_subscription` cannot be written as JSON. -/
structure PanelRow where
  id : Text
  name : String
  psk : Text
  vpnIp : Text
  enabled : Bool
  telegramId : Option String
  dataLimit : ℚ
  groupId : Option String
  subscriptionEnd : Option Nat
  subToken : Option Text
deriving DecidableEq

/-- The table `clients`. -/
structure Table where
  rows : List PanelRow
  ids_nodup : (rows.map PanelRow.id).Nodup
  names_nodup : (rows.map PanelRow.name).Nodup
  tokens_nodup : (rows.filterMap PanelRow.subToken).Nodup

/-- A commit, which the constraints of the table can refuse. -/
def commit (rows : List PanelRow) : Option Table :=
  if h : (rows.map PanelRow.id).Nodup ∧ (rows.map PanelRow.name).Nodup ∧
      (rows.filterMap PanelRow.subToken).Nodup then
    some ⟨rows, h.1, h.2.1, h.2.2⟩
  else none

/-- `NodeDB`. -/
structure NodeRow where
  id : Text
  name : String
  location : String
  ipAddress : Text
  port : Int
  isOnline : Bool
deriving DecidableEq

/-- The panel's tables, the server's file, and the copy of the server that is running. The file is
that of the command and of `CLIENTS_JSON_PATH`. -/
structure State where
  table : Table
  nodes : List NodeRow
  disk : Disk
  server : ClientDbFile

/-- What the panel runs on: the primitives and the JSON writer of the server, its key file, whether
its argument parser takes a name, and the modules of Python. -/
structure Setup where
  prim : Primitives
  serialize : List (Text × Text) → Text
  keyFile : Option Bytes
  accepts : String → Bool
  py : PythonDecoders
  strptime : String → Option Nat

/-- The address of the primary server. -/
def serverIp : Text := "185.204.52.135".toList

/-- The arguments of the command, with the default listen address. -/
def Setup.args (U : Setup) : ServerArgs := ⟨"0.0.0.0:443".toList, U.keyFile, some serverIp⟩

/-- `ClientCreate`. -/
structure ClientCreate where
  username : String
  telegramId : Option String
  dataLimit : ℚ
  groupId : Option String
  subscriptionDays : Option Int

/-- `ClientUpdate`. -/
structure ClientUpdate where
  username : Option String
  telegramId : Option String
  dataLimit : Option ℚ
  groupId : Option String
  subscriptionEnd : Option String

/-- What `create_client` draws and reads: the random bytes and the time of the server, whether its
save fails, the token and the time of the panel. -/
structure Draws where
  idBytes : ByteArr 8
  psk : Key
  created : Nat
  saved : Option SaveFailure
  subToken : Text
  now : Nat

/-- The server's command, as the panel runs it: what it prints, unless it exits with an error, and
the file afterwards. -/
def addClientCommand (U : Setup) (name : String) (draw : Draws) (disk : Disk) :
    Option Text × Disk :=
  if U.accepts name then
    match ClientDbFile.load disk with
    | .error _ => (none, disk)
    | .ok d => match d.addClientAndSave draw.saved name draw.idBytes draw.psk draw.created with
      | (.error _, _) => (none, disk)
      | (.ok client, d') =>
          (some (output (createdLines U.prim U.serialize U.args name client)), .content d')
  else (none, disk)

/-- `read_clients_db`. -/
def readClientsDb : Disk → Option ClientDbFile
  | .missing => some ⟨[], 2⟩
  | .malformed => none
  | .content data => some data

/-- The restart of the server. -/
def restart (s : State) : State :=
  match ClientDbFile.load s.disk with
  | .ok d => { s with server := d }
  | .error _ => s

/-- `datetime.max`, and one microsecond. -/
def dateTimeEnd : Nat := 3652059 * 86400000000

/-- `utcnow() + timedelta(days=days)`, which overflows. -/
def plusDays (now : Nat) (days : Int) : Option Nat :=
  let sum := (now : Int) + days * 86400000000
  if days.natAbs ≤ 999999999 ∧ 0 ≤ sum ∧ sum < dateTimeEnd then some sum.toNat else none

/-- The end of a new subscription, unless the sum overflows. -/
def newSubscriptionEnd (body : ClientCreate) (now : Nat) : Option (Option Nat) :=
  match body.subscriptionDays with
  | none => some none
  | some days => if days = 0 then some none else (plusDays now days).map some

/-- What the address of every subscription starts with. -/
def subRoot : Text := "http://185.204.52.135/api/sub/".toList

/-- The address of a subscription. -/
def subUrl (token : Text) : Text := subRoot ++ token

/-- The link to a subscription. -/
def subShadeLink (py : PythonDecoders) (token : Text) : Text :=
  let subPayload := py.dumps (.object [("sub".toList, .string (subUrl token))])
  let subB64 := (base64url.encode (utf8 subPayload)).rdropWhile (· = '=')
  scheme ++ subB64

/-- What `create_client` returns. -/
structure Created where
  shadeLink : Text
  directLink : Text
  subToken : Text
deriving DecidableEq

/-- The row of a new client. -/
def newRow (body : ClientCreate) (draw : Draws) (cId link vpnIp : Text) (endsAt : Option Nat) :
    PanelRow :=
  { id := cId
    name := body.username
    psk := link
    vpnIp := vpnIp
    enabled := true
    telegramId := body.telegramId
    dataLimit := body.dataLimit
    groupId := body.groupId
    subscriptionEnd := endsAt
    subToken := some draw.subToken }

/-- `create_client` behind the command. An error is the status of the response; an exception that is
not caught is 500. -/
def enterClient (U : Setup) (body : ClientCreate) (draw : Draws) (out : Text) (s : State) :
    Except Nat Created × State :=
  match parseCreated out with
  | (none, _) => (.error 500, s)
  | (some cId, link) =>
      if cId = [] then (.error 500, s)
      else match readClientsDb s.disk, newSubscriptionEnd body draw.now, link with
        | some coreDb, some endsAt, some link =>
            let core := coreDb.clients.find? fun c => c.id.toList = cId
            let vpnIp := (core.map fun c => ipText c.vpnIp).getD "10.0.0.x".toList
            match commit (s.table.rows ++ [newRow body draw cId link vpnIp endsAt]) with
            | some table =>
                (.ok ⟨subShadeLink U.py draw.subToken, link, draw.subToken⟩,
                  restart { s with table := table })
            | none => (.error 500, s)
        | _, _, _ => (.error 500, s)

/-- `create_client`. -/
def createClient (U : Setup) (body : ClientCreate) (draw : Draws) (s : State) :
    Except Nat Created × State :=
  if body.username = "" then (.error 400, s)
  else match addClientCommand U body.username draw s.disk with
    | (none, disk) => (.error 500, { s with disk := disk })
    | (some out, disk) => enterClient U body draw out { s with disk := disk }

/-- The rows without one. -/
def Table.delete (t : Table) (cid : Text) : Table where
  rows := t.rows.filter fun r => r.id ≠ cid
  ids_nodup := t.ids_nodup.sublist (List.filter_sublist.map _)
  names_nodup := t.names_nodup.sublist (List.filter_sublist.map _)
  tokens_nodup := t.tokens_nodup.sublist (List.filter_sublist.filterMap _)

/-- `delete_client`. -/
def deleteClient (cid : Text) (s : State) : Except Nat Unit × State :=
  match s.table.rows.find? fun r => r.id = cid with
  | none => (.error 404, s)
  | some _ =>
      let s := { s with table := s.table.delete cid }
      match readClientsDb s.disk with
      | none => (.error 500, s)
      | some core =>
          let kept := { core with clients := core.clients.filter fun c => c.id.toList ≠ cid }
          (.ok (), restart { s with disk := .content kept })

/-- The clients of the file, with those of an id changed. -/
def changeCore (cid : Text) (f : ClientRecord → ClientRecord) (core : ClientDbFile) :
    ClientDbFile :=
  { core with clients := core.clients.map fun c => if c.id.toList = cid then f c else c }

/-- The fields of `ClientUpdate` in a row. -/
def PanelRow.update (U : Setup) (body : ClientUpdate) (r : PanelRow) : PanelRow :=
  { r with
    name := body.username.getD r.name
    telegramId := body.telegramId <|> r.telegramId
    dataLimit := body.dataLimit.getD r.dataLimit
    groupId := body.groupId <|> r.groupId
    subscriptionEnd := match body.subscriptionEnd with
      | none => r.subscriptionEnd
      | some date => if date = "" then none else (U.strptime date <|> r.subscriptionEnd) }

/-- The file that `update_client` writes for a new name, if the client is in it. -/
def renameCore (cid : Text) (name : String) (core : ClientDbFile) : Option ClientDbFile :=
  if core.clients.any fun c => c.id.toList = cid then
    some (changeCore cid (fun c => { c with name := name }) core)
  else none

/-- `update_client` behind the change of the file. -/
def updateRow (U : Setup) (cid : Text) (body : ClientUpdate) (needsRestart : Bool) (s : State) :
    Except Nat Unit × State :=
  match commit (s.table.rows.map fun r => if r.id = cid then r.update U body else r) with
  | none => (.error 500, s)
  | some table =>
      let s := { s with table := table }
      (.ok (), if needsRestart then restart s else s)

/-- `update_client`. The file is written before the commit. -/
def updateClient (U : Setup) (cid : Text) (body : ClientUpdate) (s : State) :
    Except Nat Unit × State :=
  match s.table.rows.find? fun r => r.id = cid with
  | none => (.error 404, s)
  | some r => match body.username.filter (· ≠ r.name) with
    | none => updateRow U cid body false s
    | some name => match readClientsDb s.disk with
      | none => (.error 500, s)
      | some core => match renameCore cid name core with
        | none => updateRow U cid body false s
        | some core => updateRow U cid body true { s with disk := .content core }

/-- The row of a client is enabled or disabled. -/
def PanelRow.toggle (cid : Text) (enabled : Bool) (r : PanelRow) : PanelRow :=
  if r.id = cid then { r with enabled := enabled } else r

theorem PanelRow.toggle_id (cid : Text) (enabled : Bool) :
    PanelRow.id ∘ PanelRow.toggle cid enabled = PanelRow.id := by
  funext r
  show (if _ then _ else _ : PanelRow).id = r.id
  split_ifs <;> rfl

theorem PanelRow.toggle_name (cid : Text) (enabled : Bool) :
    PanelRow.name ∘ PanelRow.toggle cid enabled = PanelRow.name := by
  funext r
  show (if _ then _ else _ : PanelRow).name = r.name
  split_ifs <;> rfl

theorem PanelRow.toggle_subToken (cid : Text) (enabled : Bool) :
    PanelRow.subToken ∘ PanelRow.toggle cid enabled = PanelRow.subToken := by
  funext r
  show (if _ then _ else _ : PanelRow).subToken = r.subToken
  split_ifs <;> rfl

/-- `c.enabled = body.enabled`. -/
def Table.toggle (t : Table) (cid : Text) (enabled : Bool) : Table where
  rows := t.rows.map (PanelRow.toggle cid enabled)
  ids_nodup := by
    rw [List.map_map, PanelRow.toggle_id]
    exact t.ids_nodup
  names_nodup := by
    rw [List.map_map, PanelRow.toggle_name]
    exact t.names_nodup
  tokens_nodup := by
    rw [List.filterMap_map, PanelRow.toggle_subToken]
    exact t.tokens_nodup

/-- `toggle_client`. -/
def toggleClient (cid : Text) (enabled : Bool) (s : State) : Except Nat Unit × State :=
  match s.table.rows.find? fun r => r.id = cid with
  | none => (.error 404, s)
  | some _ =>
      let s := { s with table := s.table.toggle cid enabled }
      match readClientsDb s.disk with
      | none => (.error 500, s)
      | some core =>
          let core := changeCore cid (fun c => { c with enabled := enabled }) core
          (.ok (), restart { s with disk := .content core })

/-- `create_node`, with the id it draws. -/
def createNode (nid : Text) (name location : String) (ipAddress : Text) (port : Int) (s : State) :
    Except Nat Unit × State :=
  if nid ∈ s.nodes.map NodeRow.id then (.error 500, s)
  else (.ok (), { s with nodes := s.nodes ++ [⟨nid, name, location, ipAddress, port, true⟩] })

/-- `delete_node`. -/
def deleteNode (nid : Text) (s : State) : Except Nat Unit × State :=
  if nid ∈ s.nodes.map NodeRow.id then
    (.ok (), { s with nodes := s.nodes.filter fun n => n.id ≠ nid })
  else (.error 404, s)

/-! ## Requests and the running server -/

/-- The requests to the panel, and what the server does in between. -/
inductive Op where
  | createClient (body : ClientCreate) (draw : Draws)
  | deleteClient (cid : Text)
  | updateClient (cid : Text) (body : ClientUpdate)
  | toggleClient (cid : Text) (enabled : Bool)
  | createNode (nid : Text) (name location : String) (ipAddress : Text) (port : Int)
  | deleteNode (nid : Text)
  | recordHandshake (clientId : String) (now : Nat)
  | recordTraffic (clientId : String) (bytesIn bytesOut : UInt64) (now : Nat)
  | flushStats
  | reloadIfChanged
  | restart

/-- One of them. -/
def step (U : Setup) (s : State) : Op → State
  | .createClient body draw => (createClient U body draw s).2
  | .deleteClient cid => (deleteClient cid s).2
  | .updateClient cid body => (updateClient U cid body s).2
  | .toggleClient cid enabled => (toggleClient cid enabled s).2
  | .createNode nid name location ipAddress port =>
      (createNode nid name location ipAddress port s).2
  | .deleteNode nid => (deleteNode nid s).2
  | .recordHandshake clientId now => { s with server := s.server.recordHandshake clientId now }
  | .recordTraffic clientId bytesIn bytesOut now =>
      { s with server := s.server.recordTraffic clientId bytesIn bytesOut now }
  | .flushStats => { s with disk := .content s.server }
  | .reloadIfChanged => { s with server := (s.server.reloadIfChanged s.disk).2 }
  | .restart => restart s

/-! ## Reading the output of the command -/

/-- The rest of a separator is skipped. -/
theorem splitTextFrom_drop (sep cur : Text) (skip : Nat) (s : Text) :
    splitTextFrom sep cur skip s = splitTextFrom sep cur 0 (s.drop skip) := by
  induction s generalizing skip with
  | nil => cases skip <;> rfl
  | cons c s ih =>
      cases skip with
      | zero => rfl
      | succ skip => exact ih skip

/-- Without the first character of the separator there is nothing to split. -/
theorem splitTextFrom_of_not_mem {c : Char} {sep s : Text} (h : c ∉ s) (cur : Text) :
    splitTextFrom (c :: sep) cur 0 s = [cur ++ s] := by
  induction s generalizing cur with
  | nil => rw [splitTextFrom, List.append_nil]
  | cons d s ih =>
      have hnot : ¬ (c :: sep).isPrefixOf (d :: s) = true := fun hprefix =>
        h ((List.isPrefixOf_iff_prefix.1 hprefix).subset List.mem_cons_self)
      rw [splitTextFrom, if_neg hnot, ih fun hmem => h (List.mem_cons_of_mem _ hmem),
        List.append_assoc, List.singleton_append]

/-- Text without the first character of the separator, on both sides of one. -/
theorem splitText_append {c : Char} {sep s t : Text} (hs : c ∉ s) (ht : c ∉ t) :
    splitText (c :: sep) (s ++ (c :: sep) ++ t) = [s, t] := by
  have hfrom (cur : Text) :
      splitTextFrom (c :: sep) cur 0 (s ++ (c :: sep) ++ t) = [cur ++ s, t] := by
    induction s generalizing cur with
    | nil =>
        have hprefix : (c :: sep).isPrefixOf (c :: (sep ++ t)) = true :=
          List.isPrefixOf_iff_prefix.2 (List.prefix_append (c :: sep) t)
        rw [List.nil_append, List.cons_append, splitTextFrom, if_pos hprefix, splitTextFrom_drop,
          List.length_cons, Nat.add_sub_cancel, List.drop_left, splitTextFrom_of_not_mem ht,
          List.nil_append, List.append_nil]
    | cons d s ih =>
        have hd : d ≠ c := fun heq => hs (heq ▸ List.mem_cons_self)
        have hnot : ¬ (c :: sep).isPrefixOf (d :: (s ++ (c :: sep) ++ t)) = true := fun hprefix =>
          hd (List.cons_prefix_cons.1 (List.isPrefixOf_iff_prefix.1 hprefix)).1.symm
        rw [List.cons_append, List.cons_append, splitTextFrom, if_neg hnot,
          ih fun hmem => hs (List.mem_cons_of_mem _ hmem), List.append_assoc, List.singleton_append]
  exact hfrom []

/-- Behind a line break the lines are those of the rest, whatever was in front. -/
theorem exists_splitLinesFrom_append (afterReturn : Bool) (cur x s : Text) :
    ∃ front, splitLinesFrom afterReturn cur (x ++ '!' :: '\n' :: s) = front ++ splitLines s := by
  induction x generalizing afterReturn cur with
  | nil =>
      refine ⟨[cur ++ ['!']], ?_⟩
      have hmark : isLineBreak '!' = false := by decide
      have hfeed : isLineBreak '\n' = true := by decide
      simp only [List.nil_append, splitLinesFrom, hmark, hfeed, Bool.false_and, Bool.false_eq_true,
        if_false, if_true]
      split_ifs with hreturn
      · simp at hreturn
      · rfl
  | cons c x ih =>
      rw [List.cons_append, splitLinesFrom]
      split_ifs with hskip hbreak
      · exact ih false cur
      · obtain ⟨front, hfront⟩ := ih (c == '\r') []
        exact ⟨cur :: front, by rw [hfront, List.cons_append]⟩
      · exact ih false (cur ++ [c])

/-- A text without blanks, behind a line's own text. -/
theorem solid_append {c : Char} {t word : Text} (hc : isSpace c = false) (hne : word ≠ [])
    (hspace : ∀ d ∈ word, isSpace d = false) : Solid isSpace (c :: t ++ word) where
  first := ⟨c, t ++ word, rfl, hc⟩
  last := by
    refine ⟨c :: t ++ word.dropLast, word.getLast hne, ?_, hspace _ (List.getLast_mem hne)⟩
    rw [List.append_assoc, List.dropLast_append_getLast]

/-- Blanks in front are stripped. -/
theorem strip_append (n : Nat) {core : Text} (h : Solid isSpace core) :
    strip (List.replicate n ' ' ++ core) = core := by
  have hblank : ∀ c ∈ List.replicate n ' ', isSpace c = true := by
    intro c hc
    rw [List.eq_of_mem_replicate hc]
    rfl
  have htrim := trimBy_append hblank h fun c hc => absurd hc List.not_mem_nil
  rwa [List.append_nil] at htrim

section

variable {found : Option Text × Option Text} {id key ip : Text}

/-- A line that starts with neither mark says nothing. -/
theorem parseLine_of_not {line : Text} (hid : ¬ "ID:".toList.isPrefixOf (strip line) = true)
    (hlink : ¬ scheme.isPrefixOf (strip line) = true) : parseLine found line = found := by
  simp only [parseLine, if_neg hid, if_neg hlink]

theorem not_isPrefixOf {c d : Char} {t u : Text} (h : c ≠ d) :
    ¬ (c :: t).isPrefixOf (d :: u) = true := fun hprefix =>
  h (List.cons_prefix_cons.1 (List.isPrefixOf_iff_prefix.1 hprefix)).1

/-- The line with the id. -/
theorem parseLine_id (hne : id ≠ []) (hspace : ∀ c ∈ id, isSpace c = false) (hmark : 'I' ∉ id) :
    parseLine found ("   ID:     ".toList ++ id) = (some id, found.2) := by
  have hstrip : strip ("   ID:     ".toList ++ id) = "ID:     ".toList ++ id :=
    strip_append 3 (solid_append (by decide) hne hspace)
  have hvalue : strip ("     ".toList ++ id) = id := strip_append 5 (solid_of_forall hne hspace)
  have hsplit : splitText "ID:".toList ("   ID:     ".toList ++ id) =
      ["   ".toList, "     ".toList ++ id] := by
    have hblanks : 'I' ∉ "     ".toList ++ id := by
      intro h
      rcases List.mem_append.1 h with h | h
      · exact absurd h (by decide)
      · exact hmark h
    have hfront : 'I' ∉ "   ".toList := by decide
    exact splitText_append hfront hblanks
  have hprefix : "ID:".toList.isPrefixOf ("ID:     ".toList ++ id) = true :=
    List.isPrefixOf_iff_prefix.2 (List.prefix_append "ID:".toList ("     ".toList ++ id))
  have hlink : ¬ scheme.isPrefixOf ("ID:     ".toList ++ id) = true := not_isPrefixOf (by decide)
  unfold parseLine
  simp only [hstrip, hprefix, if_true, if_neg hlink, hsplit]
  rw [List.getD_cons_succ, List.getD_cons_zero, hvalue]

/-- The line with the address. -/
theorem parseLine_ip (hne : ip ≠ []) (hspace : ∀ c ∈ ip, isSpace c = false) :
    parseLine found ("   VPN IP: ".toList ++ ip) = found := by
  have hstrip : strip ("   VPN IP: ".toList ++ ip) = "VPN IP: ".toList ++ ip :=
    strip_append 3 (solid_append (by decide) hne hspace)
  apply parseLine_of_not
  all_goals
    rw [hstrip]
    exact not_isPrefixOf (by decide)

/-- The line with the key. -/
theorem parseLine_key (hsolid : Solid isSpace (scheme ++ key)) :
    parseLine found (scheme ++ key) = (found.1, some (scheme ++ key)) := by
  have hstrip : strip (scheme ++ key) = scheme ++ key := trimBy_of_solid hsolid
  have hid : ¬ "ID:".toList.isPrefixOf (scheme ++ key) = true := not_isPrefixOf (by decide)
  have hprefix : scheme.isPrefixOf (scheme ++ key) = true :=
    List.isPrefixOf_iff_prefix.2 (List.prefix_append scheme key)
  unfold parseLine
  simp only [hstrip, if_neg hid, hprefix, if_true]

end

theorem isSpace_keyChars : ∀ c ∈ scheme ++ base64url.chars, isSpace c = false :=
  forall_of_all (by decide +kernel)

/-- Behind the first line of the command, the panel reads the lines that the server prints. -/
theorem splitLines_created (name : String) {lines : List Text}
    (h : ∀ l ∈ lines, ∀ c ∈ l, isLineBreak c = false) :
    ∃ front, splitLines (output
      (("✅ Client '".toList ++ name.toList ++ "' created!".toList) :: lines)) = front ++ lines := by
  obtain ⟨front, hfront⟩ := exists_splitLinesFrom_append false []
    ("✅ Client '".toList ++ name.toList ++ "' created".toList) (output lines)
  have hrest := splitLines_output h []
  rw [List.append_nil] at hrest
  rw [hrest] at hfront
  refine ⟨front, ?_⟩
  have hnil : splitLines [] = [] := rfl
  rw [hnil, List.append_nil] at hfront
  rw [← hfront, output, List.flatMap_cons]
  unfold splitLines
  congr 1
  simp only [List.append_assoc]
  rfl

/-- The panel finds the id and the key of the client that was registered, whatever its name is. -/
theorem parseCreated_output {P : Primitives} {serialize : List (Text × Text) → Text}
    {args : ServerArgs} {pubKey : Key} {ip : Text} (hkey : loadServerPublicKey P args = some pubKey)
    (hip : args.serverIp = some ip) (name : String) {client : ClientRecord} {idBytes : ByteArr 8}
    (hid : client.id = ClientDbFile.hexId idBytes) :
    parseCreated (output (createdLines P serialize args name client)) =
      (some client.id.toList,
        some (connKey serialize args.listen ip pubKey client.psk (ipText client.vpnIp))) := by
  have hhex : ∀ c ∈ "0123456789abcdef".toList, isSpace c = false := forall_of_all (by decide)
  have hidSpace : ∀ c ∈ client.id.toList, isSpace c = false := by
    intro c hc
    rw [hid] at hc
    exact hhex c (mem_hexId hc)
  have hidNe : client.id.toList ≠ [] := by
    have hlength := length_hexId idBytes
    rw [← hid] at hlength
    exact List.ne_nil_of_length_pos (by omega)
  have hidMark : 'I' ∉ client.id.toList := by
    intro hmem
    rw [hid] at hmem
    have hupper : 'I' ∉ "0123456789abcdef".toList := by decide
    exact hupper (mem_hexId hmem)
  have hipSpace := isSpace_of_numeral (isNumeral_ipText client.vpnIp)
  have hipNe := (isNumeral_ipText client.vpnIp).1
  obtain ⟨data, hdata⟩ : ∃ data, connKey serialize args.listen ip pubKey client.psk
      (ipText client.vpnIp) = scheme ++ base64url.unpadded data := ⟨_, rfl⟩
  have hsolid := solid_key isSpace_keyChars data
  have hkeySpace : ∀ c ∈ scheme ++ base64url.unpadded data, isSpace c = false := by
    intro c hc
    apply isSpace_keyChars
    rcases List.mem_append.1 hc with hscheme | hpayload
    · exact List.mem_append_left _ hscheme
    · exact List.mem_append_right _ (mem_chars_of_mem_unpadded hpayload)
  unfold parseCreated createdLines
  rw [hkey, hip]
  simp only [hdata, List.cons_append, List.nil_append]
  have hlines : ∀ l ∈ ["   ID:     ".toList ++ client.id.toList,
      "   VPN IP: ".toList ++ ipText client.vpnIp, [],
      "══ Connection Key (paste into app) ══".toList, [], scheme ++ base64url.unpadded data, []],
      ∀ c ∈ l, isLineBreak c = false := by
    have hnil : ∀ c ∈ ([] : Text), isLineBreak c = false := fun _ hc => nomatch hc
    have hword {word : Text} (h : ∀ c ∈ word, isSpace c = false) : ∀ c ∈ word,
        isLineBreak c = false := fun c hc => isLineBreak_of_not_isSpace (h c hc)
    simp only [List.forall_mem_cons]
    refine ⟨?_, ?_, hnil, forall_of_all (by decide), hnil, hword hkeySpace, hnil, nofun⟩
    · exact List.forall_mem_append.2 ⟨forall_of_all (by decide), hword hidSpace⟩
    · exact List.forall_mem_append.2 ⟨forall_of_all (by decide), hword hipSpace⟩
  obtain ⟨front, hfront⟩ := splitLines_created name hlines
  rw [hfront, List.foldl_append]
  simp only [List.foldl_cons, List.foldl_nil]
  have hblank (found : Option Text × Option Text) : parseLine found [] = found :=
    parseLine_of_not (by decide) (by decide)
  have htitle (found : Option Text × Option Text) :
      parseLine found "══ Connection Key (paste into app) ══".toList = found :=
    parseLine_of_not (by decide) (by decide)
  rw [parseLine_id hidNe hidSpace hidMark, parseLine_ip hipNe hipSpace, hblank, htitle, hblank,
    parseLine_key hsolid, hblank]

end Panel

end Aivpn
