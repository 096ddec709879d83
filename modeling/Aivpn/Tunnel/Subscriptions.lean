import Aivpn.Admin.PanelAgreement
import Mathlib.Data.List.Pairwise

/-!
# Subscriptions

The panel hands out a link to a list of servers instead of a key. The ShadeVPN app reads the address
of the list out of the link, fetches it, and stores the keys in it as profiles; whenever it comes to
the foreground it fetches the list again, in the background, while the user may choose another server
or change to another key. It connects with the key of the active profile, or with one it has shown
before.

Whatever the order of these steps and of the requests to the panel, the app connects with a key that
the user has pasted, or as the client behind a link that the user has pasted: with the server's key,
and the PSK and the address that the server's file had for that client when the list was fetched
(`connects_as_client`). A link that is pasted leads to that client (`link_connects`).
-/

set_option autoImplicit false

namespace Aivpn

open Aivpn.Lib Alphabet JsonText ClientTable Panel

/-! ## The list of servers -/

/-- The status of a subscription. -/
inductive SubscriptionStatus where
  | active
  | disabled
  | expired
deriving DecidableEq, Repr

/-- A server in the list, without what is shown of it. -/
structure ServerInfo where
  id : Text
  key : Text
deriving DecidableEq, Repr

/-- The list of servers. -/
structure Subscription where
  status : SubscriptionStatus
  servers : List ServerInfo
deriving DecidableEq, Repr

namespace Panel

/-- The nodes in a list, next to the primary server. -/
def listedNodes (s : State) : List NodeRow :=
  s.nodes.filter fun n => n.isOnline && n.ipAddress != serverIp

/-- The servers for a client. -/
def serverList (py : PythonDecoders) (client : PanelRow) (s : State) : List ServerInfo :=
  let primary := if scheme.isPrefixOf client.psk then [⟨"primary".toList, client.psk⟩] else []
  primary ++ (listedNodes s).map fun node =>
    ⟨node.id, if client.psk = [] then []
      else rewriteKeyForNode py client.psk node.ipAddress node.port⟩

/-- `get_subscription`. -/
def getSubscription (py : PythonDecoders) (subToken : Text) (now : Nat) (s : State) :
    Except Nat Subscription :=
  match s.table.rows.find? fun r => r.subToken = some subToken with
  | none => .error 404
  | some client =>
      if !client.enabled then .ok ⟨.disabled, []⟩
      else if client.subscriptionEnd.any (· < now) then .ok ⟨.expired, []⟩
      else .ok ⟨.active, serverList py client s⟩

end Panel

/-! ## The app -/

namespace Shade

/-- `ConnectionProfile`, without its name. -/
structure ConnectionProfile where
  id : Text
  key : Text
deriving DecidableEq, Repr

/-- What `SecureStorage` keeps of the subscription. -/
structure SecureStorage where
  profiles : List ConnectionProfile
  activeProfileId : Text
  subscriptionUrl : Text
deriving DecidableEq, Repr

/-- A list that was fetched and has not been saved: by the onboarding, or by the main screen. -/
structure Fetched where
  onboarding : Bool
  profiles : List ConnectionProfile
deriving DecidableEq, Repr

/-- The app: what it stores, the key of the main screen, and what its background tasks are to save
and to show. -/
structure App where
  storage : SecureStorage
  activeKey : Text
  fetched : List Fetched
  updated : List (List ConnectionProfile)
deriving DecidableEq, Repr

/-- The four strings of a key. -/
abbrev Fields : Type := Text × Text × Text × Text

/-- The part of a key that is decoded. -/
def decodeKey (dec : AppDecoders) (key : Text) : Option Bytes :=
  let raw := trimBy Android.isWhitespace key
  dec.decode (([scheme, "aivpn://".toList].findSome? (stripPrefix · raw)).getD raw)

/-- `getString` of the four names. -/
def readFields (dec : AppDecoders) (jsonString : Bytes) : Option Fields := do
  let json ← dec.jsonObject jsonString
  let server ← json ['s']
  let serverKey ← json ['k']
  let psk ← json ['p']
  let vpnIp ← json ['i']
  some (server, serverKey, psk, vpnIp)

/-- `parseConnectionKey` decodes and reads. -/
theorem parseConnectionKey_eq (dec : AppDecoders) (key : Text) :
    Android.shadeParseConnectionKey dec key = (decodeKey dec key).bind (readFields dec) := rfl

/-- `extractSubUrl`. -/
def extractSubUrl (dec : AppDecoders) (jsonString : Bytes) : Option Text :=
  (dec.jsonObject jsonString).bind fun json => json "sub".toList

/-- The address that the app finds in a pasted text. -/
def pastedUrl (dec : AppDecoders) (text : Text) : Option Text :=
  (decodeKey dec text).bind (extractSubUrl dec)

/-- `fetchServers`, with what the panel answers if it is reached. -/
def fetchServers (answer : Option (Except Nat Subscription)) : Option Subscription :=
  match answer with
  | none => none
  | some (.error _) => none
  | some (.ok result) =>
      if result.status ≠ .active then some ⟨result.status, []⟩
      else some ⟨result.status, result.servers.filter fun s => s.key ≠ []⟩

/-- A profile for every server; one without an id is given a random one. -/
def toProfiles (uuid : Nat → Text) (servers : List ServerInfo) : List ConnectionProfile :=
  servers.mapIdx fun i s => ⟨if s.id = [] then uuid i else s.id, s.key⟩

/-- The active profile, or the first one. -/
def SecureStorage.active (st : SecureStorage) : Option ConnectionProfile :=
  (st.profiles.find? fun p => p.id = st.activeProfileId) <|> st.profiles.head?

namespace App

/-- The profiles of a list that can be saved. -/
def savable (uuid : Nat → Text) (result : Option Subscription) : List ConnectionProfile :=
  match result with
  | some ⟨.active, servers⟩ => toProfiles uuid servers
  | _ => []

/-- What the user and the system do. The random ids are drawn with the fetch. A list is saved while
its screen is still there or not; only then it is shown. -/
inductive Op where
  | activateKey (key : Text) (uuid : Nat → Text)
  | refresh (uuid : Nat → Text)
  | save (k : Nat) (onScreen : Bool)
  | showUpdated (k : Nat)
  | selectServer (id : Text)
  | create
  | resume
  | changeKey

/-- The address that an operation fetches. -/
def request (dec : AppDecoders) (app : App) : Op → Option Text
  | .activateKey key _ => if key = [] then none else pastedUrl dec key
  | .refresh _ =>
      if app.storage.subscriptionUrl = [] then none else some app.storage.subscriptionUrl
  | _ => none

/-- The profiles are queued, if there are any. -/
def queue (app : App) (onboarding : Bool) (profiles : List ConnectionProfile) : App :=
  if profiles = [] then app else { app with fetched := app.fetched ++ [⟨onboarding, profiles⟩] }

/-- `activateSubscription` up to the fetch. -/
def activateSubscription (subUrl : Text) (result : Option Subscription) (uuid : Nat → Text)
    (app : App) : App :=
  let app := { app with storage := { app.storage with subscriptionUrl := subUrl } }
  app.queue true (savable uuid result)

/-- `activateLegacyKey`. -/
def activateLegacyKey (dec : AppDecoders) (originalKey : Text) (jsonString : Bytes) (uuid : Text)
    (app : App) : App :=
  match readFields dec jsonString with
  | none => app
  | some _ =>
      let profile : ConnectionProfile := ⟨uuid, originalKey⟩
      { app with storage := { app.storage with
          profiles := app.storage.profiles ++ [profile]
          activeProfileId := profile.id } }

/-- `activateKey`. -/
def activateKey (dec : AppDecoders) (result : Option Subscription) (key : Text) (uuid : Nat → Text)
    (app : App) : App :=
  if key = [] then app
  else match decodeKey dec key with
    | none => app
    | some jsonString => match extractSubUrl dec jsonString with
      | some subUrl => app.activateSubscription subUrl result uuid
      | none => app.activateLegacyKey dec key jsonString (uuid 0)

/-- A fetched list is saved. The onboarding activates its first profile, a refresh only if the
active one is gone. -/
def save (f : Fetched) (onScreen : Bool) (app : App) : App :=
  let st := app.storage
  let firstId := (f.profiles.head?.map ConnectionProfile.id).getD []
  let activeId :=
    if f.onboarding || f.profiles.all fun p => p.id ≠ st.activeProfileId then firstId
    else st.activeProfileId
  { app with
    storage := { st with profiles := f.profiles, activeProfileId := activeId }
    updated := if !f.onboarding && onScreen then app.updated ++ [f.profiles] else app.updated }

/-- A list that was saved is shown: its active profile, or its first one. -/
def showUpdated (profiles : List ConnectionProfile) (app : App) : App :=
  let active := (profiles.find? fun p => p.id = app.storage.activeProfileId) <|> profiles.head?
  { app with activeKey := (active.map ConnectionProfile.key).getD app.activeKey }

/-- `onResume`. -/
def resume (app : App) : App :=
  match app.storage.active with
  | some active => if active.key ≠ [] then { app with activeKey := active.key } else app
  | none => app

/-- One operation, with what the panel answers to its request. -/
def step (dec : AppDecoders) (answer : Option (Except Nat Subscription)) (app : App) : Op → App
  | .activateKey key uuid => app.activateKey dec (fetchServers answer) key uuid
  | .refresh uuid => app.queue false (savable uuid (fetchServers answer))
  | .save k onScreen => match app.fetched[k]? with
    | some f => save f onScreen { app with fetched := app.fetched.eraseIdx k }
    | none => app
  | .showUpdated k => match app.updated[k]? with
    | some profiles => showUpdated profiles { app with updated := app.updated.eraseIdx k }
    | none => app
  | .selectServer id => { app with storage := { app.storage with activeProfileId := id } }
  | .create =>
      { app with
        activeKey := (app.storage.active.map ConnectionProfile.key).getD []
        updated := [] }
  | .resume => app.resume
  | .changeKey => { app with storage := ⟨[], [], []⟩, activeKey := [], updated := [] }

/-- A new app. -/
def new : App := ⟨⟨[], [], []⟩, [], [], []⟩

/-- `connect` and `startVpnService`: what the service is started with. -/
def connect (dec : AppDecoders) (app : App) : Option Fields :=
  if app.activeKey = [] then none else Android.shadeParseConnectionKey dec app.activeKey

/-- The settings start the service anew, with the active profile. -/
def reconnect (dec : AppDecoders) (app : App) : Option Fields :=
  app.storage.active.bind fun active => Android.shadeParseConnectionKey dec active.key

end App

/-! ## The app and the panel -/

/-- What the app was given: the token, the client that its row stands for in the server's file, and
the addresses of the servers. -/
structure Grant where
  token : Text
  client : ClientRecord
  addresses : List Text

/-- The panel and an app. The pasted texts and the grants are history variables, newest first. -/
structure World where
  panel : State
  app : App
  pasted : List Text
  granted : List Grant

/-- Where a request for an address ends: the token with which `get_subscription` is called, if it
comes to that. Name resolution, HTTP and the routes of the panel decide. -/
abbrev Resolver : Type := Text → Option Text

/-- The address of a token's list leads to that list. -/
def Resolver.Reaches (resolve : Resolver) (token : Text) : Prop :=
  resolve (subUrl token) = some token

namespace World

/-- What the panel answers to a request for an address. No other server answers, and the answer
arrives as it is. -/
def answer (U : Setup) (resolve : Resolver) (now : Nat) (s : State) (url : Text) :
    Option (Except Nat Subscription) :=
  (resolve url).map fun token => getSubscription U.py token now s

/-- The primary server, and the listed nodes. -/
def addresses (U : Setup) (s : State) : List Text :=
  buildConnectionServerAddr U.args.listen serverIp ::
    (listedNodes s).map fun n => nodeAddr n.ipAddress n.port

/-- What the app is given with a list of servers. -/
def grant (U : Setup) (resolve : Resolver) (now : Nat) (s : State) (url : Text) : Option Grant := do
  let token ← resolve url
  let row ← s.table.rows.find? fun r => r.subToken = some token
  if row.enabled && !row.subscriptionEnd.any (· < now) then
    let d ← (ClientDbFile.load s.disk).toOption
    let client ← d.clients.find? fun c => c.id.toList = row.id
    some ⟨token, client, addresses U s⟩
  else none

/-- The panel takes a request, or the app an operation, at a time and with the panel reached or
not. -/
inductive Op where
  | panel (op : Panel.Op)
  | app (op : App.Op) (reached : Bool) (now : Nat)

/-- The text that an operation pastes. -/
def pastes : App.Op → List Text
  | .activateKey key _ => [key]
  | _ => []

/-- One step of either. -/
def step (U : Setup) (resolve : Resolver) (dec : AppDecoders) (w : World) : Op → World
  | .panel op => { w with panel := Panel.step U w.panel op }
  | .app op reached now =>
      let url := if reached then w.app.request dec op else none
      { panel := w.panel
        app := w.app.step dec (url.bind (answer U resolve now w.panel)) op
        pasted := pastes op ++ w.pasted
        granted := (url.bind (grant U resolve now w.panel)).toList ++ w.granted }

/-- An app is installed. -/
def start (s : State) : World := ⟨s, App.new, [], []⟩

/-- The condition on the requests to the panel. -/
def Keeps (U : Setup) (w : World) : Op → Prop
  | .panel op => Panel.Keeps U w.panel op
  | .app _ _ _ => True

end World

/-! ## Reading a link -/

section

variable {dec : AppDecoders} {text : Text}

/-- A pasted key is decoded. -/
theorem decodeKey_of_pasted {data : Bytes} (hdec : dec.Sound base64url.unpadded)
    (h : Pasted text (scheme ++ base64url.unpadded data)) : decodeKey dec text = some data := by
  unfold decodeKey
  rw [h.trimAndroid]
  simp only [List.findSome?_cons, stripPrefix_append, Option.getD_some, hdec.decode]

/-- A link holds the address of its subscription. -/
theorem isKeyOf_subShadeLink {py : PythonDecoders} (hpy : py.Sound) (token : Text) :
    ∃ strings, IsKeyOf (subShadeLink py token) strings ∧
      strings "sub".toList = some (subUrl token) := by
  have hnodup : ([("sub".toList, subUrl token)].map Prod.fst).Nodup := List.nodup_singleton _
  have hdumps := hpy.dumps _ hnodup
  have htext := textOf_writeObject escapes_ascii hnodup
  refine ⟨_, ⟨_, htext, ?_⟩, List.lookup_cons_self⟩
  unfold subShadeLink
  simp only [Json.ofStrings, List.map_cons, List.map_nil] at hdumps
  simp only [hdumps, rdropWhile_encode]

/-- The app finds the address in a pasted link. -/
theorem pastedUrl_link {py : PythonDecoders} (hpy : py.Sound) (hdec : dec.Sound base64url.unpadded)
    {token : Text} (h : Pasted text (subShadeLink py token)) :
    pastedUrl dec text = some (subUrl token) := by
  obtain ⟨strings, ⟨json, htext, hlink⟩, hsub⟩ := isKeyOf_subShadeLink hpy token
  rw [hlink] at h
  unfold pastedUrl extractSubUrl
  rw [decodeKey_of_pasted hdec h, Option.bind_some, hdec.jsonObject json strings htext,
    Option.bind_some, hsub]

/-- A key is pasted as it is. -/
theorem pasted_self (key : Text) : Pasted key key :=
  ⟨[], [], (List.append_nil _).symm, fun _ hc => absurd hc List.not_mem_nil, fun _ hc =>
    absurd hc List.not_mem_nil⟩

end

/-! ## The keys of a list -/

/-- The key is one for the client of a grant, to one of its servers. -/
def IssuedKey (pubKey : Key) (g : Grant) (key : Text) : Prop :=
  ∃ strings, IsKeyOf key strings ∧ (∃ addr ∈ g.addresses, strings ['s'] = some addr) ∧
    strings ['k'] = some (base64.encode pubKey.toList) ∧
    strings ['p'] = some (base64.encode g.client.psk.toList) ∧
    strings ['i'] = some (ipText g.client.vpnIp)

/-- The app reads such a key as what the client is to connect with. -/
theorem parse_issuedKey {dec : AppDecoders} {pubKey : Key} {g : Grant} {key : Text}
    (hdec : dec.Sound base64url.unpadded) (h : IssuedKey pubKey g key) :
    ∃ addr ∈ g.addresses, Android.shadeParseConnectionKey dec key =
      some (addr, base64.encode pubKey.toList, base64.encode g.client.psk.toList,
        ipText g.client.vpnIp) := by
  obtain ⟨strings, ⟨json, htext, rfl⟩, ⟨addr, haddr, hs⟩, hk, hp, hi⟩ := h
  exact ⟨addr, haddr, Android.parseWith_of_pasted hdec htext hs hk hp hi (pasted_self _) _⟩

section

variable {U : Setup} {pubKey : Key} {s : State}

/-- A row is the account of a client in the file. -/
theorem exists_client (h : Agrees U pubKey s) {r : PanelRow} (hr : r ∈ s.table.rows) :
    ∃ d c, ClientDbFile.load s.disk = .ok d ∧
      (d.clients.find? fun c => c.id.toList = r.id) = some c ∧
      U.entry pubKey (ClientDbFile.core c) = r.entry := by
  obtain ⟨d, hload, hrows, -⟩ := h
  obtain ⟨c₀, hc₀, hid₀⟩ := (mem_rows_id_iff hrows r.id).1 (List.mem_map_of_mem hr)
  cases hfind : d.clients.find? fun c => c.id.toList = r.id with
  | none => exact absurd (decide_eq_true hid₀) (List.find?_eq_none.1 hfind c₀ hc₀)
  | some c =>
      have hid := List.find?_some hfind
      have hmem : U.entry pubKey (ClientDbFile.core c) ∈ s.table.rows.map PanelRow.entry := by
        rw [hrows]
        exact List.mem_map_of_mem (List.mem_map_of_mem (List.mem_of_find?_eq_some hfind))
      obtain ⟨r', hr', hentry⟩ := List.mem_map.1 hmem
      have hsame : r'.id = r.id := (congrArg Entry.id hentry).trans (of_decide_eq_true hid)
      rw [s.table.eq_of_id hr' hr hsame] at hentry
      exact ⟨d, c, hload, hfind, hentry.symm⟩

/-- The keys in a list are those of the client. -/
theorem issuedKey_of_mem (hserialize : WritesObjects U.serialize) (hpy : U.py.Sound)
    {r : PanelRow} {c : ClientRecord} (hc : U.entry pubKey (ClientDbFile.core c) = r.entry)
    (token : Text) {info : ServerInfo} (hinfo : info ∈ serverList U.py r s)
    (hne : info.key ≠ []) : IssuedKey pubKey ⟨token, c, World.addresses U s⟩ info.key := by
  have hpsk : r.psk = connKey U.serialize U.args.listen serverIp pubKey c.psk (ipText c.vpnIp) :=
    (congrArg Entry.key hc).symm
  obtain ⟨strings, hkey, hs, hk, hp, hi⟩ := isKeyOf_buildConnectionKey hserialize U.args.listen
    serverIp (base64.encode pubKey.toList) (base64.encode c.psk.toList) (ipText c.vpnIp)
  replace hkey : IsKeyOf r.psk strings := hpsk ▸ hkey
  rcases List.mem_append.1 hinfo with hprimary | hnode
  · split_ifs at hprimary
    · rw [List.mem_singleton.1 hprimary]
      exact ⟨strings, hkey, ⟨_, List.mem_cons_self, hs⟩, hk, hp, hi⟩
    · cases hprimary
  · obtain ⟨node, hlisted, rfl⟩ := List.mem_map.1 hnode
    simp only at hne ⊢
    split_ifs at hne ⊢
    · exact absurd rfl hne
    refine ⟨_, hkey.rewrite hpy node.ipAddress node.port, ⟨_, ?_, Function.update_self _ _ _⟩, ?_,
      ?_, ?_⟩
    · exact List.mem_cons_of_mem _ (List.mem_map_of_mem hlisted)
    · rwa [Function.update_of_ne (by decide)]
    · rwa [Function.update_of_ne (by decide)]
    · rwa [Function.update_of_ne (by decide)]

end

/-! ## What an operation of the app can do -/

namespace App

/-- The app has a profile, or a task of it has. -/
def Holds (app : App) (p : ConnectionProfile) : Prop :=
  p ∈ app.storage.profiles ∨ (∃ f ∈ app.fetched, p ∈ f.profiles) ∨ ∃ ps ∈ app.updated, p ∈ ps

/-- A profile is there already, comes from the answer, or is a pasted key. -/
def Gains (dec : AppDecoders) (answer : Option (Except Nat Subscription)) (op : Op) (app : App)
    (p : ConnectionProfile) : Prop :=
  app.Holds p ∨
    (∃ servers, fetchServers answer = some ⟨.active, servers⟩ ∧
      ∃ info ∈ servers, p.key = info.key) ∨
    ∃ uuid, op = .activateKey p.key uuid ∧ (Android.shadeParseConnectionKey dec p.key).isSome = true

section

variable {dec : AppDecoders} {answer : Option (Except Nat Subscription)} {app : App}
  {p : ConnectionProfile}

theorem key_of_mem_toProfiles {uuid : Nat → Text} {servers : List ServerInfo}
    (h : p ∈ toProfiles uuid servers) : ∃ info ∈ servers, p.key = info.key := by
  obtain ⟨i, hi, rfl⟩ := List.mem_mapIdx.1 h
  exact ⟨servers[i], List.getElem_mem hi, rfl⟩

theorem mem_savable {uuid : Nat → Text} {result : Option Subscription}
    (h : p ∈ savable uuid result) :
    ∃ servers, result = some ⟨.active, servers⟩ ∧ ∃ info ∈ servers, p.key = info.key := by
  unfold savable at h
  split at h
  case h_1 servers => exact ⟨servers, rfl, key_of_mem_toProfiles h⟩
  case h_2 => cases h

theorem holds_queue {onboarding : Bool} {profiles : List ConnectionProfile}
    (h : (app.queue onboarding profiles).Holds p) : app.Holds p ∨ p ∈ profiles := by
  unfold queue at h
  split_ifs at h
  · exact Or.inl h
  · rcases h with hstored | ⟨f, hf, hp⟩ | hupdated
    · exact Or.inl (Or.inl hstored)
    · rcases List.mem_append.1 hf with hf | hf
      · exact Or.inl (Or.inr (Or.inl ⟨f, hf, hp⟩))
      · rw [List.mem_singleton.1 hf] at hp
        exact Or.inr hp
    · exact Or.inl (Or.inr (Or.inr hupdated))

theorem storage_queue (app : App) (onboarding : Bool) (profiles : List ConnectionProfile) :
    (app.queue onboarding profiles).storage = app.storage ∧
      (app.queue onboarding profiles).activeKey = app.activeKey := by
  unfold queue
  split_ifs <;> exact ⟨rfl, rfl⟩

/-- A pasted text leaves the profiles, queues those of a list, or adds itself. -/
theorem activateKey_cases (dec : AppDecoders) (result : Option Subscription) (key : Text)
    (uuid : Nat → Text) (app : App) :
    app.activateKey dec result key uuid = app ∨
    (∃ url, key ≠ [] ∧ pastedUrl dec key = some url ∧
      app.activateKey dec result key uuid = app.activateSubscription url result uuid) ∨
    ((Android.shadeParseConnectionKey dec key).isSome = true ∧
      app.activateKey dec result key uuid = { app with storage := { app.storage with
        profiles := app.storage.profiles ++ [⟨uuid 0, key⟩], activeProfileId := uuid 0 } }) := by
  unfold activateKey
  split_ifs with hempty
  · exact Or.inl rfl
  cases hdecode : decodeKey dec key with
  | none => exact Or.inl rfl
  | some jsonString =>
      simp only
      cases hurl : extractSubUrl dec jsonString with
      | some url =>
          have hpasted : pastedUrl dec key = some url := by
            unfold pastedUrl
            rw [hdecode, Option.bind_some, hurl]
          exact Or.inr (Or.inl ⟨url, hempty, hpasted, rfl⟩)
      | none =>
          simp only
          unfold activateLegacyKey
          cases hfields : readFields dec jsonString with
          | none => exact Or.inl rfl
          | some fields =>
              refine Or.inr (Or.inr ⟨?_, rfl⟩)
              rw [parseConnectionKey_eq, hdecode, Option.bind_some, hfields]
              rfl

theorem gains_of_holds_step {op : Op} (h : (app.step dec answer op).Holds p) :
    Gains dec answer op app p := by
  cases op with
  | activateKey key uuid =>
      simp only [step] at h
      rcases activateKey_cases dec (fetchServers answer) key uuid app with
        heq | ⟨url, -, -, heq⟩ | ⟨hparse, heq⟩
      all_goals rw [heq] at h
      · exact Or.inl h
      · rcases holds_queue h with hbefore | hnew
        · exact Or.inl hbefore
        · exact Or.inr (Or.inl (mem_savable hnew))
      · rcases h with hstored | htask
        · rcases List.mem_append.1 hstored with hp | hp
          · exact Or.inl (Or.inl hp)
          · obtain rfl := List.mem_singleton.1 hp
            exact Or.inr (Or.inr ⟨uuid, rfl, hparse⟩)
        · exact Or.inl (Or.inr htask)
  | refresh uuid =>
      rcases holds_queue h with hbefore | hnew
      · exact Or.inl hbefore
      · exact Or.inr (Or.inl (mem_savable hnew))
  | save k onScreen =>
      simp only [step] at h
      cases hf : app.fetched[k]? with
      | none =>
          rw [hf] at h
          exact Or.inl h
      | some f =>
          rw [hf] at h
          have hmem := List.mem_of_getElem? hf
          rcases h with hstored | ⟨f', hf', hp⟩ | ⟨ps, hps, hp⟩
          · exact Or.inl (Or.inr (Or.inl ⟨f, hmem, hstored⟩))
          · exact Or.inl (Or.inr (Or.inl ⟨f', List.mem_of_mem_eraseIdx hf', hp⟩))
          · simp only [save] at hps
            split_ifs at hps
            · rcases List.mem_append.1 hps with hps | hps
              · exact Or.inl (Or.inr (Or.inr ⟨ps, hps, hp⟩))
              · rw [List.mem_singleton.1 hps] at hp
                exact Or.inl (Or.inr (Or.inl ⟨f, hmem, hp⟩))
            · exact Or.inl (Or.inr (Or.inr ⟨ps, hps, hp⟩))
  | showUpdated k =>
      simp only [step] at h
      cases hk : app.updated[k]? with
      | none =>
          rw [hk] at h
          exact Or.inl h
      | some profiles =>
          rw [hk] at h
          rcases h with hstored | hfetched | ⟨ps, hps, hp⟩
          · exact Or.inl (Or.inl hstored)
          · exact Or.inl (Or.inr (Or.inl hfetched))
          · exact Or.inl (Or.inr (Or.inr ⟨ps, List.mem_of_mem_eraseIdx hps, hp⟩))
  | selectServer id => exact Or.inl h
  | create =>
      rcases h with hstored | hfetched | ⟨ps, hps, -⟩
      · exact Or.inl (Or.inl hstored)
      · exact Or.inl (Or.inr (Or.inl hfetched))
      · cases hps
  | resume =>
      have hsame : (app.step dec answer .resume).Holds p ↔ app.Holds p := by
        show app.resume.Holds p ↔ _
        unfold resume
        split
        · split_ifs <;> exact Iff.rfl
        · exact Iff.rfl
      exact Or.inl (hsame.1 h)
  | changeKey =>
      rcases h with hstored | hfetched | ⟨ps, hps, -⟩
      · cases hstored
      · exact Or.inl (Or.inr (Or.inl hfetched))
      · cases hps

theorem mem_of_find?_or_head? {profiles : List ConnectionProfile} {q : ConnectionProfile → Bool}
    (h : (profiles.find? q <|> profiles.head?) = some p) : p ∈ profiles := by
  cases hfind : profiles.find? q with
  | some p' =>
      rw [hfind] at h
      cases h
      exact List.mem_of_find?_eq_some hfind
  | none =>
      rw [hfind] at h
      exact List.mem_of_head? h

/-- The key of the main screen stays, is forgotten, or is that of a profile. -/
theorem activeKey_step (dec : AppDecoders) (answer : Option (Except Nat Subscription)) (op : Op)
    (app : App) :
    (app.step dec answer op).activeKey = [] ∨ (app.step dec answer op).activeKey = app.activeKey ∨
      ∃ p, app.Holds p ∧ p.key = (app.step dec answer op).activeKey := by
  cases op with
  | activateKey key uuid =>
      refine Or.inr (Or.inl ?_)
      simp only [step]
      rcases activateKey_cases dec (fetchServers answer) key uuid app with
        heq | ⟨url, -, -, heq⟩ | ⟨-, heq⟩
      all_goals rw [heq]
      exact (storage_queue _ _ _).2
  | refresh uuid => exact Or.inr (Or.inl (storage_queue _ _ _).2)
  | save k onScreen =>
      refine Or.inr (Or.inl ?_)
      simp only [step]
      split <;> rfl
  | showUpdated k =>
      simp only [step]
      cases hk : app.updated[k]? with
      | none => exact Or.inr (Or.inl rfl)
      | some profiles =>
          simp only [showUpdated]
          cases hactive : (profiles.find? fun p => p.id = app.storage.activeProfileId) <|>
              profiles.head? with
          | none => exact Or.inr (Or.inl rfl)
          | some p =>
              exact Or.inr (Or.inr ⟨p, Or.inr (Or.inr ⟨profiles, List.mem_of_getElem? hk,
                mem_of_find?_or_head? hactive⟩), rfl⟩)
  | selectServer id => exact Or.inr (Or.inl rfl)
  | create =>
      simp only [step]
      cases hactive : app.storage.active with
      | none => exact Or.inl rfl
      | some p => exact Or.inr (Or.inr ⟨p, Or.inl (mem_of_find?_or_head? hactive), rfl⟩)
  | resume =>
      simp only [step, resume]
      cases hactive : app.storage.active with
      | none => exact Or.inr (Or.inl rfl)
      | some p =>
          simp only
          split_ifs
          · exact Or.inr (Or.inr ⟨p, Or.inl (mem_of_find?_or_head? hactive), rfl⟩)
          · exact Or.inr (Or.inl rfl)
  | changeKey => exact Or.inl rfl

/-- The stored address stays, is forgotten, or is that of a pasted link. -/
theorem subscriptionUrl_step (dec : AppDecoders) (answer : Option (Except Nat Subscription))
    (op : Op) (app : App) :
    (app.step dec answer op).storage.subscriptionUrl = [] ∨
      (app.step dec answer op).storage.subscriptionUrl = app.storage.subscriptionUrl ∨
      ∃ key uuid, op = .activateKey key uuid ∧
        pastedUrl dec key = some (app.step dec answer op).storage.subscriptionUrl := by
  cases op with
  | activateKey key uuid =>
      simp only [step]
      rcases activateKey_cases dec (fetchServers answer) key uuid app with
        heq | ⟨url, -, hurl, heq⟩ | ⟨-, heq⟩
      all_goals rw [heq]
      · exact Or.inr (Or.inl rfl)
      · refine Or.inr (Or.inr ⟨key, uuid, rfl, ?_⟩)
        unfold activateSubscription
        rw [(storage_queue _ _ _).1, hurl]
      · exact Or.inr (Or.inl rfl)
  | refresh uuid =>
      exact Or.inr (Or.inl (congrArg SecureStorage.subscriptionUrl (storage_queue _ _ _).1))
  | save k onScreen =>
      refine Or.inr (Or.inl ?_)
      simp only [step]
      split <;> rfl
  | showUpdated k =>
      refine Or.inr (Or.inl ?_)
      simp only [step]
      split <;> rfl
  | selectServer id => exact Or.inr (Or.inl rfl)
  | create => exact Or.inr (Or.inl rfl)
  | resume =>
      refine Or.inr (Or.inl ?_)
      simp only [step, resume]
      split
      · split_ifs <;> rfl
      · rfl
  | changeKey => exact Or.inl rfl

/-- What an operation fetches is the stored address, or that of the text it pastes. -/
theorem request_cases {op : Op} {url : Text} (h : app.request dec op = some url) :
    (url = app.storage.subscriptionUrl ∧ url ≠ []) ∨
      ∃ key uuid, op = .activateKey key uuid ∧ pastedUrl dec key = some url := by
  cases op with
  | activateKey key uuid =>
      simp only [request] at h
      split_ifs at h
      exact Or.inr ⟨key, uuid, rfl, h⟩
  | refresh uuid =>
      simp only [request] at h
      split_ifs at h with hempty
      cases h
      exact Or.inl ⟨rfl, hempty⟩
  | save k onScreen => cases h
  | showUpdated k => cases h
  | selectServer id => cases h
  | create => cases h
  | resume => cases h
  | changeKey => cases h

end

end App

/-! ## What the panel answers -/

section

variable {U : Setup} {resolve : Resolver} {pubKey : Key} {s : State} {now : Nat} {url : Text}

/-- A list of servers is one of an enabled client whose subscription has not ended. -/
theorem getSubscription_active {token : Text} {result : Subscription}
    (h : getSubscription U.py token now s = .ok result) (hactive : result.status = .active) :
    ∃ r, (s.table.rows.find? fun r => r.subToken = some token) = some r ∧
      (r.enabled && !r.subscriptionEnd.any (· < now)) = true ∧
      result.servers = serverList U.py r s := by
  unfold getSubscription at h
  cases hfind : s.table.rows.find? fun r => r.subToken = some token with
  | none =>
      rw [hfind] at h
      cases h
  | some r =>
      rw [hfind] at h
      simp only at h
      cases henabled : r.enabled with
      | false =>
          rw [henabled] at h
          cases h
          cases hactive
      | true =>
          cases hend : r.subscriptionEnd.any (· < now) with
          | true =>
              rw [henabled, hend] at h
              cases h
              cases hactive
          | false =>
              rw [henabled, hend] at h
              cases h
              exact ⟨r, rfl, by rw [henabled, hend]; rfl, rfl⟩

/-- A grant is for an enabled client of the file, and for the token of the address. -/
theorem grant_spec (h : Agrees U pubKey s) {g : Grant}
    (hgrant : World.grant U resolve now s url = some g) :
    resolve url = some g.token ∧ g.client.enabled = true := by
  unfold World.grant at hgrant
  cases htoken : resolve url with
  | none =>
      rw [htoken] at hgrant
      cases hgrant
  | some token =>
      cases hfind : s.table.rows.find? fun r => r.subToken = some token with
      | none =>
          simp only [htoken, hfind, Option.bind_eq_bind, Option.bind_some, Option.bind_none]
            at hgrant
          cases hgrant
      | some r =>
          obtain ⟨d, c, hload, hclient, hentry⟩ :=
            exists_client h (List.mem_of_find?_eq_some hfind)
          have henabled : c.enabled = r.enabled := congrArg Entry.enabled hentry
          simp only [htoken, hfind, hload, hclient, Option.bind_eq_bind, Option.bind_some,
            Except.toOption] at hgrant
          split_ifs at hgrant with hopen
          cases hgrant
          rw [Bool.and_eq_true] at hopen
          exact ⟨rfl, henabled.trans hopen.1⟩

/-- With a list of servers goes a grant, and the keys are those of its client. -/
theorem exists_grant (hserialize : WritesObjects U.serialize) (hpy : U.py.Sound)
    (h : Agrees U pubKey s) {servers : List ServerInfo}
    (hanswer : fetchServers (World.answer U resolve now s url) = some ⟨.active, servers⟩) :
    ∃ g, World.grant U resolve now s url = some g ∧
      ∀ info ∈ servers, IssuedKey pubKey g info.key := by
  unfold World.answer at hanswer
  cases htoken : resolve url with
  | none =>
      rw [htoken] at hanswer
      cases hanswer
  | some token =>
      rw [htoken, Option.map_some] at hanswer
      cases hresult : getSubscription U.py token now s with
      | error status =>
          rw [hresult] at hanswer
          cases hanswer
      | ok result =>
          rw [hresult] at hanswer
          unfold fetchServers at hanswer
          simp only at hanswer
          split_ifs at hanswer with hstatus
          · exact absurd (congrArg Subscription.status (Option.some.inj hanswer)) hstatus
          · obtain ⟨r, hfind, hopen, hservers⟩ :=
              getSubscription_active hresult (not_not.1 hstatus)
            obtain ⟨d, c, hload, hclient, hentry⟩ :=
              exists_client h (List.mem_of_find?_eq_some hfind)
            refine ⟨⟨token, c, World.addresses U s⟩, ?_, ?_⟩
            · unfold World.grant
              simp only [htoken, hfind, hopen, hload, hclient, Option.bind_eq_bind,
                Option.bind_some, if_true, Except.toOption]
            · intro info hinfo
              have hlist := congrArg Subscription.servers (Option.some.inj hanswer)
              simp only at hlist
              rw [← hlist, hservers] at hinfo
              obtain ⟨hmem, hne⟩ := List.mem_filter.1 hinfo
              exact issuedKey_of_mem hserialize hpy hentry token hmem (of_decide_eq_true hne)

end

/-! ## Every run -/

section

variable {U : Setup} {resolve : Resolver} {pubKey : Key} {dec : AppDecoders}

/-- The key was pasted and reads as one, or belongs to a grant. -/
def Legit (dec : AppDecoders) (pubKey : Key) (w : World) (key : Text) : Prop :=
  (key ∈ w.pasted ∧ (Android.shadeParseConnectionKey dec key).isSome = true) ∨
    ∃ g ∈ w.granted, IssuedKey pubKey g key

/-- The user has pasted a text with this address. -/
def PastedUrl (dec : AppDecoders) (w : World) (url : Text) : Prop :=
  ∃ text ∈ w.pasted, pastedUrl dec text = some url

/-- The user has pasted a link to the list of the token. -/
def PastedLink (resolve : Resolver) (dec : AppDecoders) (w : World) (token : Text) : Prop :=
  ∃ url, PastedUrl dec w url ∧ resolve url = some token

/-- What holds between the steps. -/
structure Inv (U : Setup) (resolve : Resolver) (dec : AppDecoders) (pubKey : Key) (w : World) :
    Prop where
  agrees : Agrees U pubKey w.panel
  profiles : ∀ p, w.app.Holds p → Legit dec pubKey w p.key
  activeKey : w.app.activeKey = [] ∨ Legit dec pubKey w w.app.activeKey
  url : w.app.storage.subscriptionUrl = [] ∨ PastedUrl dec w w.app.storage.subscriptionUrl
  grants : ∀ g ∈ w.granted, g.client.enabled = true ∧ PastedLink resolve dec w g.token

theorem inv_start {s : State} (h : Agrees U pubKey s) :
    Inv U resolve dec pubKey (World.start s) where
  agrees := h
  profiles := by
    rintro p (hp | ⟨f, hf, -⟩ | ⟨ps, hps, -⟩)
    · cases hp
    · cases hf
    · cases hps
  activeKey := Or.inl rfl
  url := Or.inl rfl
  grants := fun g hg => absurd hg List.not_mem_nil

/-- Histories only grow. -/
theorem Legit.mono {w w' : World} {key : Text} (h : Legit dec pubKey w key)
    (hpasted : w.pasted ⊆ w'.pasted) (hgranted : w.granted ⊆ w'.granted) :
    Legit dec pubKey w' key := by
  rcases h with ⟨hkey, hparse⟩ | ⟨g, hg, hissued⟩
  · exact Or.inl ⟨hpasted hkey, hparse⟩
  · exact Or.inr ⟨g, hgranted hg, hissued⟩

theorem PastedUrl.mono {w w' : World} {url : Text} (h : PastedUrl dec w url)
    (hpasted : w.pasted ⊆ w'.pasted) : PastedUrl dec w' url := by
  obtain ⟨text, htext, hurl⟩ := h
  exact ⟨text, hpasted htext, hurl⟩

theorem PastedLink.mono {w w' : World} {token : Text} (h : PastedLink resolve dec w token)
    (hpasted : w.pasted ⊆ w'.pasted) : PastedLink resolve dec w' token := by
  obtain ⟨url, hurl, htoken⟩ := h
  exact ⟨url, hurl.mono hpasted, htoken⟩

/-- An operation of the app. -/
theorem Inv.app (hserialize : WritesObjects U.serialize) (hpy : U.py.Sound) {w : World}
    (h : Inv U resolve dec pubKey w) (op : App.Op) (reached : Bool) (now : Nat) :
    Inv U resolve dec pubKey (w.step U resolve dec (.app op reached now)) := by
  generalize hurl : (if reached then w.app.request dec op else none) = url
  generalize hw' : w.step U resolve dec (.app op reached now) = w'
  have happ : w'.app = w.app.step dec (url.bind (World.answer U resolve now w.panel)) op := by
    rw [← hw', ← hurl]
    rfl
  have hpastedEq : w'.pasted = World.pastes op ++ w.pasted := by
    rw [← hw']
    rfl
  have hgrantedEq : w'.granted =
      (url.bind (World.grant U resolve now w.panel)).toList ++ w.granted := by
    rw [← hw', ← hurl]
    rfl
  have hpanel : w'.panel = w.panel := by
    rw [← hw']
    rfl
  have hpasted : w.pasted ⊆ w'.pasted := hpastedEq ▸ List.subset_append_right _ _
  have hgranted : w.granted ⊆ w'.granted := hgrantedEq ▸ List.subset_append_right _ _
  have hpastes {key : Text} {uuid : Nat → Text} (hop : op = .activateKey key uuid) :
      key ∈ w'.pasted := by
    rw [hpastedEq, hop]
    exact List.mem_append_left _ List.mem_cons_self
  have hrequest {u : Text} (hu : url = some u) : PastedUrl dec w' u := by
    rw [hu] at hurl
    split_ifs at hurl
    rcases App.request_cases hurl with ⟨rfl, hne⟩ | ⟨key, uuid, hop, hkey⟩
    · exact (h.url.resolve_left hne).mono hpasted
    · exact ⟨key, hpastes hop, hkey⟩
  constructor
  case agrees =>
    rw [hpanel]
    exact h.agrees
  case profiles =>
    intro p hp
    rw [happ] at hp
    rcases App.gains_of_holds_step hp with hbefore | ⟨servers, hanswer, info, hinfo, hkey⟩ |
      ⟨uuid, hop, hparse⟩
    · exact (h.profiles p hbefore).mono hpasted hgranted
    · cases hu : url with
      | none =>
          rw [hu] at hanswer
          cases hanswer
      | some u =>
          rw [hu, Option.bind_some] at hanswer
          obtain ⟨g, hgrant, hissued⟩ := exists_grant hserialize hpy h.agrees hanswer
          refine Or.inr ⟨g, ?_, hkey ▸ hissued info hinfo⟩
          rw [hgrantedEq, hu, Option.bind_some, hgrant]
          exact List.mem_append_left _ List.mem_cons_self
    · exact Or.inl ⟨hpastes hop, hparse⟩
  case activeKey =>
    rw [happ]
    rcases App.activeKey_step dec (url.bind (World.answer U resolve now w.panel)) op w.app with
      hnone | hsame | ⟨p, hp, hkey⟩
    · exact Or.inl hnone
    · rw [hsame]
      exact h.activeKey.imp id fun hlegit => hlegit.mono hpasted hgranted
    · rw [← hkey]
      exact Or.inr ((h.profiles p hp).mono hpasted hgranted)
  case url =>
    rw [happ]
    rcases App.subscriptionUrl_step dec (url.bind (World.answer U resolve now w.panel)) op
      w.app with
      hnone | hsame | ⟨key, uuid, hop, hkey⟩
    · exact Or.inl hnone
    · rw [hsame]
      exact h.url.imp id fun hurl => hurl.mono hpasted
    · exact Or.inr ⟨key, hpastes hop, hkey⟩
  case grants =>
    intro g hg
    rw [hgrantedEq] at hg
    rcases List.mem_append.1 hg with hnew | hbefore
    · cases hu : url with
      | none =>
          rw [hu] at hnew
          cases hnew
      | some u =>
          rw [hu, Option.bind_some, Option.mem_toList] at hnew
          obtain ⟨htoken, henabled⟩ := grant_spec h.agrees hnew
          exact ⟨henabled, u, hrequest hu, htoken⟩
    · exact ⟨(h.grants g hbefore).1, (h.grants g hbefore).2.mono hpasted⟩

/-- A step of either. -/
theorem Inv.step (hkey : loadServerPublicKey U.prim U.args = some pubKey)
    (hserialize : WritesObjects U.serialize) (hpy : U.py.Sound) {w : World}
    (h : Inv U resolve dec pubKey w) (op : World.Op) (hkeeps : World.Keeps U w op) :
    Inv U resolve dec pubKey (w.step U resolve dec op) := by
  cases op with
  | panel op => exact { h with agrees := (agrees_step_iff hkey h.agrees op).2 hkeeps }
  | app op reached now => exact h.app hserialize hpy op reached now

/-- What the app starts its service with comes from a text that the user has pasted. It is in that
text, or it is what a client of the server's file connects with: an enabled one, to whose list the
text led when the list was fetched, wherever addresses lead. -/
theorem connects_as_client (hkey : loadServerPublicKey U.prim U.args = some pubKey)
    (hserialize : WritesObjects U.serialize) (hpy : U.py.Sound)
    (hdec : dec.Sound base64url.unpadded) {s : State} (hs : Agrees U pubKey s)
    (ops : List World.Op)
    (hkeeps : Along (World.step U resolve dec) (World.Keeps U) (World.start s) ops) :
    let w := runFrom (World.step U resolve dec) (World.start s) ops
    (w.app.activeKey ≠ [] → w.app.connect dec ≠ none) ∧
    ∀ fields, w.app.connect dec = some fields ∨ w.app.reconnect dec = some fields →
      (∃ text ∈ w.pasted, Android.shadeParseConnectionKey dec text = some fields) ∨
      ∃ g ∈ w.granted, g.client.enabled = true ∧ PastedLink resolve dec w g.token ∧
        ∃ addr ∈ g.addresses, fields = (addr, base64.encode pubKey.toList,
          base64.encode g.client.psk.toList, ipText g.client.vpnIp) := by
  intro w
  have hinv : Inv U resolve dec pubKey w :=
    runFrom_invariant_of_along (fun w op h hop => h.step hkey hserialize hpy op hop)
      (inv_start hs) hkeeps
  have hreads {key : Text} (h : Legit dec pubKey w key) :
      (Android.shadeParseConnectionKey dec key).isSome = true := by
    rcases h with ⟨-, hparse⟩ | ⟨g, -, hissued⟩
    · exact hparse
    · obtain ⟨addr, -, hparse⟩ := parse_issuedKey hdec hissued
      rw [hparse]
      rfl
  have hfields {key : Text} {fields : Fields} (h : Legit dec pubKey w key)
      (hparse : Android.shadeParseConnectionKey dec key = some fields) :
      (∃ text ∈ w.pasted, Android.shadeParseConnectionKey dec text = some fields) ∨
      ∃ g ∈ w.granted, g.client.enabled = true ∧ PastedLink resolve dec w g.token ∧
        ∃ addr ∈ g.addresses, fields = (addr, base64.encode pubKey.toList,
          base64.encode g.client.psk.toList, ipText g.client.vpnIp) := by
    rcases h with ⟨hpasted, -⟩ | ⟨g, hg, hissued⟩
    · exact Or.inl ⟨key, hpasted, hparse⟩
    · obtain ⟨addr, haddr, hparse'⟩ := parse_issuedKey hdec hissued
      obtain ⟨henabled, hurl⟩ := hinv.grants g hg
      exact Or.inr ⟨g, hg, henabled, hurl, addr, haddr,
        Option.some.inj (hparse.symm.trans hparse')⟩
  constructor
  · intro hne
    have hlegit := hinv.activeKey.resolve_left hne
    unfold App.connect
    rw [if_neg hne]
    exact Option.isSome_iff_ne_none.1 (hreads hlegit)
  · rintro fields (hconnect | hreconnect)
    · unfold App.connect at hconnect
      split_ifs at hconnect with hne
      exact hfields (hinv.activeKey.resolve_left hne) hconnect
    · obtain ⟨p, hp, hparse⟩ := Option.bind_eq_some_iff.1 hreconnect
      exact hfields (hinv.profiles p (Or.inl (App.mem_of_find?_or_head? hp))) hparse

end

/-! ## From a link to a connection -/

section

variable {U : Setup} {resolve : Resolver} {pubKey : Key} {dec : AppDecoders} {s : State}

/-- A row is found by its token. -/
theorem find?_token {t : Table} {r : PanelRow} (hr : r ∈ t.rows) {token : Text}
    (htoken : r.subToken = some token) :
    (t.rows.find? fun r => r.subToken = some token) = some r := by
  cases hfind : t.rows.find? fun r => r.subToken = some token with
  | none => exact absurd (decide_eq_true htoken) (List.find?_eq_none.1 hfind r hr)
  | some r' =>
      have htoken' := List.find?_some hfind
      have hdistinct := List.pairwise_filterMap.1 t.tokens_nodup
      have hsymm : Std.Symm fun r r' : PanelRow =>
          ∀ b, r.subToken = some b → ∀ b', r'.subToken = some b' → b ≠ b' :=
        ⟨fun r r' h b hb b' hb' heq => h b' hb' b hb heq.symm⟩
      by_contra hne
      have hother : r' ≠ r := fun heq => hne (congrArg some heq)
      exact hdistinct.forall (List.mem_of_find?_eq_some hfind) hr hother token
        (of_decide_eq_true htoken') token htoken rfl

/-- The panel answers with the primary server first. -/
theorem fetchServers_link {r : PanelRow} (hr : r ∈ s.table.rows) {token : Text}
    (htoken : r.subToken = some token) (hreaches : resolve.Reaches token) (henabled : r.enabled = true) {now : Nat}
    (hend : r.subscriptionEnd.any (· < now) = false) {payload : Text}
    (hpsk : r.psk = scheme ++ payload) :
    ∃ rest, fetchServers (World.answer U resolve now s (subUrl token)) =
      some ⟨.active, ⟨"primary".toList, r.psk⟩ :: rest⟩ := by
  have hscheme : scheme.isPrefixOf r.psk = true := by
    rw [hpsk]
    exact List.isPrefixOf_iff_prefix.2 (List.prefix_append _ _)
  have hne : r.psk ≠ [] := by
    rw [hpsk]
    exact scheme_append_ne_nil _
  have hresult : getSubscription U.py token now s = .ok ⟨.active, serverList U.py r s⟩ := by
    unfold getSubscription
    simp only [find?_token hr htoken, henabled, hend, Bool.not_true, Bool.false_eq_true, if_false]
  unfold World.answer
  rw [hreaches, Option.map_some, hresult]
  unfold fetchServers serverList
  simp only [hscheme, if_true, ne_eq, not_true_eq_false, if_false, List.singleton_append]
  refine ⟨_, congrArg (fun l => some (Subscription.mk .active l)) (List.filter_cons_of_pos ?_)⟩
  exact decide_eq_true hne

/-- Behind the onboarding the main screen takes the first key of the list. -/
theorem activeKey_saved (p : ConnectionProfile) (rest : List ConnectionProfile) (onScreen : Bool)
    (answer : Option (Except Nat Subscription)) (app : App) :
    ((App.save ⟨true, p :: rest⟩ onScreen app).step dec answer .create).activeKey = p.key := by
  have hfind : ((p :: rest).find? fun q => q.id = p.id) = some p :=
    List.find?_cons_of_pos (decide_eq_true rfl)
  have hactive : (App.save ⟨true, p :: rest⟩ onScreen app).storage.active = some p := by
    show (((p :: rest).find? fun q => q.id = p.id) <|> _) = some p
    rw [hfind]
    rfl
  show ((App.save _ onScreen app).storage.active.map ConnectionProfile.key).getD [] = p.key
  rw [hactive]
  rfl

/-- The onboarding saves the list that it has fetched. -/
theorem activeKey_onboarding (app : App) {text url key : Text} {uuid : Nat → Text}
    {rest : List ServerInfo} {answer : Option (Except Nat Subscription)} (htext : text ≠ [])
    (hurl : pastedUrl dec text = some url)
    (hanswer : fetchServers answer = some ⟨.active, ⟨"primary".toList, key⟩ :: rest⟩)
    (later later' : Option (Except Nat Subscription)) (onScreen : Bool) :
    (((app.step dec answer (.activateKey text uuid)).step dec later
      (.save app.fetched.length onScreen)).step dec later' .create).activeKey = key := by
  have hid : ¬ "primary".toList = [] := by decide
  have hprofiles : App.savable uuid (fetchServers answer) = ⟨"primary".toList, key⟩ ::
      toProfiles (fun i => uuid (i + 1)) rest := by
    rw [hanswer]
    show toProfiles uuid _ = _
    unfold toProfiles
    rw [List.mapIdx_cons]
    exact congrArg (fun id => ConnectionProfile.mk id key :: _) (if_neg hid)
  have hactivate : app.step dec answer (.activateKey text uuid) =
      App.queue { app with storage := { app.storage with subscriptionUrl := url } } true
        (App.savable uuid (fetchServers answer)) := by
    obtain ⟨jsonString, hdecode, hsub⟩ := Option.bind_eq_some_iff.1 hurl
    show app.activateKey dec _ text uuid = _
    unfold App.activateKey
    simp only [if_neg htext, hdecode, hsub]
    rfl
  have hqueued (q : App) (p : ConnectionProfile) (ps : List ConnectionProfile) :
      ((q.queue true (p :: ps)).step dec later (.save q.fetched.length onScreen)) =
        App.save ⟨true, p :: ps⟩ onScreen
          { q with fetched :=
              (q.fetched ++ [(⟨true, p :: ps⟩ : Fetched)]).eraseIdx q.fetched.length } := by
    have hget : (q.fetched ++ [(⟨true, p :: ps⟩ : Fetched)])[q.fetched.length]? =
        some ⟨true, p :: ps⟩ := List.getElem?_concat_length
    unfold App.queue
    rw [if_neg (List.cons_ne_nil _ _)]
    simp only [App.step, hget]
  rw [hactivate, hprofiles]
  have hlength : app.fetched.length =
      ({ app with storage := { app.storage with subscriptionUrl := url } } : App).fetched.length :=
    rfl
  rw [hlength, hqueued, activeKey_saved]

/-- With the link of an enabled row pasted and the panel reached, the app connects as the key of the
row says. -/
theorem connect_of_link (hserialize : WritesObjects U.serialize) (hpy : U.py.Sound)
    (hdec : dec.Sound base64url.unpadded) {w : World} {r : PanelRow}
    (hr : r ∈ w.panel.table.rows) {token : Text} (htoken : r.subToken = some token)
    (hreaches : resolve.Reaches token) (henabled : r.enabled = true) {now : Nat}
    (hend : r.subscriptionEnd.any (· < now) = false) {psk : Key} {vpnIp : Text}
    (hpsk : r.psk = connKey U.serialize U.args.listen serverIp pubKey psk vpnIp)
    {text : Text} (hpasted : Pasted text (subShadeLink U.py token)) (uuid : Nat → Text)
    (onScreen : Bool) (now' now'' : Nat) :
    (runFrom (World.step U resolve dec) w [.app (.activateKey text uuid) true now,
      .app (.save w.app.fetched.length onScreen) true now',
      .app .create true now'']).app.connect dec =
        some (buildConnectionServerAddr U.args.listen serverIp, base64.encode pubKey.toList,
          base64.encode psk.toList, vpnIp) := by
  have hurl := pastedUrl_link hpy hdec hpasted
  have hne : r.psk ≠ [] := by
    rw [hpsk]
    exact scheme_append_ne_nil _
  have htext : text ≠ [] := hpasted.ne_nil (scheme_append_ne_nil _)
  obtain ⟨rest, hanswer⟩ := fetchServers_link (U := U) hr htoken hreaches henabled hend hpsk
  have hrequest : w.app.request dec (.activateKey text uuid) = some (subUrl token) := by
    simp only [App.request, if_neg htext, hurl]
  simp only [runFrom, World.step, if_true, hrequest, Option.bind_some]
  unfold App.connect
  rw [activeKey_onboarding w.app htext hurl hanswer, if_neg hne, hpsk]
  obtain ⟨strings, ⟨json, hjson, hkey⟩, hs, hk, hp, hi⟩ := isKeyOf_buildConnectionKey hserialize
    U.args.listen serverIp (base64.encode pubKey.toList) (base64.encode psk.toList) vpnIp
  have hkey' : connKey U.serialize U.args.listen serverIp pubKey psk vpnIp =
      scheme ++ base64url.unpadded (utf8 json) := hkey
  rw [hkey']
  exact Android.parseWith_of_pasted hdec hjson hs hk hp hi (pasted_self _) _

/-- Whoever pastes the link of a row and reaches the panel gets connected to the primary server as
the client that the row stands for, if the address in the link leads to the row's list, the row is
enabled and its subscription has not ended. -/
theorem link_connects (hserialize : WritesObjects U.serialize) (hpy : U.py.Sound)
    (hdec : dec.Sound base64url.unpadded) {w : World} (hagrees : Agrees U pubKey w.panel)
    {r : PanelRow} (hr : r ∈ w.panel.table.rows) {token : Text} (htoken : r.subToken = some token)
    (hreaches : resolve.Reaches token) (henabled : r.enabled = true) {now : Nat}
    (hend : r.subscriptionEnd.any (· < now) = false) {text : Text} (hpasted : Pasted text (subShadeLink U.py token)) (uuid : Nat → Text)
    (onScreen : Bool) (now' now'' : Nat) :
    ∃ d c, ClientDbFile.load w.panel.disk = .ok d ∧ c ∈ d.clients ∧ c.id.toList = r.id ∧
      (runFrom (World.step U resolve dec) w [.app (.activateKey text uuid) true now,
        .app (.save w.app.fetched.length onScreen) true now',
        .app .create true now'']).app.connect dec =
          some (buildConnectionServerAddr U.args.listen serverIp, base64.encode pubKey.toList,
            base64.encode c.psk.toList, ipText c.vpnIp) := by
  obtain ⟨d, c, hload, hfind, hentry⟩ := exists_client hagrees hr
  have hid := List.find?_some hfind
  have hpsk : r.psk = connKey U.serialize U.args.listen serverIp pubKey c.psk (ipText c.vpnIp) :=
    (congrArg Entry.key hentry).symm
  exact ⟨d, c, hload, List.mem_of_find?_eq_some hfind, of_decide_eq_true hid,
    connect_of_link hserialize hpy hdec hr htoken hreaches henabled hend hpsk hpasted uuid onScreen
      now' now''⟩

end

/-! ## A subscriber -/

/-- The server's key of the sample panel. -/
def samplePublicKey : Key :=
  (samplePrimitives.fromPrivateKey (ByteArr.replicate 32 7)).publicKeyBytes

/-- The row of the client `alice`. -/
def sampleRow : PanelRow where
  id := "0000000000000001".toList
  name := "alice"
  psk := connKey sampleSerialize sampleSetup.args.listen serverIp samplePublicKey
    (ByteArr.replicate 32 9) "10.0.0.2".toList
  vpnIp := "10.0.0.2".toList
  enabled := true
  telegramId := none
  dataLimit := 100
  groupId := none
  subscriptionEnd := none
  subToken := some "token".toList

/-- A network in which exactly the addresses of the panel's lists lead to them. -/
def sampleResolver : Resolver := stripPrefix subRoot

theorem sampleResolver_reaches (token : Text) : sampleResolver.Reaches token :=
  stripPrefix_append _ _

/-- A panel with this client and a second node. -/
def samplePanel : State where
  table := ⟨[sampleRow], List.nodup_singleton _, List.nodup_singleton _, List.nodup_singleton _⟩
  nodes := [⟨"node".toList, "Estonia 1G", "Estonia", "150.241.101.56".toList, 443, true⟩]
  disk := .content ⟨[ClientDbFile.sampleRecord], 3⟩
  server := ⟨[ClientDbFile.sampleRecord], 3⟩

theorem sampleSetup_addr : buildConnectionServerAddr sampleSetup.args.listen serverIp =
    "185.204.52.135:443".toList := by decide

theorem sampleRecord_vpnIp : ipText ClientDbFile.sampleRecord.vpnIp = "10.0.0.2".toList := by decide

theorem agrees_samplePanel : Agrees sampleSetup samplePublicKey samplePanel := by
  refine ⟨_, rfl, ?_, rfl⟩
  show [sampleRow.entry] = [sampleSetup.entry samplePublicKey (ClientDbFile.core _)]
  unfold Setup.entry ClientDbFile.core
  rw [sampleRecord_vpnIp]
  rfl

/-- Alice pastes her link, and the main screen opens. -/
def sampleOps : List World.Op :=
  [.app (.activateKey (' ' :: subShadeLink samplePython "token".toList ++ ['\n'])
      fun _ => "uuid".toList) true 0,
    .app (.save 0 true) true 0, .app .create true 0]

theorem pasted_sampleLink : Pasted (' ' :: subShadeLink samplePython "token".toList ++ ['\n'])
    (subShadeLink samplePython "token".toList) := by
  refine ⟨[' '], ['\n'], rfl, ?_, ?_⟩ <;>
    exact List.forall_mem_singleton.2 ⟨by decide, by decide⟩

theorem connects_sample :
    let w := runFrom (World.step sampleSetup sampleResolver sampleClients.android) (World.start samplePanel)
      sampleOps
    let fields : Fields := ("185.204.52.135:443".toList, base64.encode samplePublicKey.toList,
      base64.encode (ByteArr.replicate 32 9 : Key).toList, "10.0.0.2".toList)
    w.app.connect sampleClients.android = some fields ∧
      ((∃ text ∈ w.pasted,
        Android.shadeParseConnectionKey sampleClients.android text = some fields) ∨
      ∃ g ∈ w.granted, g.client.enabled = true ∧
        PastedLink sampleResolver sampleClients.android w g.token ∧
        ∃ addr ∈ g.addresses, fields = (addr, base64.encode samplePublicKey.toList,
          base64.encode g.client.psk.toList, ipText g.client.vpnIp)) := by
  intro w fields
  have hpsk : sampleRow.psk = connKey sampleSetup.serialize sampleSetup.args.listen serverIp
      samplePublicKey (ByteArr.replicate 32 9) "10.0.0.2".toList := rfl
  have hend : sampleRow.subscriptionEnd.any (· < 0) = false := rfl
  have hconnect := connect_of_link (w := World.start samplePanel) sampleSerialize_writes
    samplePython_sound sampleClients_sound.android List.mem_cons_self rfl
    (sampleResolver_reaches _) rfl hend hpsk
    pasted_sampleLink (fun _ => "uuid".toList) true 0 0
  rw [sampleSetup_addr] at hconnect
  exact ⟨hconnect, (connects_as_client sampleSetup_key sampleSerialize_writes samplePython_sound
    sampleClients_sound.android agrees_samplePanel sampleOps
    ⟨trivial, trivial, trivial, trivial⟩).2 fields (Or.inl hconnect)⟩

theorem link_connects_sample :
    (runFrom (World.step sampleSetup sampleResolver sampleClients.android) (World.start samplePanel)
      sampleOps).app.connect sampleClients.android =
        some ("185.204.52.135:443".toList, base64.encode samplePublicKey.toList,
          base64.encode (ByteArr.replicate 32 9 : Key).toList, "10.0.0.2".toList) := by
  obtain ⟨d, c, hload, hc, -, hconnect⟩ := link_connects (w := World.start samplePanel)
    (r := sampleRow) sampleSerialize_writes samplePython_sound sampleClients_sound.android
    agrees_samplePanel List.mem_cons_self rfl (sampleResolver_reaches _) rfl rfl pasted_sampleLink (fun _ => "uuid".toList)
    true 0 0
  cases hload
  obtain rfl := List.mem_singleton.1 hc
  rw [sampleSetup_addr, sampleRecord_vpnIp] at hconnect
  exact hconnect

end Shade

end Aivpn
