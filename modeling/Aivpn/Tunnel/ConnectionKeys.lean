import Aivpn.Client.KeychainStorage
import Aivpn.Client.KeyStorage
import Aivpn.Common.Crypto
import Aivpn.Lib.Fields
import Aivpn.Lib.JsonText
import Aivpn.Lib.UnpaddedText
import Aivpn.Server.ConnectionAddr

/-!
# Connection keys from the server to its clients

The server writes a connection key with `serde_json`. The panel keeps it, and for each of its other
nodes it decodes the key, replaces the address and encodes it anew with the JSON writer of Python,
which pads base64 and escapes everything outside of ASCII. Five programs take the key apart, each in
its own way: the command-line client, the windows of the desktop clients, which show the address and
start the command-line client with the text they have stored, and the two Android apps.

All of them read what the server has put into the key, with the address of the last rewriting
(`connection_key_read`). `IsKeyOf` is what a rewriting keeps and what every reader relies on.

The libraries that write JSON, read JSON and decode base64 are parameters, held to what they read and
write. What encodes base64 is not: both encoders write the text that the standard prescribes, which
is a definition here.
-/

set_option autoImplicit false

namespace Aivpn

open Aivpn.Lib Alphabet JsonText

/-! ## JSON and base64 as the programs use them -/

/-- The text is a JSON object of strings, with these strings under its names. -/
def TextOf (text : Text) (strings : Text → Option Text) : Prop :=
  ∃ members, readObject text = some members ∧ (members.map Prod.fst).Nodup ∧
    strings = fun name => members.lookup name

/-- A parser that finds the strings of an object. -/
def FindsStrings (parse : Bytes → Option (Text → Option Text)) : Prop :=
  ∀ text strings, TextOf text strings → parse (utf8 text) = some strings

/-- A writer of objects of strings, in whatever order and with whatever escapes. -/
def WritesObjects (serialize : List (Text × Text) → Text) : Prop :=
  ∀ members, (members.map Prod.fst).Nodup →
    TextOf (serialize members) fun name => members.lookup name

/-- The object with these strings. -/
def Json.ofStrings (members : List (Text × Text)) : Json :=
  .object (members.map fun m => (m.1, .string m.2))

/-- What the command-line client decodes with: a connection key's two decoders, and base64 with the
standard alphabet and padding. -/
structure ClientDecoders extends KeyDecoders where
  decodeStandard : Text → Option Bytes

/-- `json[name].as_str()` of what is parsed. -/
def KeyDecoders.strings (dec : KeyDecoders) (bytes : Bytes) : Option (Text → Option Text) :=
  (dec.fromSlice bytes).map fun json name => (json.index name).asStr

structure KeyDecoders.Sound (dec : KeyDecoders) : Prop where
  decode : ∀ data, dec.decode (base64url.unpadded data) = some data
  strings : FindsStrings dec.strings

structure ClientDecoders.Sound (dec : ClientDecoders) : Prop extends dec.toKeyDecoders.Sound where
  decodeStandard : ∀ data, dec.decodeStandard (base64.encode data) = some data

/-- The alphabet is that of the app, and the text is padded or not. -/
structure AppDecoders.Sound (dec : AppDecoders) (text : Bytes → Text) : Prop where
  decode : ∀ data, dec.decode (text data) = some data
  jsonObject : FindsStrings dec.jsonObject

/-- `base64.urlsafe_b64decode`, `json.loads` of bytes in UTF-8, and `json.dumps` without blanks. -/
structure PythonDecoders where
  urlsafeB64decode : Text → Option Bytes
  loads : Bytes → Option Json
  dumps : Json → Text

structure PythonDecoders.Sound (py : PythonDecoders) : Prop where
  urlsafeB64decode : ∀ data, py.urlsafeB64decode (base64url.encode data) = some data
  loads : ∀ text members, readObject text = some members → (members.map Prod.fst).Nodup →
    py.loads (utf8 text) = some (Json.ofStrings members)
  dumps : ∀ members, (members.map Prod.fst).Nodup →
    py.dumps (Json.ofStrings members) = writeObject asciiEscape members

/-! ## The server -/

/-- `build_connection_key`, with the base64 text of the standard and the JSON writer as a
parameter. -/
def buildConnectionKey (serialize : List (Text × Text) → Text)
    (listen serverIp serverPubB64 pskB64 vpnIp : Text) : Text :=
  let serverAddr := buildConnectionServerAddr listen serverIp
  let json := serialize
    [(['s'], serverAddr), (['k'], serverPubB64), (['p'], pskB64), (['i'], vpnIp)]
  scheme ++ base64url.unpadded (utf8 json)

/-- The key that `handle_add_client` and `handle_show_client` print. -/
def connKey (serialize : List (Text × Text) → Text) (listen serverIp : Text) (pubKey psk : Key)
    (vpnIp : Text) : Text :=
  let pskB64 := base64.encode psk.toList
  let pubB64 := base64.encode pubKey.toList
  buildConnectionKey serialize listen serverIp pubB64 pskB64 vpnIp

/-! ## The panel -/

/-- An `int` as an f-string writes it. -/
def intText : Int → Text
  | .ofNat n => decimal n
  | .negSucc n => '-' :: decimal (n + 1)

/-- `f"{ip}:{port}"`. -/
def nodeAddr (ip : Text) (port : Int) : Text := ip ++ ':' :: intText port

/-- `payload[name] = value` of a dictionary: in the place of the entry, or behind all others. -/
def setItem {β : Type} : List (Text × β) → Text → β → List (Text × β)
  | [], name, value => [(name, value)]
  | m :: fields, name, value =>
      if m.1 = name then (name, value) :: fields else m :: setItem fields name value

/-- `rewrite_key_for_node`. Whatever goes wrong, the key is returned as it was. -/
def rewriteKeyForNode (py : PythonDecoders) (shadeKey newIp : Text) (newPort : Int) : Text :=
  let b64 := (stripPrefix scheme shadeKey).getD shadeKey
  let padded := b64 ++ List.replicate ((-(b64.length : Int)) % 4).toNat '='
  match (py.urlsafeB64decode padded).bind py.loads with
  | some (.object payload) =>
      let payload := setItem payload ['s'] (.string (nodeAddr newIp newPort))
      let newB64 := (base64url.encode (utf8 (py.dumps (.object payload)))).rdropWhile (· = '=')
      scheme ++ newB64
  | _ => shadeKey

/-! ## The command-line client -/

/-- The arguments that say which server to connect to. -/
structure ClientArgs where
  server : Option Text
  serverKey : Option Text
  connectionKey : Option Text
  tunAddr : Text

/-- The part of the `ClientConfig` that comes from them. -/
structure ServerConfig where
  serverAddr : Text
  serverPublicKey : Key
  presharedKey : Option Key
  tunAddr : Text
deriving DecidableEq, Repr

/-- `unwrap_or_else` with an exit. -/
def orExit {α : Type} (message : String) : Option α → Except String α
  | some a => .ok a
  | none => .error message

@[simp] theorem orExit_some_bind {α β : Type} (message : String) (a : α) (f : α → Except String β) :
    (orExit message (some a) >>= f) = f a := rfl

/-- 32 bytes as a key. -/
def keyOf (bytes : Bytes) : Option Key := if h : bytes.length = 32 then some ⟨bytes, h⟩ else none

namespace ClientArgs

/-- The first half of `main`: the server's address and its key, the PSK and the VPN address. The
decoders' own messages are left out of the texts. -/
def connectionParams (dec : ClientDecoders) (args : ClientArgs) :
    Except String (Text × Text × Option Bytes × Text) :=
  match args.connectionKey with
  | some connKey => do
      let payload :=
        (stripPrefix scheme (ConnectionKey.trim connKey)).getD (ConnectionKey.trim connKey)
      let jsonBytes ← orExit "Invalid connection key" (dec.decode payload)
      let json ← orExit "Malformed connection key JSON" (dec.fromSlice jsonBytes)
      let s ← orExit "Connection key missing server address (\"s\")" (json.index ['s']).asStr
      let k ← orExit "Connection key missing server key (\"k\")" (json.index ['k']).asStr
      let psk := (json.index ['p']).asStr.bind dec.decodeStandard
      let ip := (json.index ['i']).asStr
      .ok (s, k, psk, ip.getD args.tunAddr)
  | none => do
      let server ← orExit "Either --connection-key or --server + --server-key required" args.server
      let key ← orExit "Either --connection-key or --server + --server-key required" args.serverKey
      .ok (server, key, none, args.tunAddr)

/-- The second half: the keys as bytes. A PSK of another length is dropped. -/
def serverConfig (dec : ClientDecoders) (args : ClientArgs) : Except String ServerConfig := do
  let (serverAddr, serverKeyB64, pskBytes, tunAddr) ← connectionParams dec args
  let serverKeyDecoded ← orExit "Invalid server key" (dec.decodeStandard serverKeyB64)
  let serverPublicKey ←
    orExit ("Server key must be 32 bytes, got " ++ toString serverKeyDecoded.length)
      (keyOf serverKeyDecoded)
  .ok ⟨serverAddr, serverPublicKey, pskBytes.bind keyOf, tunAddr⟩

end ClientArgs

/-! ## The Android apps -/

namespace Android

/-- `Char.isWhitespace` on the JVM: white space and space characters, among them the separators of
files, groups, records and units. -/
def isWhitespace (c : Char) : Bool :=
  let n := c.toNat
  9 ≤ n && n ≤ 13 || 0x1c ≤ n && n ≤ 0x20 || n == 0xa0 || n == 0x1680 ||
    0x2000 ≤ n && n ≤ 0x200a || n == 0x2028 || n == 0x2029 || n == 0x202f || n == 0x205f ||
    n == 0x3000

/-- `parseConnectionKey` with the schemes that an app knows. The result is the server, its key, the
PSK and the VPN address. -/
def parseWith (schemes : List Text) (dec : AppDecoders) (key : Text) :
    Option (Text × Text × Text × Text) := do
  let raw := trimBy isWhitespace key
  let payload := (schemes.findSome? (stripPrefix · raw)).getD raw
  let jsonBytes ← dec.decode payload
  let json ← dec.jsonObject jsonBytes
  let server ← json ['s']
  let serverKey ← json ['k']
  let psk ← json ['p']
  let vpnIp ← json ['i']
  some (server, serverKey, psk, vpnIp)

/-- `parseConnectionKey` of `com.aivpn.client`. -/
def parseConnectionKey (dec : AppDecoders) (key : Text) : Option (Text × Text × Text × Text) :=
  parseWith [scheme] dec key

/-- `parseConnectionKey` of `com.shadevpn.client`. -/
def shadeParseConnectionKey (dec : AppDecoders) (key : Text) :
    Option (Text × Text × Text × Text) :=
  parseWith [scheme, "aivpn://".toList] dec key

end Android

/-! ## What is in a key -/

/-- The text behind the scheme is the encoded JSON of these strings. -/
def IsKeyOf (key : Text) (strings : Text → Option Text) : Prop :=
  ∃ json, TextOf json strings ∧ key = scheme ++ base64url.unpadded (utf8 json)

theorem textOf_writeObject {escape : Char → Text} (h : Escapes escape)
    {members : List (Text × Text)} (hnodup : (members.map Prod.fst).Nodup) :
    TextOf (writeObject escape members) fun name => members.lookup name :=
  ⟨members, readObject_writeObject h members, hnodup, rfl⟩

/-- The server's key holds the four strings. -/
theorem isKeyOf_buildConnectionKey {serialize : List (Text × Text) → Text}
    (h : WritesObjects serialize) (listen serverIp serverPubB64 pskB64 vpnIp : Text) :
    ∃ strings, IsKeyOf (buildConnectionKey serialize listen serverIp serverPubB64 pskB64 vpnIp)
        strings ∧
      strings ['s'] = some (buildConnectionServerAddr listen serverIp) ∧
      strings ['k'] = some serverPubB64 ∧ strings ['p'] = some pskB64 ∧
      strings ['i'] = some vpnIp := by
  have hnames : ([['s'], ['k'], ['p'], ['i']] : List Text).Nodup := by decide
  have hjson := h [(['s'], buildConnectionServerAddr listen serverIp), (['k'], serverPubB64),
    (['p'], pskB64), (['i'], vpnIp)] hnames
  exact ⟨_, ⟨_, hjson, rfl⟩, rfl, rfl, rfl, rfl⟩

/-! ## Rewriting a key -/

section

variable {β γ : Type} {fields : List (Text × β)} {name : Text} {value : β}

theorem lookup_setItem (fields : List (Text × β)) (name : Text) (value : β) (n : Text) :
    (setItem fields name value).lookup n =
      if n = name then some value else fields.lookup n := by
  induction fields with
  | nil =>
      rw [setItem, List.lookup_cons, List.lookup_nil]
      by_cases hn : n = name
      · rw [hn, if_pos rfl, BEq.rfl]
      · rw [if_neg hn, beq_false_of_ne hn]
  | cons m fields ih =>
      rw [setItem]
      by_cases hm : m.1 = name
      · rw [if_pos hm, List.lookup_cons, List.lookup_cons, hm]
        by_cases hn : n = name
        · rw [hn, if_pos rfl, BEq.rfl]
        · rw [if_neg hn, beq_false_of_ne hn]
      · rw [if_neg hm, List.lookup_cons, List.lookup_cons, ih]
        by_cases hn : n = m.1
        · rw [hn, BEq.rfl]
          simp only [hm, if_false]
        · rw [beq_false_of_ne hn]

/-- The names are those of before, and this one. -/
theorem map_fst_setItem (fields : List (Text × β)) (name : Text) (value : β) :
    (setItem fields name value).map Prod.fst =
      if name ∈ fields.map Prod.fst then fields.map Prod.fst
      else fields.map Prod.fst ++ [name] := by
  induction fields with
  | nil => rfl
  | cons m fields ih =>
      rw [setItem]
      by_cases hm : m.1 = name
      · rw [if_pos hm, List.map_cons, List.map_cons, hm, if_pos List.mem_cons_self]
      · rw [if_neg hm, List.map_cons, List.map_cons, ih]
        have hmem : name ∈ m.1 :: fields.map Prod.fst ↔ name ∈ fields.map Prod.fst :=
          ⟨fun h => (List.mem_cons.1 h).resolve_left (Ne.symm hm), List.mem_cons_of_mem _⟩
        simp only [hmem]
        split_ifs <;> rfl

theorem nodup_setItem (h : (fields.map Prod.fst).Nodup) (name : Text) (value : β) :
    ((setItem fields name value).map Prod.fst).Nodup := by
  rw [map_fst_setItem]
  split_ifs with hmem
  · exact h
  · apply List.Nodup.append h (List.nodup_singleton name)
    intro n hn hname
    obtain rfl := List.mem_singleton.1 hname
    exact hmem hn

theorem setItem_map (f : β → γ) (fields : List (Text × β)) (name : Text) (value : β) :
    setItem (fields.map fun m => (m.1, f m.2)) name (f value) =
      (setItem fields name value).map fun m => (m.1, f m.2) := by
  induction fields with
  | nil => rfl
  | cons m fields ih =>
      rw [List.map_cons, setItem, setItem, ih]
      split_ifs <;> rfl

end

theorem stripPrefix_append (pre s : Text) : stripPrefix pre (pre ++ s) = some s := by
  unfold stripPrefix
  rw [if_pos (List.isPrefixOf_iff_prefix.2 (List.prefix_append pre s)), List.drop_left]

theorem eq_append_of_stripPrefix {pre s t : Text} (h : stripPrefix pre s = some t) :
    s = pre ++ t := by
  unfold stripPrefix at h
  split_ifs at h with hprefix
  obtain ⟨u, rfl⟩ := List.isPrefixOf_iff_prefix.1 hprefix
  rw [List.drop_left] at h
  rw [Option.some.inj h]

/-- The padding of Python is what is missing. -/
theorem padded_eq (text : Text) :
    text ++ List.replicate ((-(text.length : Int)) % 4).toNat '=' = base64url.repad text := by
  have hcount : ((-(text.length : Int)) % 4).toNat = (4 - text.length % 4) % 4 := by omega
  rw [hcount]
  rfl

/-- A rewriting replaces the address and nothing else. -/
theorem IsKeyOf.rewrite {py : PythonDecoders} (hpy : py.Sound) {key : Text}
    {strings : Text → Option Text} (h : IsKeyOf key strings) (newIp : Text) (newPort : Int) :
    IsKeyOf (rewriteKeyForNode py key newIp newPort)
      (Function.update strings ['s'] (some (nodeAddr newIp newPort))) := by
  obtain ⟨json, ⟨members, hread, hnodup, rfl⟩, rfl⟩ := h
  have hnodup' := nodup_setItem hnodup ['s'] (nodeAddr newIp newPort)
  have hdecoded : (py.urlsafeB64decode (base64url.repad (base64url.unpadded (utf8 json)))).bind
      py.loads = some (Json.ofStrings members) := by
    have hdecode := hpy.urlsafeB64decode (utf8 json)
    unfold encode at hdecode
    rw [hdecode]
    exact hpy.loads json members hread hnodup
  have hdumps := hpy.dumps _ hnodup'
  unfold Json.ofStrings at hdecoded hdumps
  rw [← setItem_map] at hdumps
  refine ⟨writeObject asciiEscape (setItem members ['s'] (nodeAddr newIp newPort)), ?_, ?_⟩
  · have htext := textOf_writeObject escapes_ascii hnodup'
    have hlookup : (fun name => (setItem members ['s'] (nodeAddr newIp newPort)).lookup name) =
        Function.update (fun name => members.lookup name) ['s']
          (some (nodeAddr newIp newPort)) := by
      funext name
      rw [lookup_setItem, Function.update_apply]
    rwa [hlookup] at htext
  · unfold rewriteKeyForNode
    simp only [stripPrefix_append, Option.getD_some, padded_eq, hdecoded, hdumps,
      rdropWhile_encode]

/-- The address that the last rewriting has put in, or the first one. -/
def lastAddr (addr : Text) (nodes : List (Text × Int)) : Text :=
  nodes.foldl (fun _ node => nodeAddr node.1 node.2) addr

/-- Any number of rewritings. -/
def rewriteKeys (py : PythonDecoders) (key : Text) (nodes : List (Text × Int)) : Text :=
  nodes.foldl (fun key node => rewriteKeyForNode py key node.1 node.2) key

/-- After any number of rewritings the key has the last address, and all else as before. -/
theorem IsKeyOf.rewriteKeys {py : PythonDecoders} (hpy : py.Sound) {key addr : Text}
    {strings : Text → Option Text} (h : IsKeyOf key strings) (haddr : strings ['s'] = some addr)
    (nodes : List (Text × Int)) :
    IsKeyOf (rewriteKeys py key nodes)
      (Function.update strings ['s'] (some (lastAddr addr nodes))) := by
  induction nodes generalizing key addr strings with
  | nil =>
      have hsame : Function.update strings ['s'] (some addr) = strings := by
        rw [← haddr, Function.update_eq_self]
      show IsKeyOf key (Function.update strings ['s'] (some addr))
      rwa [hsame]
  | cons node nodes ih =>
      have hrest := ih (h.rewrite hpy node.1 node.2) (Function.update_self _ _ _)
      rw [Function.update_idem] at hrest
      exact hrest

/-! ## Taking a key apart -/

/-- A blank for every client. -/
def IsBlank (c : Char) : Prop := isWhitespace c = true ∧ Android.isWhitespace c = true

/-- The key as it is pasted, with blanks around it. -/
def Pasted (text key : Text) : Prop :=
  ∃ lead trail, text = lead ++ key ++ trail ∧ (∀ c ∈ lead, IsBlank c) ∧ ∀ c ∈ trail, IsBlank c

theorem Pasted.ne_nil {text key : Text} (h : Pasted text key) (hne : key ≠ []) : text ≠ [] := by
  obtain ⟨lead, trail, rfl, -, -⟩ := h
  apply List.append_ne_nil_of_left_ne_nil
  exact List.append_ne_nil_of_right_ne_nil _ hne

theorem scheme_append_ne_nil (payload : Text) : scheme ++ payload ≠ [] :=
  List.append_ne_nil_of_left_ne_nil (by decide) payload

theorem keyChars_not_blank :
    ∀ c ∈ scheme ++ base64url.chars, isWhitespace c = false ∧ Android.isWhitespace c = false := by
  have hall : (scheme ++ base64url.chars).all
      (fun c => !isWhitespace c && !Android.isWhitespace c) = true := by decide +kernel
  intro c hc
  have hblank := List.all_eq_true.1 hall c hc
  rwa [Bool.and_eq_true, Bool.not_eq_true', Bool.not_eq_true'] at hblank

theorem colon_not_mem_unpadded (data : Bytes) : ':' ∉ base64url.unpadded data := by
  intro hmem
  have hchars : ':' ∉ base64url.chars := by decide
  exact hchars (mem_chars_of_mem_unpadded hmem)

section

variable {key text json : Text} {strings : Text → Option Text}

theorem solid_key {blank : Char → Bool} (hblank : ∀ c ∈ scheme ++ base64url.chars, blank c = false)
    (data : Bytes) : Solid blank (scheme ++ base64url.unpadded data) := by
  apply solid_of_forall (scheme_append_ne_nil _)
  intro c hc
  apply hblank
  rcases List.mem_append.1 hc with hscheme | hpayload
  · exact List.mem_append_left _ hscheme
  · exact List.mem_append_right _ (mem_chars_of_mem_unpadded hpayload)

/-- The clients in Rust and Swift trim off what was pasted with the key. -/
theorem Pasted.trim {data : Bytes} (h : Pasted text (scheme ++ base64url.unpadded data)) :
    trimBy isWhitespace text = scheme ++ base64url.unpadded data := by
  obtain ⟨lead, trail, rfl, hlead, htrail⟩ := h
  apply trimBy_append (fun c hc => (hlead c hc).1) _ fun c hc => (htrail c hc).1
  exact solid_key (fun c hc => (keyChars_not_blank c hc).1) data

/-- And so do the apps. -/
theorem Pasted.trimAndroid {data : Bytes} (h : Pasted text (scheme ++ base64url.unpadded data)) :
    trimBy Android.isWhitespace text = scheme ++ base64url.unpadded data := by
  obtain ⟨lead, trail, rfl, hlead, htrail⟩ := h
  apply trimBy_append (fun c hc => (hlead c hc).2) _ fun c hc => (htrail c hc).2
  exact solid_key (fun c hc => (keyChars_not_blank c hc).2) data

/-- Without its scheme a key is what it is with it. -/
theorem payload_bare (data : Bytes) :
    (stripPrefix scheme (ConnectionKey.trim (base64url.unpadded data))).getD
      (ConnectionKey.trim (base64url.unpadded data)) = base64url.unpadded data := by
  have htrim : ConnectionKey.trim (base64url.unpadded data) = base64url.unpadded data := by
    unfold ConnectionKey.trim
    cases hdata : base64url.unpadded data with
    | nil => rfl
    | cons c s =>
        apply trimBy_of_solid
        apply solid_of_forall (List.cons_ne_nil _ _)
        intro d hd
        rw [← hdata] at hd
        have hchar := mem_chars_of_mem_unpadded hd
        exact (keyChars_not_blank d (List.mem_append_right _ hchar)).1
  have hscheme : stripPrefix scheme (base64url.unpadded data) = none := by
    unfold stripPrefix
    rw [if_neg]
    intro hprefix
    apply colon_not_mem_unpadded data
    apply (List.isPrefixOf_iff_prefix.1 hprefix).subset
    decide
  rw [htrim, hscheme]
  rfl

theorem payload_pasted {data : Bytes} (h : Pasted text (scheme ++ base64url.unpadded data)) :
    (stripPrefix scheme (ConnectionKey.trim text)).getD (ConnectionKey.trim text) =
      base64url.unpadded data := by
  unfold ConnectionKey.trim
  rw [h.trim, stripPrefix_append]
  rfl

theorem keyOf_toList (key : Key) : keyOf key.toList = some key := dif_pos key.length_toList

/-- The JSON value that is parsed has the strings. -/
theorem KeyDecoders.Sound.fromSlice {dec : KeyDecoders} (hdec : dec.Sound)
    (htext : TextOf json strings) :
    ∃ value, dec.fromSlice (utf8 json) = some value ∧
      ∀ name, (value.index name).asStr = strings name := by
  obtain ⟨value, hvalue, hstrings⟩ := Option.map_eq_some_iff.1 (hdec.strings json strings htext)
  exact ⟨value, hvalue, congrFun hstrings⟩

/-- The command-line client reads a key with the scheme or without it. -/
theorem serverConfig_of_payload {dec : ClientDecoders} (hdec : dec.Sound)
    (htext : TextOf json strings) {addr vpnIp : Text} {pubKey psk : Key}
    (hs : strings ['s'] = some addr) (hk : strings ['k'] = some (base64.encode pubKey.toList))
    (hp : strings ['p'] = some (base64.encode psk.toList)) (hi : strings ['i'] = some vpnIp)
    (hpayload : (stripPrefix scheme (ConnectionKey.trim text)).getD (ConnectionKey.trim text) =
      base64url.unpadded (utf8 json))
    {args : ClientArgs} (hargs : args.connectionKey = some text) :
    args.serverConfig dec = .ok ⟨addr, pubKey, some psk, vpnIp⟩ := by
  obtain ⟨value, hvalue, hstrings⟩ := hdec.fromSlice htext
  have hparams : args.connectionParams dec =
      .ok (addr, base64.encode pubKey.toList, some psk.toList, vpnIp) := by
    unfold ClientArgs.connectionParams
    rw [hargs]
    simp only [hpayload, hdec.decode, hvalue, hstrings, hs, hk, hp, hi, orExit_some_bind,
      Option.bind_some, hdec.decodeStandard, Option.getD_some]
  unfold ClientArgs.serverConfig
  rw [hparams]
  show (orExit _ _ >>= fun serverKeyDecoded => _) = _
  rw [hdec.decodeStandard, orExit_some_bind, keyOf_toList, orExit_some_bind, Option.bind_some,
    keyOf_toList]

/-- The Windows client stores the key without the blanks, with the address and the VPN address. -/
theorem fromKeyString_of_pasted {dec : KeyDecoders} (hdec : dec.Sound) (htext : TextOf json strings)
    {addr vpnIp : Text} (hs : strings ['s'] = some addr) (hi : strings ['i'] = some vpnIp)
    (hpasted : Pasted text (scheme ++ base64url.unpadded (utf8 json))) (name : Text) :
    ConnectionKey.fromKeyString dec name text =
      some ⟨name, scheme ++ base64url.unpadded (utf8 json), addr, vpnIp⟩ := by
  obtain ⟨value, hvalue, hstrings⟩ := hdec.fromSlice htext
  have hpayload := payload_pasted hpasted
  have htrim : ConnectionKey.trim text = scheme ++ base64url.unpadded (utf8 json) := hpasted.trim
  unfold scheme at hpayload
  unfold ConnectionKey.fromKeyString
  simp only [hpayload, hdec.decode, hvalue, hstrings, hs, hi, Option.bind_eq_bind, Option.bind_some,
    Option.getD_some]
  rw [htrim]

/-- The Android apps read the four strings. -/
theorem Android.parseWith_of_pasted {dec : AppDecoders} (hdec : dec.Sound base64url.unpadded)
    (htext : TextOf json strings) {addr pubKey psk vpnIp : Text} (hs : strings ['s'] = some addr)
    (hk : strings ['k'] = some pubKey) (hp : strings ['p'] = some psk)
    (hi : strings ['i'] = some vpnIp)
    (hpasted : Pasted text (scheme ++ base64url.unpadded (utf8 json))) (schemes : List Text) :
    parseWith (scheme :: schemes) dec text = some (addr, pubKey, psk, vpnIp) := by
  unfold parseWith
  rw [hpasted.trimAndroid]
  simp only [List.findSome?_cons, stripPrefix_append, Option.getD_some, hdec.decode,
    hdec.jsonObject json strings htext, hs, hk, hp, hi, Option.bind_eq_bind, Option.bind_some]

end

/-! ## What the macOS client stores -/

namespace Macos

variable {pattern new s : Text}

/-- The rest of an occurrence is skipped. -/
theorem replacingFrom_drop (pattern new : Text) (skip : Nat) (s : Text) :
    replacingFrom pattern new skip s = replacingFrom pattern new 0 (s.drop skip) := by
  induction s generalizing skip with
  | nil => cases skip <;> rfl
  | cons c s ih =>
      cases skip with
      | zero => rfl
      | succ skip => exact ih skip

/-- An occurrence at the front is replaced. -/
theorem replacingOccurrences_append (hpattern : pattern ≠ []) (s : Text) :
    replacingOccurrences pattern new (pattern ++ s) =
      new ++ replacingOccurrences pattern new s := by
  unfold replacingOccurrences
  cases pattern with
  | nil => exact absurd rfl hpattern
  | cons c p =>
      have hprefix : (c :: p).isPrefixOf (c :: (p ++ s)) = true :=
        List.isPrefixOf_iff_prefix.2 (List.prefix_append (c :: p) s)
      rw [List.cons_append, replacingFrom, if_pos hprefix, replacingFrom_drop, List.length_cons,
        Nat.add_sub_cancel, List.drop_left]

/-- Nothing is replaced where a character of the pattern is missing. -/
theorem replacingOccurrences_of_not_mem {c : Char} (hc : c ∈ pattern) (hs : c ∉ s) :
    replacingOccurrences pattern new s = s := by
  unfold replacingOccurrences
  induction s with
  | nil => rfl
  | cons d s ih =>
      have hnot : ¬ pattern.isPrefixOf (d :: s) = true := fun hprefix =>
        hs ((List.isPrefixOf_iff_prefix.1 hprefix).subset hc)
      rw [replacingFrom, if_neg hnot, ih fun hmem => hs (List.mem_cons_of_mem _ hmem)]

/-- One character is replaced everywhere. -/
theorem replacingOccurrences_singleton (a b : Char) (s : Text) :
    replacingOccurrences [a] [b] s = s.map fun c => if c = a then b else c := by
  unfold replacingOccurrences
  induction s with
  | nil => rfl
  | cons c s ih =>
      rw [List.map_cons, ← ih, replacingFrom]
      by_cases hc : c = a
      · subst hc
        simp
      · have hnot : ¬ [a].isPrefixOf (c :: s) = true := fun hprefix =>
          hc ((List.cons_prefix_cons.1 (List.isPrefixOf_iff_prefix.1 hprefix)).1).symm
        rw [if_neg hnot, if_neg hc]

/-- Of a key the part behind the scheme is stored. -/
theorem normalized_of_pasted {text : Text} {data : Bytes}
    (h : Pasted text (scheme ++ base64url.unpadded data)) :
    ConnectionKey.normalized text = base64url.unpadded data := by
  unfold ConnectionKey.normalized
  rw [h.trim]
  rw [replacingOccurrences_append (by decide), List.nil_append,
    replacingOccurrences_of_not_mem (c := ':') (by decide) (colon_not_mem_unpadded data)]

/-- What Foundation decodes is the text in the standard alphabet, with its padding. -/
theorem standard_of_url (data : Bytes) :
    replacingOccurrences ['_'] ['/'] (replacingOccurrences ['-'] ['+'] (base64url.unpadded data)) =
      base64.unpadded data := by
  rw [replacingOccurrences_singleton, replacingOccurrences_singleton, List.map_map]
  apply map_unpadded (A := base64url) (B := base64) rfl
  decide

theorem padded_eq (text : Text) :
    (if 0 < text.length % 4 then text ++ List.replicate (4 - text.length % 4) '=' else text) =
      base64.repad text := by
  have hmissing : base64.missing text.length = (4 - text.length % 4) % 4 := rfl
  unfold repad
  rw [hmissing]
  split_ifs with hremainder
  · rw [Nat.mod_eq_of_lt (by omega : 4 - text.length % 4 < 4)]
  · have hzero : (4 - text.length % 4) % 4 = 0 := by omega
    rw [hzero, List.replicate_zero, List.append_nil]

theorem new_of_pasted {dec : AppDecoders} (hdec : dec.Sound base64.encode) {text json : Text}
    {strings : Text → Option Text} (htext : TextOf json strings)
    (hpasted : Pasted text (scheme ++ base64url.unpadded (utf8 json))) (id name : Text) :
    ConnectionKey.new dec id name text =
      ⟨id, name, base64url.unpadded (utf8 json), strings ['s'], strings ['i']⟩ := by
  have hdecode : dec.decode (base64.repad (base64.unpadded (utf8 json))) = some (utf8 json) :=
    hdec.decode (utf8 json)
  unfold ConnectionKey.new
  simp only [normalized_of_pasted hpasted, standard_of_url, padded_eq, hdecode, Option.bind_some,
    hdec.jsonObject json strings htext]

end Macos

/-! ## Every client -/

/-- What the clients decode with. -/
structure Clients where
  cli : ClientDecoders
  windows : KeyDecoders
  macos : AppDecoders
  android : AppDecoders

structure Clients.Sound (D : Clients) : Prop where
  cli : D.cli.Sound
  windows : D.windows.Sound
  macos : D.macos.Sound base64.encode
  android : D.android.Sound base64url.unpadded

/-- The clients read the pasted text as a key to this server. The text that the desktop clients
store starts the command-line client as the key itself does. -/
structure ReadAs (D : Clients) (text key addr : Text) (pubKey psk : Key) (vpnIp : Text) : Prop where
  cli : ∀ args : ClientArgs, args.connectionKey = some text →
    args.serverConfig D.cli = .ok ⟨addr, pubKey, some psk, vpnIp⟩
  windows : ∀ name, ConnectionKey.fromKeyString D.windows name text =
    some ⟨name, key, addr, vpnIp⟩
  windowsStarts : ∀ args : ClientArgs, args.connectionKey = some key →
    args.serverConfig D.cli = .ok ⟨addr, pubKey, some psk, vpnIp⟩
  macos : ∀ id name, (Macos.ConnectionKey.new D.macos id name text).fullKey = key ∧
    (Macos.ConnectionKey.new D.macos id name text).serverAddress = some addr ∧
    (Macos.ConnectionKey.new D.macos id name text).vpnIP = some vpnIp
  macosStarts : ∀ id name, ∀ args : ClientArgs,
    args.connectionKey = some (Macos.ConnectionKey.new D.macos id name text).keyValue →
      args.serverConfig D.cli = .ok ⟨addr, pubKey, some psk, vpnIp⟩
  android : Android.parseConnectionKey D.android text =
    some (addr, base64.encode pubKey.toList, base64.encode psk.toList, vpnIp)
  shade : Android.shadeParseConnectionKey D.android text =
    some (addr, base64.encode pubKey.toList, base64.encode psk.toList, vpnIp)

theorem IsKeyOf.readAs {D : Clients} (hD : D.Sound) {key text addr vpnIp : Text}
    {pubKey psk : Key} {strings : Text → Option Text} (h : IsKeyOf key strings)
    (hs : strings ['s'] = some addr) (hk : strings ['k'] = some (base64.encode pubKey.toList))
    (hp : strings ['p'] = some (base64.encode psk.toList)) (hi : strings ['i'] = some vpnIp)
    (hpasted : Pasted text key) : ReadAs D text key addr pubKey psk vpnIp := by
  obtain ⟨json, htext, rfl⟩ := h
  have hbare : Pasted (scheme ++ base64url.unpadded (utf8 json))
      (scheme ++ base64url.unpadded (utf8 json)) :=
    ⟨[], [], (List.append_nil _).symm, fun c hc => absurd hc List.not_mem_nil, fun c hc =>
      absurd hc List.not_mem_nil⟩
  have hmacos := Macos.new_of_pasted hD.macos htext hpasted
  constructor
  case cli =>
    intro args hargs
    exact serverConfig_of_payload hD.cli htext hs hk hp hi (payload_pasted hpasted) hargs
  case windows => exact fromKeyString_of_pasted hD.windows htext hs hi hpasted
  case windowsStarts =>
    intro args hargs
    exact serverConfig_of_payload hD.cli htext hs hk hp hi (payload_pasted hbare) hargs
  case macos =>
    intro id name
    rw [hmacos]
    exact ⟨rfl, hs, hi⟩
  case macosStarts =>
    intro id name args hargs
    rw [hmacos] at hargs
    exact serverConfig_of_payload hD.cli htext hs hk hp hi (payload_bare _) hargs
  case android => exact Android.parseWith_of_pasted hD.android htext hs hk hp hi hpasted _
  case shade => exact Android.parseWith_of_pasted hD.android htext hs hk hp hi hpasted _

/-- Every client reads the server's key, the PSK and the VPN address that the server has issued, and
the address of the last node that the panel has rewritten the key for. -/
theorem connection_key_read {serialize : List (Text × Text) → Text} {py : PythonDecoders}
    {D : Clients} (hserialize : WritesObjects serialize) (hpy : py.Sound) (hD : D.Sound)
    (listen serverIp : Text) (pubKey psk : Key) (vpnIp : Text) (nodes : List (Text × Int))
    {text : Text}
    (hpasted : Pasted text
      (rewriteKeys py (connKey serialize listen serverIp pubKey psk vpnIp) nodes)) :
    ReadAs D text (rewriteKeys py (connKey serialize listen serverIp pubKey psk vpnIp) nodes)
      (lastAddr (buildConnectionServerAddr listen serverIp) nodes) pubKey psk vpnIp := by
  obtain ⟨strings, hkey, hs, hk, hp, hi⟩ := isKeyOf_buildConnectionKey hserialize listen serverIp
    (base64.encode pubKey.toList) (base64.encode psk.toList) vpnIp
  have hrewritten := hkey.rewriteKeys hpy hs nodes
  apply hrewritten.readAs hD _ _ _ _ hpasted
  · exact Function.update_self _ _ _
  · rwa [Function.update_of_ne (by decide)]
  · rwa [Function.update_of_ne (by decide)]
  · rwa [Function.update_of_ne (by decide)]

/-! ## A key and its clients -/

/-- The strings of an object do not depend on the order of its members. -/
theorem lookup_of_perm {members members' : List (Text × Text)} (h : members.Perm members')
    (hnodup : (members.map Prod.fst).Nodup) (name : Text) :
    members.lookup name = members'.lookup name := by
  induction h with
  | nil => rfl
  | cons m _ ih =>
      rw [List.lookup_cons, List.lookup_cons, ih (List.nodup_cons.1 hnodup).2]
  | swap m m' members =>
      have hne : m.1 ≠ m'.1 := fun heq =>
        (List.nodup_cons.1 hnodup).1 (heq ▸ List.mem_cons_self)
      rw [List.lookup_cons, List.lookup_cons, List.lookup_cons, List.lookup_cons]
      by_cases hm : name = m.1
      · rw [beq_false_of_ne (hm ▸ hne : name ≠ m'.1)]
      · rw [beq_false_of_ne hm]
  | trans h _ ih ih' => rw [ih hnodup, ih' ((h.map Prod.fst).nodup_iff.1 hnodup)]

theorem asStr_index_ofStrings (members : List (Text × Text)) (name : Text) :
    ((Json.ofStrings members).index name).asStr = members.lookup name := by
  unfold Json.ofStrings Json.index
  simp only
  induction members with
  | nil => rfl
  | cons m members ih =>
      rw [List.map_cons, List.lookup_cons, List.lookup_cons]
      cases name == m.1 with
      | true => rfl
      | false => exact ih

/-- The order of the members by their names. -/
def keyBefore (m m' : Text × Text) : Bool :=
  !m'.1.lex m.1 fun c d => Nat.blt c.toNat d.toNat

/-- A writer that sorts the members. -/
def sampleSerialize (members : List (Text × Text)) : Text :=
  writeObject plainEscape (members.mergeSort keyBefore)

theorem sampleSerialize_writes : WritesObjects sampleSerialize := by
  intro members hnodup
  have hperm : (members.mergeSort keyBefore).Perm members :=
    List.mergeSort_perm _ _
  have hnodup' := (hperm.map Prod.fst).nodup_iff.2 hnodup
  have htext := textOf_writeObject escapes_plain hnodup'
  have hlookup := funext (lookup_of_perm hperm hnodup')
  rwa [hlookup] at htext

/-- A parser for objects of strings. -/
def sampleParse (bytes : Bytes) : Option Json :=
  ((fromUtf8 bytes).bind readObject).map Json.ofStrings

theorem sampleParse_utf8 {text : Text} {members : List (Text × Text)}
    (h : readObject text = some members) :
    sampleParse (utf8 text) = some (Json.ofStrings members) := by
  unfold sampleParse
  rw [fromUtf8_utf8, Option.bind_some, h, Option.map_some]

def sampleKeyDecoders : KeyDecoders :=
  ⟨fun text => base64url.decode (base64url.repad text), sampleParse⟩

theorem decode_repad (data : Bytes) :
    base64url.decode (base64url.repad (base64url.unpadded data)) = some data :=
  decode_encode (by decide) data

theorem sampleKeyDecoders_strings : FindsStrings sampleKeyDecoders.strings := by
  rintro text strings ⟨members, hread, -, rfl⟩
  unfold KeyDecoders.strings sampleKeyDecoders
  simp only [sampleParse_utf8 hread, Option.map_some, asStr_index_ofStrings]

theorem sampleKeyDecoders_sound : sampleKeyDecoders.Sound :=
  ⟨decode_repad, sampleKeyDecoders_strings⟩

def samplePython : PythonDecoders where
  urlsafeB64decode := base64url.decode
  loads := sampleParse
  dumps
    | .object fields => writeObject asciiEscape (fields.map fun m => (m.1, m.2.asStr.getD []))
    | _ => []

theorem samplePython_sound : samplePython.Sound where
  urlsafeB64decode := decode_encode (by decide)
  loads := fun _ _ hread _ => sampleParse_utf8 hread
  dumps := by
    intro members _
    show writeObject asciiEscape ((members.map fun m => (m.1, Json.string m.2)).map fun m =>
      (m.1, m.2.asStr.getD [])) = _
    rw [List.map_map]
    congr 1
    exact List.map_id _

def sampleClients : Clients where
  cli := ⟨sampleKeyDecoders, base64.decode⟩
  windows := sampleKeyDecoders
  macos := ⟨base64.decode, sampleKeyDecoders.strings⟩
  android := ⟨sampleKeyDecoders.decode, sampleKeyDecoders.strings⟩

theorem sampleClients_sound : sampleClients.Sound where
  cli := ⟨sampleKeyDecoders_sound, decode_encode (by decide)⟩
  windows := sampleKeyDecoders_sound
  macos := ⟨decode_encode (by decide), sampleKeyDecoders_strings⟩
  android := ⟨decode_repad, sampleKeyDecoders_strings⟩

/-- The key of a client, rewritten for a second node. -/
def sampleConnKey : Text :=
  rewriteKeys samplePython (connKey sampleSerialize "0.0.0.0:443".toList "185.204.52.135".toList
    (ByteArr.replicate 32 7) (ByteArr.replicate 32 9) "10.0.0.20".toList)
    [("150.241.101.56".toList, 443)]

theorem connection_key_sample :
    ReadAs sampleClients (' ' :: sampleConnKey ++ ['\n']) sampleConnKey "150.241.101.56:443".toList
      (ByteArr.replicate 32 7) (ByteArr.replicate 32 9) "10.0.0.20".toList := by
  have hpasted : Pasted (' ' :: sampleConnKey ++ ['\n']) sampleConnKey := by
    refine ⟨[' '], ['\n'], rfl, ?_, ?_⟩ <;>
      exact List.forall_mem_singleton.2 ⟨by decide, by decide⟩
  have haddr : lastAddr (buildConnectionServerAddr "0.0.0.0:443".toList "185.204.52.135".toList)
      [("150.241.101.56".toList, 443)] = "150.241.101.56:443".toList := by decide
  rw [← haddr]
  exact connection_key_read sampleSerialize_writes samplePython_sound sampleClients_sound
    _ _ _ _ _ _ hpasted

end Aivpn
