import Aivpn.Server.ClientIsolation

/-!
# A client that connects again

A registered client whose tunnel was interrupted sends a fresh init. The new session is created beside
the client's older one, which goes only when the tag has been validated, and the limits on sessions are
checked at the creation. So the older session counts: the client gets its new session exactly when
fewer than 500 sessions are live, and fewer than five from its IP (`reconnects_iff_hasRoom`). Behind
the TLS bridge, where all clients share one IP, five live sessions lock every one of them out
(`bridged_client_locked_out`).
-/

set_option autoImplicit false

namespace Aivpn

open Aivpn.Lib Aivpn.Lib.Action

namespace Gateway

variable {P : Primitives} {rng : Randomness} {cfg : GatewayConfig} {env : Env}

/-- Between `g` and `g'` the client has got a new live session. -/
def Reconnects (g g' : Gateway) (client : ClientConfig) : Prop :=
  ∃ sid ∈ g'.sessionManager.sessions, sid ∉ g.sessionManager.sessions ∧
    (g'.session sid).clientId = some client.id

/-- Without room no handshake is accepted. -/
theorem acceptedHandshake_of_noRoom {packetData : Bytes} {addr : SocketAddr} {g : Gateway}
    {clients : List ClientConfig} (hm : g.sessionManager.MapInv) (hdb : g.clientDb = some clients)
    (hroom : ¬ g.sessionManager.HasRoom addr) :
    acceptedHandshake P rng env g packetData addr = none := by
  unfold acceptedHandshake
  by_cases hshort : packetData.length < tagSize + 2
  · exact if_pos hshort
  rw [if_neg hshort]
  have hchanges := SessionManager.changes_findSession P rng (env, .cleanup) g.sessionManager
    (readArray 8 0 packetData) addr.ip
  have hsame := g.sessionManager.findSession_hasRoom P env (readArray 8 0 packetData) addr.ip addr
  rcases hfs : g.sessionManager.findSession P env (readArray 8 0 packetData) addr.ip with
    ⟨e | hit, m⟩
  · simp only [hfs]
  rw [hfs] at hchanges hsame
  cases hit with
  | some hit => simp only [hfs]
  | none =>
      simp only [hfs]
      rcases hoffer : offerSession P rng env packetData (readArray 8 0 packetData) addr
        { g with sessionManager := m } with ⟨e | found, g₂⟩
      · simp only
      -- an offer is only made when there is room
      · by_cases hkey : packetData.length < tagSize + mdhLen + 32
        · exfalso
          unfold offerSession at hoffer
          rw [bind_of_ok (gets_apply _ _)] at hoffer
          split_ifs at hoffer
          · cases hoffer
          · cases hoffer
        · rcases offerSession_live P rng env (g := { g with sessionManager := m })
            (Nat.not_lt.1 hkey) (hm.changes hchanges) hdb rfl hoffer with
              ⟨⟨e, he⟩, -⟩ | ⟨sid, client, _, _, _, _, -, hoffered, -⟩
          · cases he
          · exfalso
            unfold offeredClient at hoffered
            split_ifs at hoffered with hcond
            exact hroom (hsame.1 hcond.2)

/-- Without room no datagram adds a session. -/
theorem handlePacket_of_noRoom {packetData : Bytes} {addr : SocketAddr} {g : Gateway}
    {clients : List ClientConfig} (hm : g.sessionManager.MapInv) (hdb : g.clientDb = some clients)
    (hroom : ¬ g.sessionManager.HasRoom addr) :
    ∀ sid ∈ (handlePacket P rng cfg env packetData addr g).2.sessionManager.sessions,
      sid ∈ g.sessionManager.sessions := by
  have hopening := handlePacket_opening P rng cfg (env, .packet packetData addr) rfl g
  rw [acceptedHandshake_of_noRoom hm hdb hroom] at hopening
  have hchanges : Changes P rng cfg (env, .packet packetData addr) g
    (handlePacket P rng cfg env packetData addr g).2 := hopening
  have hstep : ∀ m m', (∀ sid ∈ m.sessions, sid ∈ g.sessionManager.sessions) →
      SessionManager.Change P rng (env, .packet packetData addr) m m' →
      ∀ sid ∈ m'.sessions, sid ∈ g.sessionManager.sessions := by
    intro m m' hsub hch sid hsid
    exact hsub sid (hch.sessions_subset sid hsid)
  exact hchanges.of_change P rng cfg hstep fun _ h => h

end Gateway

/-- In every run with a client database in which the PSKs of registered clients are distinct, a fresh
init of an enabled client gives the client a new live session exactly when there is room for one more
session beside the live ones. -/
theorem reconnects_iff_hasRoom (P : Primitives) (rng : Randomness) (cfg : GatewayConfig)
    (serverKeys : KeyPair) (signingKey : Key) (db : List ClientConfig)
    (es : List (Env × Gateway.Event)) {g : Gateway} {clients : List ClientConfig}
    (hg : g = runFrom (Gateway.step P rng cfg) (Gateway.new serverKeys signingKey (some db)) es)
    (hdb : g.clientDb = some clients)
    (hpsk : ∀ c ∈ clients, ∀ c' ∈ clients, c.psk = c'.psk → c = c')
    (env : Env) (addr : SocketAddr) {client : ClientConfig} (hmem : client ∈ clients)
    (henabled : client.enabled = true) (i : InitDatagram) (hi : i.psk = client.psk)
    (hcounter : i.counter < 256) (hwindow : i.timeWindow ∈ nearWindows env.timeWindow)
    (hcool : Gateway.cooldownActive env g addr.ip = false)
    (hideal : HandshakeIdeal P rng (Gateway.windowsOf es ∪ { w | w ∈ nearWindows env.timeWindow })
      g.sessionManager i.ephPub clients) :
    Gateway.Reconnects g (Gateway.handlePacket P rng cfg env
      (i.bytes P g.sessionManager.serverKeys) addr g).2 client ↔
      g.sessionManager.HasRoom addr := by
  have hm := mapInv_of_run P rng cfg serverKeys signingKey (some db) es
  have htags := tagInv_of_run P rng cfg serverKeys signingKey (some db) es
  have hsound := cacheSound_of_run P rng cfg serverKeys signingKey (some db) es
  rw [← hg] at hm htags hsound
  obtain ⟨-, hauth⟩ := Gateway.authenticatedClient_of_init hm htags
    (fun sid _ => (hsound sid).mono Set.subset_union_left) (fun _ => Or.inr) hdb hpsk hmem henabled
    rfl hi hcounter hwindow hcool hideal
  -- with no room no session is new, and with room the client's own is
  constructor
  · rintro ⟨sid, hlive, hnew, -⟩
    by_contra hroom
    exact hnew (Gateway.handlePacket_of_noRoom hm hdb hroom sid hlive)
  · intro hroom
    rw [if_pos hroom] at hauth
    obtain ⟨-, -, sid, hlive, hnew, hid, -⟩ := Gateway.handshake_session hm hdb hauth
    exact ⟨sid, hlive, hnew, hid⟩

/-- The second client of the sample connects beside the first one. -/
theorem sampleSecondInit_reconnects :
    Gateway.Reconnects sampleShared (Gateway.handlePacket samplePrimitives sampleRandomness
      sampleConfig (sampleEnv 100) (sampleSecondInit.bytes samplePrimitives
        sampleShared.sessionManager.serverKeys) sampleAddr sampleShared).2 sampleSecondClient := by
  obtain ⟨-, -, -, hdb, hcooldown, hroom, -⟩ := sampleShared_state
  refine (@reconnects_iff_hasRoom samplePrimitives sampleRandomness sampleConfig sampleServerKeys
    default [sampleClient, sampleSecondClient] sampleConnect sampleShared
    [sampleClient, sampleSecondClient] rfl hdb (by decide +kernel) (sampleEnv 100) sampleAddr
    sampleSecondClient (List.mem_cons_of_mem _ List.mem_cons_self) rfl sampleSecondInit rfl
    (by decide) (by decide) hcooldown (sampleSecondInit_ideal sampleConnect_windows_lt)).2 hroom

/-! ## Five clients behind one address -/

/-- Clients of a bridge. -/
def sampleBridgeClient (k : Nat) : ClientConfig :=
  ⟨toString k, ByteArr.replicate 32 (UInt8.ofNat (40 + 8 * k)), ⟨10, 0, 0, UInt8.ofNat (2 + k)⟩,
    true⟩

/-- The init of the `k`th client with the given ephemeral key and counter. -/
def sampleBridgeInit (k eph counter : Nat) : InitDatagram where
  ephPub := (samplePrimitives.fromPrivateKey (ByteArr.replicate 32 (UInt8.ofNat eph))).publicKeyBytes
  psk := (sampleBridgeClient k).psk
  counter := counter
  timeWindow := 100
  header := ByteArr.replicate 4 0
  padded := zeroMdhPlaintext sampleDraw (buildInnerPacket .control 0 ControlPayload.keepalive.encode)

/-- The `k`th client is registered, connects from an address of its own, and moves to the bridge. -/
def sampleBridgeConnect (k : Nat) : List (Env × Gateway.Event) :=
  [(sampleEnv 100, .reload [sampleBridgeClient k]),
    (sampleEnv 100, .packet ((sampleBridgeInit k (100 + k) 0).bytes samplePrimitives
      sampleServerKeys) ⟨.v4 ⟨192, 0, 2, UInt8.ofNat (10 + k)⟩, 4000⟩),
    (sampleEnv 100, .packet ((sampleBridgeInit k (100 + k) 1).bytes samplePrimitives
      sampleServerKeys) sampleAddr)]

/-- Five clients are registered and connected through the bridge. -/
def sampleBridged : Gateway :=
  runFrom (Gateway.step samplePrimitives sampleRandomness sampleConfig)
    (Gateway.new sampleServerKeys default (some []))
    ((List.range 5).flatMap sampleBridgeConnect ++
      [(sampleEnv 100, .reload ((List.range 5).map sampleBridgeClient))])

/-- The first of the five clients has one live session, through the bridge. A fresh init that it sends
through the bridge, with a new ephemeral key, gives it no new one. -/
theorem bridged_client_locked_out :
    let client := sampleBridgeClient 0
    let i := sampleBridgeInit 0 200 0
    sampleBridged.clientDb = some ((List.range 5).map sampleBridgeClient) ∧
    client.enabled = true ∧ i.psk = client.psk ∧ i.counter < 256 ∧
    i.timeWindow ∈ nearWindows (sampleEnv 100).timeWindow ∧
    Gateway.cooldownActive (sampleEnv 100) sampleBridged sampleAddr.ip = false ∧
    (sampleBridged.sessionManager.sessions.filter fun sid =>
      (sampleBridged.session sid).clientId = some client.id) = [0] ∧
    (sampleBridged.session 0).clientAddr = sampleAddr ∧
    (∀ sid ∈ sampleBridged.sessionManager.sessions,
      (sampleBridged.session sid).ephPub ≠ i.ephPub) ∧
    ¬ Gateway.Reconnects sampleBridged (Gateway.handlePacket samplePrimitives sampleRandomness
      sampleConfig (sampleEnv 100) (i.bytes samplePrimitives sampleServerKeys) sampleAddr
      sampleBridged).2 client := by
  intro client i
  have hfacts : sampleBridged.clientDb = some ((List.range 5).map sampleBridgeClient) ∧
      Gateway.cooldownActive (sampleEnv 100) sampleBridged sampleAddr.ip = false ∧
      (sampleBridged.sessionManager.sessions.filter fun sid =>
        (sampleBridged.session sid).clientId = some client.id) = [0] ∧
      (sampleBridged.session 0).clientAddr = sampleAddr ∧
      (∀ sid ∈ sampleBridged.sessionManager.sessions,
        (sampleBridged.session sid).ephPub ≠ i.ephPub) ∧
      ¬ sampleBridged.sessionManager.HasRoom sampleAddr := by
    -- the run is evaluated once for all of its facts
    decide +kernel
  obtain ⟨hdb, hcool, hone, haddr, hfresh, hroom⟩ := hfacts
  refine ⟨hdb, rfl, rfl, by decide, by decide, hcool, hone, haddr, hfresh, ?_⟩
  rintro ⟨sid, hlive, hnew, -⟩
  have hm : sampleBridged.sessionManager.MapInv := mapInv_of_run samplePrimitives sampleRandomness
    sampleConfig sampleServerKeys default (some []) _
  exact hnew (Gateway.handlePacket_of_noRoom hm hdb hroom sid hlive)

end Aivpn
