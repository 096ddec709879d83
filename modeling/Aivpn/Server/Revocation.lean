import Aivpn.Server.ClientIsolation

/-!
# Revoked clients

The `enabled` flag is read where a session is opened, and nowhere else: a session lives on when its
client is disabled or removed from the database, and its datagrams are forwarded as before
(`revoked_client_forwarded`). What a revocation does is to keep the client from opening new sessions
(`revoked_client_opens_none`).
-/

set_option autoImplicit false

namespace Aivpn

open Aivpn.Lib

namespace Gateway

/-- No entry of the client is enabled. -/
def Revoked (clientId : String) (clients : List ClientConfig) : Prop :=
  ∀ c ∈ clients, c.id = clientId → c.enabled = false

/-- The session was live with this client at `g₀`. -/
def HeldAt (g₀ : Gateway) (clientId : String) (sid : SessionId) : Prop :=
  sid ∈ g₀.sessionManager.sessions ∧ (g₀.session sid).clientId = some clientId

variable {P : Primitives} {rng : Randomness} {cfg : GatewayConfig}

/-- Behind a revocation every session of the client is one that it held then. -/
theorem Attributed.revoked {g₀ g : Gateway} {clientId : String}
    {after : List (Env × Gateway.Event)} (hg : g = runFrom (Gateway.step P rng cfg) g₀ after)
    {S : Set ClientConfig} (hg₀ : OwnedInv S g₀) {clients : List ClientConfig}
    (hdb : g₀.clientDb = some clients) (hrevoked : Revoked clientId clients)
    (hafter : ∀ e ∈ after, ∀ reloaded, e.2 = .reload reloaded → Revoked clientId reloaded) :
    Attributed (fun c => c.id = clientId → c.enabled = false)
      (fun sid c => c.id = clientId → HeldAt g₀ clientId sid) g := by
  have hstart : Attributed (fun c => c.id = clientId → c.enabled = false)
      (fun sid c => c.id = clientId → HeldAt g₀ clientId sid) g₀ := by
    refine ⟨hg₀.map, ?_, clients, hdb, hrevoked⟩
    intro sid hlive
    obtain ⟨c, -, hid, hip⟩ := hg₀.owned sid hlive
    exact ⟨c, fun heq => ⟨hlive, heq ▸ hid⟩, hid, hip⟩
  -- a client that is admissible and enabled is another one
  have hadmissible : ∀ c : ClientConfig, (c.id = clientId → c.enabled = false) →
      c.enabled = true → ∀ sid, c.id = clientId → HeldAt g₀ clientId sid := by
    intro c hc henabled sid heq
    rw [hc heq] at henabled
    cases henabled
  rw [hg]
  exact runFrom_invariant_of_along (fun _ e h he => h.step hadmissible he) hstart
    (along_of_forall hafter)

/-- A datagram that is accepted without a handshake belongs to a live session. -/
theorem accepted_mem {env : Env} {packetData : Bytes} {addr : SocketAddr} {g : Gateway}
    {t : TagMatch} {plaintext : Bytes}
    (h : (receivePacket P rng env packetData addr g).1 = .ok (t, plaintext))
    (hnew : t.isNewSession = false) : t.sessionId ∈ g.sessionManager.sessions := by
  have hlen : ¬ packetData.length < tagSize + 2 := by
    intro hshort
    rw [receivePacket_short P rng env hshort] at h
    cases h
  obtain ⟨hid, -⟩ := (receivePacket_cases P rng env hlen rfl).2 t plaintext h
  obtain ⟨m, hfs, -⟩ := identify_found P rng env (Prod.ext hid rfl) hnew
  exact SessionManager.findSession_mem P hfs

end Gateway

/-- In every run of a gateway with a client database: once a reload has removed or disabled a client,
and as long as it stays so, all live sessions of the client are those it held at the reload, every
datagram that is accepted on a session of the client is accepted on one of those, and no handshake is
accepted for the client. -/
theorem revoked_client_opens_none (P : Primitives) (rng : Randomness) (cfg : GatewayConfig)
    (serverKeys : KeyPair) (signingKey : Key) (db : List ClientConfig)
    (before after : List (Env × Gateway.Event)) (clientId : String) (env₀ : Env)
    (clients : List ClientConfig) {g₀ g : Gateway}
    (hg₀ : g₀ = runFrom (Gateway.step P rng cfg) (Gateway.new serverKeys signingKey (some db))
      (before ++ [(env₀, .reload clients)]))
    (hg : g = runFrom (Gateway.step P rng cfg) g₀ after)
    (hrevoked : Gateway.Revoked clientId clients)
    (hafter : ∀ e ∈ after, ∀ reloaded, e.2 = .reload reloaded → Gateway.Revoked clientId reloaded)
    (env : Env) (packetData : Bytes) (addr : SocketAddr) :
    (∀ sid ∈ g.sessionManager.sessions, (g.session sid).clientId = some clientId →
      Gateway.HeldAt g₀ clientId sid) ∧
    (∀ t plaintext, (Gateway.receivePacket P rng env packetData addr g).1 = .ok (t, plaintext) →
      t.isNewSession = false → (g.session t.sessionId).clientId = some clientId →
      Gateway.HeldAt g₀ clientId t.sessionId) ∧
    ∀ client, Gateway.authenticatedClient P rng env g packetData addr = some client →
      client.id ≠ clientId := by
  have hinv := Gateway.ownedInv_of_run P rng cfg serverKeys signingKey db
    (before ++ [(env₀, .reload clients)])
  have hdb : g₀.clientDb = some clients := by
    obtain ⟨_, hbefore, -⟩ := (Gateway.ownedInv_of_run P rng cfg serverKeys signingKey db before).db
    rw [hg₀, runFrom_append]
    show (runFrom (Gateway.step P rng cfg) _ before).clientDb.map (fun _ => clients) = some clients
    rw [hbefore]
    rfl
  rw [← hg₀] at hinv
  obtain ⟨hmap, howned, reloaded, hdb', hadmissible⟩ :=
    Gateway.Attributed.revoked hg hinv hdb hrevoked hafter
  -- a live session of the client is one that was held when the list without it was loaded
  have hlive : ∀ sid ∈ g.sessionManager.sessions, (g.session sid).clientId = some clientId →
      Gateway.HeldAt g₀ clientId sid := by
    intro sid hmem hclient
    obtain ⟨c, hheld, hid, -⟩ := howned sid hmem
    exact hheld (Option.some.inj (hid.symm.trans hclient))
  refine ⟨hlive, ?_, ?_⟩
  · intro t plaintext hok hnew hclient
    exact hlive _ (Gateway.accepted_mem hok hnew) hclient
  -- a new session is of a client that is enabled in the list, which this one is not
  · intro client hauth heq
    obtain ⟨hmem, henabled, -⟩ := @Gateway.handshake_session P rng cfg env packetData addr g
      reloaded client hmap hdb' hauth
    rw [hadmissible client hmem heq] at henabled
    cases henabled

/-- A data packet of the sample client under its ratcheted keys. -/
def sampleClientData : Bytes :=
  (buildZeroMdhPacket samplePrimitives 100 sampleDraw
    (sampleRatchetedKeys (some sampleClient.psk) 0) 1 (buildInnerPacket .data 0 [0x45]) none).1

/-- The sample client connects, and is removed from the database. -/
def sampleRevocation : List (Env × Gateway.Event) := sampleConnect ++ [(sampleEnv 100, .reload [])]

/-- What the revocation means for a data packet that arrives after the next cleanup. -/
theorem sampleRevocation_opens_none :
    let g₀ := runFrom (Gateway.step samplePrimitives sampleRandomness sampleConfig)
      (Gateway.new sampleServerKeys default (some [sampleClient])) sampleRevocation
    let g := runFrom (Gateway.step samplePrimitives sampleRandomness sampleConfig) g₀
      [(sampleEnv 100, .cleanup)]
    (∀ sid ∈ g.sessionManager.sessions, (g.session sid).clientId = some "client-1" →
      Gateway.HeldAt g₀ "client-1" sid) ∧
    (∀ t plaintext, (Gateway.receivePacket samplePrimitives sampleRandomness (sampleEnv 100)
        sampleClientData sampleAddr g).1 = .ok (t, plaintext) → t.isNewSession = false →
      (g.session t.sessionId).clientId = some "client-1" →
      Gateway.HeldAt g₀ "client-1" t.sessionId) ∧
    ∀ client, Gateway.authenticatedClient samplePrimitives sampleRandomness (sampleEnv 100) g
      sampleClientData sampleAddr = some client → client.id ≠ "client-1" := by
  intro g₀ g
  refine revoked_client_opens_none samplePrimitives sampleRandomness sampleConfig sampleServerKeys
    default [sampleClient] sampleConnect [(sampleEnv 100, .cleanup)] "client-1" (sampleEnv 100) []
    rfl rfl (fun _ hc => absurd hc List.not_mem_nil) ?_ (sampleEnv 100) sampleClientData sampleAddr
  intro e he reloaded hreload
  obtain rfl := List.mem_singleton.1 he
  cases hreload

/-- Behind the reload a data packet of the removed client is accepted on its session and written to
the TUN device. -/
theorem revoked_client_forwarded :
    let g := runFrom (Gateway.step samplePrimitives sampleRandomness sampleConfig)
      (Gateway.new sampleServerKeys default (some [sampleClient])) sampleRevocation
    let g' := (Gateway.handlePacket samplePrimitives sampleRandomness sampleConfig (sampleEnv 100)
      sampleClientData sampleAddr g).2
    g.clientDb = some [] ∧ (g.session 0).clientId = some "client-1" ∧
      (Gateway.receivePacket samplePrimitives sampleRandomness (sampleEnv 100) sampleClientData
        sampleAddr g).1 = .ok (⟨0, 1, false, false⟩, buildInnerPacket .data 0 [0x45]) ∧
      g'.effects.head? = some (.tunWrite [0x45]) := by
  decide +kernel

end Aivpn
