import Aivpn.Server.LateInit
import Aivpn.Server.Ledger
import Aivpn.Server.TagCache

/-!
# The ratchet is one way

A session ratchets on a datagram that decrypts under its pending keys, and on no other. From then on
it offers no keys, and it accepts no datagram that is tagged or encrypted under its initial keys
(`ratchet_safety`). The second part needs the provenance of the cached tags: refreshes, recoveries
and the ratchet itself rebuild the tag tables, and each of them from the keys the session has now.
-/

set_option autoImplicit false

namespace Aivpn

open Aivpn.Lib

/-- The session has ratcheted, and nothing of the ratchet is left to be used. -/
structure Session.Ratcheted (s : Session) : Prop where
  isRatcheted : s.isRatcheted = true
  ratchetedKeys : s.ratchetedKeys = none
  ratchetedExpectedTags : s.ratchetedExpectedTags = []
  serverEphPub : s.serverEphPub = none

/-- What a lookup in windows of `W` computes tags for under the current keys of the session. -/
def Session.currentTriples (W : Set Nat) (s : Session) : Set (Key × Nat × Nat) :=
  { x | x.1 = s.keys.tagSecret ∧ x.2.1 ∈ s.lookupCounters ∧ x.2.2 ∈ W }

/-- The bytes behind the 4-byte header are a ciphertext under `key`, with or without an embedded
client key in front. -/
def EncryptedUnder (P : Primitives) (key : Key) (packetData : Bytes) : Prop :=
  ∃ embedded nonce plaintext, (embedded.length = 0 ∨ embedded.length = 32) ∧
    packetData.drop (tagSize + mdhLen) = embedded ++ P.encrypt key nonce plaintext

/-- A ciphertext under `key` does not authenticate under `key'`, with or without an embedded client
key in front. -/
def Primitives.KeySeparating (P : Primitives) (key key' : Key) : Prop :=
  ∀ embedded nonce nonce' plaintext, embedded.length = 0 ∨ embedded.length = 32 →
    P.decrypt key' nonce' (embedded ++ P.encrypt key nonce plaintext) = none

namespace SessionManager

variable {P : Primitives} {rng : Randomness} {e : Env × Gateway.Event}

theorem Opens.nextId {m m' : SessionManager} {ephPub : Key} {psk : Option Key}
    (h : m.Opens P rng e m' ephPub psk) : m'.nextId = m.nextId + 1 := by
  obtain ⟨addr, ip, sid, m₁, hnew, rfl⟩ := h
  rw [establish_nextId, (createSession_sessions hnew).2.1]

/-! ## Cells without a session -/

/-- A cell that holds no session has no keys to ratchet to. -/
def FreshCells (m : SessionManager) : Prop :=
  ∀ sid, m.nextId ≤ sid → (m.heap sid).ratchetedKeys = none ∧ (m.heap sid).isRatcheted = false

theorem FreshCells.change {m m' : SessionManager} (h : m.FreshCells) (hch : Change P rng e m m') :
    m'.FreshCells := by
  intro sid hsid
  have hcell := h sid (Nat.le_trans hch.nextId_le hsid)
  rcases hch.heap_cases sid with heq | hs | ⟨ephPub, psk, -, hlt, -⟩
  · rw [heq]
    exact hcell
  · rcases hs.ratchet_cases with ⟨-, hkeys, hratcheted⟩ | ⟨keys, hkeys, -, -⟩
    · rw [hkeys, hratcheted]
      exact hcell
    · rw [hcell.1] at hkeys
      cases hkeys
  · exact absurd hlt (Nat.not_lt.2 hsid)

theorem FreshCells.opens {m m' : SessionManager} {ephPub : Key} {psk : Option Key}
    (h : m.FreshCells) (hopen : m.Opens P rng e m' ephPub psk) : m'.FreshCells := by
  intro sid hsid
  rw [hopen.nextId] at hsid
  rcases hopen.heap_cases sid with ⟨-, heq⟩ | ⟨rfl, -⟩
  · rw [heq]
    exact h sid (Nat.le_of_succ_le hsid)
  · exact absurd hsid (Nat.not_succ_le_self _)

/-! ## Once ratcheted, always ratcheted -/

/-- The session exists and has ratcheted. -/
def HasRatcheted (sid : SessionId) (m : SessionManager) : Prop :=
  sid < m.nextId ∧ (m.heap sid).isRatcheted = true

theorem HasRatcheted.change {sid : SessionId} {m m' : SessionManager} (h : m.HasRatcheted sid)
    (hch : Change P rng e m m') : m'.HasRatcheted sid := by
  refine ⟨Nat.lt_of_lt_of_le h.1 hch.nextId_le, ?_⟩
  rcases hch.heap_cases sid with heq | hs | ⟨ephPub, psk, rfl, -, -⟩
  · rw [heq]
    exact h.2
  · rcases hs.ratchet_cases with ⟨-, -, hratcheted⟩ | ⟨keys, hkeys, -, heq⟩
    · rw [hratcheted]
      exact h.2
    · rw [heq]
      exact (Session.completeRatchet_of_pending hkeys).2.2
  · exact absurd h.1 (Nat.lt_irrefl _)

theorem HasRatcheted.opens {sid : SessionId} {m m' : SessionManager} {ephPub : Key}
    {psk : Option Key} (h : m.HasRatcheted sid) (hopen : m.Opens P rng e m' ephPub psk) :
    m'.HasRatcheted sid := by
  refine ⟨by rw [hopen.nextId]; exact Nat.lt_succ_of_lt h.1, ?_⟩
  rcases hopen.heap_cases sid with ⟨-, heq⟩ | ⟨rfl, -⟩
  · rw [heq]
    exact h.2
  · exact absurd h.1 (Nat.lt_irrefl _)

/-! ## The step in which a session ratchets -/

/-- Within a step from `m₀` that handles `e`: the session has not ratcheted and still has the
pending keys of `m₀`, or it has ratcheted to these keys on the datagram of `e`. -/
def RatchetsOn (P : Primitives) (e : Env × Gateway.Event) (m₀ : SessionManager) (sid : SessionId)
    (m : SessionManager) : Prop :=
  m₀.nextId ≤ m.nextId ∧
  (((m.heap sid).isRatcheted = false ∧ (sid < m₀.nextId →
    (m.heap sid).ratchetedKeys = (m₀.heap sid).ratchetedKeys)) ∨
  ∃ keys, e.2.DecryptsUnder P keys.sessionKey ∧ (m.heap sid).keys = keys ∧
    (m.heap sid).ratchetedKeys = none ∧
    (sid < m₀.nextId → (m₀.heap sid).ratchetedKeys = some keys))

theorem Creates.not_ratcheted {env : Env} {m : SessionManager} {ephPub : Key} {psk : Option Key}
    {s : Session} (h : m.Creates P rng env ephPub psk s) : s.isRatcheted = false :=
  congrArg KeyState.isRatcheted (h.keyState rfl)

theorem RatchetsOn.change {m₀ m m' : SessionManager} {sid : SessionId}
    (h : RatchetsOn P e m₀ sid m) (hch : Change P rng e m m') : RatchetsOn P e m₀ sid m' := by
  refine ⟨Nat.le_trans h.1 hch.nextId_le, ?_⟩
  rcases hch.heap_cases sid with heq | hs | ⟨ephPub, psk, rfl, -, hnew⟩
  · rw [heq]
    exact h.2
  · rcases hs.ratchet_cases with ⟨hkeys, hpending, hratcheted⟩ | ⟨keys, hkeys, hopens, heq⟩
    · rw [hkeys, hpending, hratcheted]
      exact h.2
    · obtain ⟨hnew, hnone, -⟩ := Session.completeRatchet_of_pending hkeys
      rw [heq]
      rcases h.2 with ⟨-, hsame⟩ | ⟨keys', -, -, hpending, -⟩
      · exact Or.inr ⟨keys, hopens, hnew, hnone, fun hlt => (hsame hlt).symm.trans hkeys⟩
      · rw [hpending] at hkeys
        cases hkeys
  · refine Or.inl ⟨hnew.not_ratcheted, fun hlt => ?_⟩
    exact absurd hlt (Nat.not_lt.2 h.1)

theorem RatchetsOn.opens {m₀ m m' : SessionManager} {sid : SessionId} {ephPub : Key}
    {psk : Option Key} (h : RatchetsOn P e m₀ sid m) (hopen : m.Opens P rng e m' ephPub psk) :
    RatchetsOn P e m₀ sid m' := by
  refine ⟨Nat.le_trans h.1 (by rw [hopen.nextId]; exact Nat.le_succ _), ?_⟩
  rcases hopen.heap_cases sid with ⟨-, heq⟩ | ⟨rfl, hnew⟩
  · rw [heq]
    exact h.2
  · refine Or.inl ⟨hnew.not_ratcheted, fun hlt => ?_⟩
    exact absurd hlt (Nat.not_lt.2 h.1)

end SessionManager

namespace Gateway

open Action

variable (P : Primitives) (rng : Randomness) (cfg : GatewayConfig)

/-- `handle_packet` accepts the datagram for session `sid`: it goes on to the inner packet. -/
def Accepts (env : Env) (g : Gateway) (packetData : Bytes) (addr : SocketAddr) (sid : SessionId) :
    Prop :=
  ∃ t plaintext, (receivePacket P rng env packetData addr g).1 = .ok (t, plaintext) ∧
    t.sessionId = sid

variable {P rng cfg}

/-- The session that a datagram creates is a new one. -/
theorem identify_new {env : Env} {packetData : Bytes} {addr : SocketAddr} {g g' : Gateway}
    {t : TagMatch} (h : identify P rng env packetData addr g = (.ok t, g'))
    (hnew : t.isNewSession = true) : g.sessionManager.nextId ≤ t.sessionId := by
  unfold identify at h
  have hnext := (g.sessionManager.findSession_map P env (readArray 8 0 packetData) addr.ip).2.2
  rcases hfs : g.sessionManager.findSession P env (readArray 8 0 packetData) addr.ip with ⟨r, m⟩
  rw [hfs] at hnext
  rcases r with err | _ | ⟨sid, counter, isRatcheted⟩
  · rw [bind_of_error (managerExcept_of_error hfs)] at h
    cases h
  · rw [bind_of_ok (managerExcept_of_ok hfs)] at h
    rw [← hnext]
    exact (handshake_opens P rng ⟨false, default, []⟩ env h).1
  · rw [bind_of_ok (managerExcept_of_ok hfs)] at h
    cases h
    cases hnew

/-- A datagram accepted for an existing session was found by the lookup chain, and decrypts. -/
theorem Accepts.found {env : Env} {g : Gateway} {packetData : Bytes} {addr : SocketAddr}
    {sid : SessionId} (h : Accepts P rng env g packetData addr sid)
    (hsid : sid < g.sessionManager.nextId) :
    ∃ c r m padded, g.sessionManager.findSession P env (readArray 8 0 packetData) addr.ip =
        (.ok (some (sid, c, r)), m) ∧
      decryptDatagram P (m.heap sid) ⟨sid, c, r, false⟩ packetData = .ok padded := by
  obtain ⟨t, plaintext, hok, rfl⟩ := h
  have hlen : ¬ packetData.length < tagSize + 2 := by
    intro hshort
    rw [receivePacket_short P rng env hshort addr g] at hok
    cases hok
  rcases hr : receivePacket P rng env packetData addr g with ⟨r, g'⟩
  rw [hr] at hok
  obtain ⟨hid, padded, hdec⟩ := (receivePacket_cases P rng env hlen hr).2 t plaintext hok
  rcases hid' : identify P rng env packetData addr g with ⟨r', g₁⟩
  rw [hid'] at hid hdec
  subst hid
  have hnew : t.isNewSession = false := by
    rw [← Bool.not_eq_true]
    intro hnew
    exact absurd hsid (Nat.not_lt.2 (identify_new hid' hnew))
  obtain ⟨m, hfs, rfl⟩ := identify_found P rng env hid' hnew
  obtain ⟨sid, c, r, isNew⟩ := t
  cases hnew
  exact ⟨c, r, m, padded, hfs, hdec⟩

/-- An accepted datagram for a ratcheted session is tagged and encrypted under its current keys. -/
theorem Accepts.of_ratcheted {env : Env} {g : Gateway} {packetData : Bytes} {addr : SocketAddr}
    {sid : SessionId} {W : Set Nat} (h : Accepts P rng env g packetData addr sid)
    (hsid : g.sessionManager.HasRatcheted sid) (hsound : (g.session sid).CacheSound P W)
    (hnear : ∀ w ∈ nearWindows env.timeWindow, w ∈ W) :
    sid ∈ g.sessionManager.sessions ∧
    (∃ c, (g.session sid).HasTag P W (readArray 8 0 packetData) c false) ∧
    ∃ nonce, P.decrypt (g.session sid).keys.sessionKey nonce
      (packetData.drop (tagSize + mdhLen)) ≠ none := by
  obtain ⟨c, r, m, padded, hfs, hdec⟩ := h.found hsid.1
  have hstate := g.sessionManager.findSession_keyState P env (readArray 8 0 packetData) addr.ip sid
  rw [hfs] at hstate
  obtain rfl : r = false := SessionManager.findSession_of_isRatcheted hfs hsid.2
  refine ⟨SessionManager.findSession_mem P hfs,
    ⟨c, SessionManager.findSession_hasTag hsound hnear hfs⟩, ?_⟩
  by_contra hnone
  push Not at hnone
  have hkeys : (m.heap sid).keys = (g.session sid).keys := congrArg KeyState.keys hstate
  have hratcheted : (m.heap sid).isRatcheted = true :=
    (congrArg KeyState.isRatcheted hstate).trans hsid.2
  exact decryptDatagram_ratcheted P hratcheted rfl rfl (hkeys ▸ hnone) hdec

end Gateway

/-- In every run of the gateway cells without a session have no keys to ratchet to. -/
theorem freshCells_of_run (P : Primitives) (rng : Randomness) (cfg : GatewayConfig)
    (serverKeys : KeyPair) (signingKey : Key) (clientDb : Option (List ClientConfig))
    (es : List (Env × Gateway.Event)) :
    (runFrom (Gateway.step P rng cfg) (Gateway.new serverKeys signingKey clientDb)
      es).sessionManager.FreshCells := by
  refine Gateway.runFrom_of_change P rng cfg ?_ (fun _ _ _ h hch => h.change hch)
    (fun _ _ _ _ _ h hopen => h.opens hopen) es
  exact fun _ _ => ⟨rfl, rfl⟩

/-- A ratcheted session has its ratcheted keys, and no others left. -/
theorem Established.Fits.ratcheted_keys {P : Primitives} {rng : Randomness} {serverKeys : KeyPair}
    {record : Established} {s : Session} {used : List (Key × Nonce)}
    (h : record.Fits P rng serverKeys s.keyState used) (hratcheted : s.isRatcheted = true) :
    s.keys = record.ratchetedKeys P rng serverKeys := by
  have hkeys : s.keys = s.keyState.keys := rfl
  have hstage : s.keyState.isRatcheted = true := hratcheted
  rw [hkeys]
  generalize s.keyState = k at h hstage
  cases h with
  | initial n => cases hstage
  | ratcheted n j => rfl

/-- A tag of the current keys is not a tag of another secret, when tags do not collide. -/
theorem Session.HasTag.ne_of_collisionFree {P : Primitives} {W : Set Nat} {s : Session} {tag : Tag}
    {c c' w' : Nat} {secret : Key} (h : s.HasTag P W tag c false)
    (hsecret : secret ≠ s.keys.tagSecret)
    (hfree : P.CollisionFree (insert (secret, c', w') (s.currentTriples W))) :
    tag ≠ P.generateResonanceTag secret c' w' := by
  rintro rfl
  cases h with
  | @current w hc hw htag =>
      have hmem : (s.keys.tagSecret, c, w) ∈ insert (secret, c', w') (s.currentTriples W) :=
        Set.mem_insert_of_mem _ ⟨rfl, hc, hw⟩
      have heq := hfree hmem (Set.mem_insert _ _) htag
      exact hsecret (congrArg Prod.fst heq).symm

/-- The ratchet is safe in every run of the gateway. A session ratchets only on a datagram that
decrypts under the pending keys it has. Whatever happens afterwards, it stays ratcheted with no
pending keys, no pending tags and no ServerHello, and a datagram it accepts is neither tagged nor
encrypted under its initial keys. Tags of distinct keys are assumed not to collide among those that
the lookup computes, and a ciphertext under the initial key not to authenticate under the
ratcheted one. -/
theorem ratchet_safety (P : Primitives) (rng : Randomness) (cfg : GatewayConfig)
    (serverKeys : KeyPair) (signingKey : Key) (clientDb : Option (List ClientConfig))
    (es : List (Env × Gateway.Event)) (sid : SessionId) {g : Gateway}
    (hg : g = runFrom (Gateway.step P rng cfg) (Gateway.new serverKeys signingKey clientDb) es) :
    (∀ e, (g.session sid).isRatcheted = false →
      ((Gateway.step P rng cfg g e).session sid).isRatcheted = true →
      ∃ keys, (sid < g.sessionManager.nextId → (g.session sid).ratchetedKeys = some keys) ∧
        e.2.DecryptsUnder P keys.sessionKey ∧
        ((Gateway.step P rng cfg g e).session sid).keys = keys) ∧
    ((g.session sid).isRatcheted = true →
      ∀ fs g', g' = runFrom (Gateway.step P rng cfg) g fs →
      (g'.session sid).Ratcheted ∧
      ∀ env packetData addr, Gateway.Accepts P rng env g' packetData addr sid →
        ∃ record ∈ g'.sessionManager.established, record.sessionId = sid ∧
          (∀ c w, (record.initialKeys P serverKeys).tagSecret ≠
              (record.ratchetedKeys P rng serverKeys).tagSecret →
            P.CollisionFree (insert ((record.initialKeys P serverKeys).tagSecret, c, w)
              ((g'.session sid).currentTriples (Gateway.windowsOf (es ++ fs) ∪
                { w | w ∈ nearWindows env.timeWindow }))) →
            readArray 8 0 packetData ≠
              P.generateResonanceTag (record.initialKeys P serverKeys).tagSecret c w) ∧
          (P.KeySeparating (record.initialKeys P serverKeys).sessionKey
              (record.ratchetedKeys P rng serverKeys).sessionKey →
            ¬ EncryptedUnder P (record.initialKeys P serverKeys).sessionKey packetData)) := by
  have hcells : g.sessionManager.FreshCells := by
    rw [hg]
    exact freshCells_of_run P rng cfg serverKeys signingKey clientDb es
  constructor
  · intro e hbefore hafter
    have hstep := @Gateway.step_of_change P rng cfg e
      (SessionManager.RatchetsOn P e g.sessionManager sid) g
      ⟨Nat.le_refl _, Or.inl ⟨hbefore, fun _ => rfl⟩⟩ (fun _ _ h hch => h.change hch)
      (fun _ _ _ _ h hopen => h.opens hopen)
    rcases hstep.2 with ⟨hnot, -⟩ | ⟨keys, hopens, hkeys, -, hpending⟩
    · exact absurd (hnot.symm.trans hafter) Bool.false_ne_true
    · exact ⟨keys, hpending, hopens, hkeys⟩
  · intro hratcheted fs g' hg'
    have hsid : g.sessionManager.HasRatcheted sid := by
      refine ⟨?_, hratcheted⟩
      by_contra hlt
      have hcell := (hcells sid (Nat.le_of_not_lt hlt)).2
      exact Bool.false_ne_true (hcell.symm.trans hratcheted)
    have hsid' : g'.sessionManager.HasRatcheted sid := by
      rw [hg']
      exact Gateway.runFrom_of_change P rng cfg hsid (fun _ _ _ h hch => h.change hch)
        (fun _ _ _ _ _ h hopen => h.opens hopen) fs
    -- the state reached is the end of one run, so the invariants of runs hold there
    have hrun : g' = runFrom (Gateway.step P rng cfg)
        (Gateway.new serverKeys signingKey clientDb) (es ++ fs) := by
      rw [hg', hg, runFrom_append]
    have hsound : (g'.session sid).CacheSound P (Gateway.windowsOf (es ++ fs)) := by
      rw [hrun]
      exact cacheSound_of_run P rng cfg serverKeys signingKey clientDb (es ++ fs) sid
    have hledger : g'.sessionManager.Ledger P rng serverKeys := by
      rw [hrun]
      exact ledger_of_run P rng cfg serverKeys signingKey clientDb (es ++ fs)
    obtain ⟨hnone, hhello⟩ := hsound.ratcheted hsid'.2
    refine ⟨⟨hsid'.2, hnone, hsound.pending_eq_nil hnone, hhello⟩, ?_⟩
    intro env packetData addr haccepts
    obtain ⟨hlive, ⟨c', htag⟩, nonce, hdec⟩ := haccepts.of_ratcheted hsid'
      (hsound.mono Set.subset_union_left) (fun w hw => Or.inr hw)
    obtain ⟨record, hrecord, hid⟩ := hledger.live sid hlive
    have hkeys : (g'.session sid).keys = record.ratchetedKeys P rng serverKeys := by
      subst hid
      exact (hledger.fits record hrecord).ratcheted_keys hsid'.2
    refine ⟨record, hrecord, hid, fun c w hne hfree => ?_, fun hsep hencrypted => ?_⟩
    · exact htag.ne_of_collisionFree (by rwa [hkeys]) hfree
    · obtain ⟨embedded, nonce', plaintext, hlen, heq⟩ := hencrypted
      rw [heq, hkeys] at hdec
      exact hdec (hsep embedded nonce' nonce plaintext hlen)

/-! ## The sample client behind its ratchet -/

/-- The sample AEAD marks the first two bytes of the key. -/
theorem samplePrimitives_keySeparating {key key' : Key}
    (h : key.toList.take 2 ≠ key'.toList.take 2) : samplePrimitives.KeySeparating key key' := by
  intro embedded nonce nonce' plaintext _
  refine samplePrimitives_decrypt_eq_none ?_ nonce'
  have hdrop : ∀ front : Bytes, (front ++ (key.toList.take 2 ++ leBytes 2 plaintext.length ++
      nonce.toList)).drop ((front ++ (key.toList.take 2 ++ leBytes 2 plaintext.length ++
        nonce.toList)).length - 16) =
      key.toList.take 2 ++ leBytes 2 plaintext.length ++ nonce.toList := by
    intro front
    have hlen : (front ++ (key.toList.take 2 ++ leBytes 2 plaintext.length ++
        nonce.toList)).length - 16 = front.length := by
      simp
    rw [hlen, List.drop_left]
  have happend : embedded ++ samplePrimitives.encrypt key nonce plaintext =
      (embedded ++ plaintext) ++
        (key.toList.take 2 ++ leBytes 2 plaintext.length ++ nonce.toList) := by
    simp [samplePrimitives]
  rw [happend, hdrop]
  simpa using h

/-- The sample client has ratcheted on its keepalive. A copy of its init datagram, tagged and
encrypted under the initial keys, is not accepted for the session any more. -/
theorem sampleRatcheted_safe :
    let keepalive := (sampleEnv 100,
      Gateway.Event.packet (sampleKeepalive (some sampleClient.psk)) sampleAddr)
    let initial := sampleInitialKeys (some sampleClient.psk)
    let ratcheted := sampleRatchetedKeys (some sampleClient.psk) 0
    keepalive.2.DecryptsUnder samplePrimitives ratcheted.sessionKey ∧
    (sampleRatcheted.session 0).Ratcheted ∧
    initial.tagSecret ≠ ratcheted.tagSecret ∧
    samplePrimitives.KeySeparating initial.sessionKey ratcheted.sessionKey ∧
    ¬ Gateway.Accepts samplePrimitives sampleRandomness (sampleEnv 101) sampleRatcheted
      (sampleClientInit.bytes samplePrimitives sampleServerKeys) sampleAddr 0 := by
  intro keepalive initial ratcheted
  have hsecrets : initial.tagSecret ≠ ratcheted.tagSecret := by decide +kernel
  have hsep : samplePrimitives.KeySeparating initial.sessionKey ratcheted.sessionKey :=
    samplePrimitives_keySeparating (by decide +kernel)
  obtain ⟨hratchets, -⟩ := ratchet_safety samplePrimitives sampleRandomness sampleConfig
    sampleServerKeys default (some [sampleClient]) [(sampleEnv 100, .packet
      (sampleClientInit.bytes samplePrimitives sampleServerKeys) sampleAddr)] 0 rfl
  obtain ⟨keys, hpending, hopens, hkeys⟩ := hratchets keepalive (by decide +kernel)
    (by decide +kernel)
  have hpending' := hpending (by decide +kernel)
  obtain ⟨-, hstays⟩ := ratchet_safety samplePrimitives sampleRandomness sampleConfig
    sampleServerKeys default (some [sampleClient]) sampleConnect 0 (g := sampleRatcheted) rfl
  obtain ⟨hstate, haccepts⟩ := hstays (by decide +kernel) [] sampleRatcheted
    (by simp only [runFrom])
  refine ⟨?_, hstate, hsecrets, hsep, fun h => ?_⟩
  · have heq : ratcheted = keys := by
      refine Option.some.inj (Eq.trans ?_ hpending')
      decide +kernel
    rw [heq]
    exact hopens
  · obtain ⟨record, hrecord, -, htag, -⟩ := haccepts _ _ _ h
    have hall : ∀ record ∈ sampleRatcheted.sessionManager.established,
        record.initialKeys samplePrimitives sampleServerKeys = initial ∧
        record.ratchetedKeys samplePrimitives sampleRandomness sampleServerKeys = ratcheted := by
      decide +kernel
    obtain ⟨hinitial, hratcheted⟩ := hall record hrecord
    rw [hinitial, hratcheted] at htag
    refine htag 0 100 hsecrets ?_ (by decide +kernel)
    have hfree : samplePrimitives.CollisionFree
        (smallTriples [initial.tagSecret, ratcheted.tagSecret]) :=
      samplePrimitives_collisionFree (by decide +kernel)
    refine hfree.mono ?_
    -- all counters and windows of the sample are small
    have hwindow : (sampleRatcheted.session 0).counter = 0 ∧
        (sampleRatcheted.session 0).tagWindowBase = 0 ∧
        (sampleRatcheted.session 0).keys.tagSecret = ratcheted.tagSecret := by decide +kernel
    rintro x (rfl | ⟨hsecret, hc, hw⟩)
    · exact ⟨List.mem_cons_self, by decide, by decide⟩
    · refine ⟨?_, ?_, ?_⟩
      · rw [hsecret, hwindow.2.2]
        exact List.mem_cons_of_mem _ List.mem_cons_self
      · exact Nat.lt_trans (Session.lt_of_mem_lookupCounters (Nat.le_of_eq hwindow.1)
          (Nat.le_of_eq hwindow.2.1) hc) (by decide)
      · rcases hw with ⟨e, he, hw⟩ | hw
        · have hsmall : ∀ e ∈ sampleConnect ++ [], e.1.timeWindow < 2 ^ 24 := by decide +kernel
          exact hw ▸ hsmall e he
        · have hsmall : ∀ w ∈ nearWindows (sampleEnv 101).timeWindow, w < 2 ^ 24 := by
            decide +kernel
          exact hsmall _ hw

end Aivpn
