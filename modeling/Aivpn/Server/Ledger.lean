import Aivpn.Server.SessionMap
import Mathlib.Data.List.Nodup

/-!
# The ledger of encryptions

Every encryption of the server belongs to a session whose handshake was accepted. Such a session has
two keys, the initial one and the ratcheted one, and it uses the nonces of each in order: the pairs
of key and nonce it has used are those of the counters below its send counter, behind the ratchet
after those it used before (`Fits`). `ledger_of_run` says that this holds in every run of the
gateway, for all sessions ever established, removed ones included.
-/

set_option autoImplicit false

namespace Aivpn

open Aivpn.Lib

/-! ## Pairs of key and nonce -/

/-- The pairs of a key with the first `n` nonces, newest first. -/
def pairs (key : Key) (n : Nat) : List (Key × Nonce) :=
  ((List.range n).map fun i => (key, counterToNonce i)).reverse

@[simp] theorem pairs_zero (key : Key) : pairs key 0 = [] := rfl

theorem pairs_succ (key : Key) (n : Nat) :
    pairs key (n + 1) = (key, counterToNonce n) :: pairs key n := by
  simp [pairs, List.range_succ]

@[simp] theorem length_pairs (key : Key) (n : Nat) : (pairs key n).length = n := by
  simp [pairs]

theorem mem_pairs {key key' : Key} {nonce : Nonce} {n : Nat} :
    (key', nonce) ∈ pairs key n ↔ key' = key ∧ ∃ i < n, nonce = counterToNonce i := by
  simp only [pairs, List.mem_reverse, List.mem_map, List.mem_range, Prod.mk.injEq]
  constructor
  · rintro ⟨i, hi, rfl, rfl⟩
    exact ⟨rfl, i, hi, rfl⟩
  · rintro ⟨rfl, i, hi, rfl⟩
    exact ⟨i, hi, rfl, rfl⟩

/-- Up to `2 ^ 64` of them are distinct. -/
theorem nodup_pairs (key : Key) {n : Nat} (hn : n ≤ 2 ^ 64) : (pairs key n).Nodup := by
  rw [pairs, List.nodup_reverse]
  refine List.Nodup.map_on (fun i hi j hj heq => ?_) List.nodup_range
  rw [List.mem_range] at hi hj
  exact counterToNonce_inj (by omega) (by omega) (Prod.mk.inj heq).2


/-! ## The keys of an established session -/

namespace Established

variable (P : Primitives) (rng : Randomness) (serverKeys : KeyPair)

/-- The keys from DH1. -/
def initialKeys (e : Established) : SessionKeys :=
  P.deriveSessionKeys (P.x25519 serverKeys.privateKeyBytes e.ephPub) e.presharedKey e.ephPub

/-- The server's ephemeral key pair. -/
def serverEph (e : Established) : KeyPair := P.fromPrivateKey (rng.serverEph e.sessionId)

/-- The keys from DH2 under the initial session key. -/
def ratchetedKeys (e : Established) : SessionKeys :=
  P.deriveSessionKeys (P.x25519 (e.serverEph P rng).privateKeyBytes e.ephPub)
    (some (e.initialKeys P serverKeys).sessionKey) e.ephPub

/-- The key state before the ratchet. -/
def initialState (e : Established) (n : Nat) : KeyState where
  keys := e.initialKeys P serverKeys
  ephPub := e.ephPub
  sendCounter := n % 2 ^ 64
  serverEphPub := some (e.serverEph P rng).publicKeyBytes
  ratchetedKeys := some (e.ratchetedKeys P rng serverKeys)
  isRatcheted := false

/-- The key state behind the ratchet. -/
def ratchetedState (e : Established) (n : Nat) : KeyState where
  keys := e.ratchetedKeys P rng serverKeys
  ephPub := e.ephPub
  sendCounter := n % 2 ^ 64
  serverEphPub := none
  ratchetedKeys := none
  isRatcheted := true

/-- A key state with the pairs of key and nonce that go with it. -/
inductive Fits (e : Established) : KeyState → List (Key × Nonce) → Prop where
  | initial (n : Nat) :
      Fits e (e.initialState P rng serverKeys n) (pairs (e.initialKeys P serverKeys).sessionKey n)
  | ratcheted (n k : Nat) :
      Fits e (e.ratchetedState P rng serverKeys n)
        (pairs (e.ratchetedKeys P rng serverKeys).sessionKey n ++
          pairs (e.initialKeys P serverKeys).sessionKey k)

variable {P rng serverKeys}

theorem Fits.completeRatchet {e : Established} {s : Session} {used : List (Key × Nonce)}
    (h : e.Fits P rng serverKeys s.keyState used) :
    e.Fits P rng serverKeys s.completeRatchet.keyState used := by
  generalize hk : s.keyState = k at h
  cases h with
  | initial n =>
      have hkeys : s.ratchetedKeys = some (e.ratchetedKeys P rng serverKeys) :=
        congrArg KeyState.ratchetedKeys hk
      have heph : s.ephPub = e.ephPub := congrArg KeyState.ephPub hk
      have hstate : s.completeRatchet.keyState = e.ratchetedState P rng serverKeys 0 := by
        unfold Session.completeRatchet
        rw [hkeys]
        simp [Session.keyState, ratchetedState, heph]
      rw [hstate]
      exact Fits.ratcheted 0 n
  | ratcheted n j =>
      have hkeys : s.ratchetedKeys = none := congrArg KeyState.ratchetedKeys hk
      have hsame : s.completeRatchet = s := by
        unfold Session.completeRatchet
        rw [hkeys]
      rw [hsame, hk]
      exact Fits.ratcheted n j

/-- A packet uses the next nonce of the current key. -/
theorem Fits.send {e : Established} {s : Session} {used : List (Key × Nonce)}
    (h : e.Fits P rng serverKeys s.keyState used) :
    e.Fits P rng serverKeys s.nextSendNonce.2.2.keyState
      ((s.keys.sessionKey, s.nextSendNonce.1) :: used) := by
  have hnext : s.nextSendNonce.2.2.keyState =
      { s.keyState with sendCounter := wrappingAdd s.keyState.sendCounter 1 } := rfl
  have hpair : (s.keys.sessionKey, s.nextSendNonce.1) =
      (s.keyState.keys.sessionKey, counterToNonce s.keyState.sendCounter) := rfl
  rw [hnext, hpair]
  generalize s.keyState = k at h
  cases h with
  | initial n =>
      have hfits : e.Fits P rng serverKeys _ _ := Fits.initial (n + 1)
      rw [pairs_succ, ← counterToNonce_mod] at hfits
      simp only [initialState, wrappingAdd_mod] at hfits ⊢
      exact hfits
  | ratcheted n j =>
      have hfits : e.Fits P rng serverKeys _ _ := Fits.ratcheted (n + 1) j
      rw [pairs_succ, ← counterToNonce_mod] at hfits
      simp only [ratchetedState, wrappingAdd_mod, List.cons_append] at hfits ⊢
      exact hfits

variable (P rng serverKeys)

/-- The inner packets that the server sends in the session, with the key they go out under: a
ServerHello only under the initial one, with the session's own ephemeral key. -/
inductive Sent (e : Established) : Key → Bytes → Prop where
  | hello (signature : ByteArr 64) :
      Sent e (e.initialKeys P serverKeys).sessionKey ((InnerHeader.mk .control 0).encode ++
        (ControlPayload.serverHello (e.serverEph P rng).publicKeyBytes signature).encode)
  | control {key : Key} (hkey : key = (e.initialKeys P serverKeys).sessionKey ∨
      key = (e.ratchetedKeys P rng serverKeys).sessionKey) (seqNum : UInt16)
      {payload : ControlPayload} (hne : ∀ key signature, payload ≠ .serverHello key signature) :
      Sent e key ((InnerHeader.mk .control seqNum).encode ++ payload.encode)
  | data {key : Key} (hkey : key = (e.initialKeys P serverKeys).sessionKey ∨
      key = (e.ratchetedKeys P rng serverKeys).sessionKey) (seqNum : UInt16) (packet : Bytes) :
      Sent e key ((InnerHeader.mk .data seqNum).encode ++ packet)

variable {P rng serverKeys}

theorem Fits.sent {e : Established} {s : Session} {used : List (Key × Nonce)} {inner : Bytes}
    (h : e.Fits P rng serverKeys s.keyState used) (hinner : ServerInner s inner) :
    e.Sent P rng serverKeys s.keys.sessionKey inner := by
  have hkey : (s.keys.sessionKey = (e.initialKeys P serverKeys).sessionKey ∧
      s.serverEphPub = some (e.serverEph P rng).publicKeyBytes) ∨
      (s.keys.sessionKey = (e.ratchetedKeys P rng serverKeys).sessionKey ∧
        s.serverEphPub = none) := by
    have hkeys : s.keys = s.keyState.keys := rfl
    have heph : s.serverEphPub = s.keyState.serverEphPub := rfl
    rw [hkeys, heph]
    generalize s.keyState = k at h
    cases h with
    | initial n => exact Or.inl ⟨rfl, rfl⟩
    | ratcheted n k => exact Or.inr ⟨rfl, rfl⟩
  cases hinner with
  | @hello serverEphPub signature hpub hsig =>
      rcases hkey with ⟨hkey, heph⟩ | ⟨-, heph⟩
      · rw [heph] at hpub
        cases hpub
        rw [hkey]
        exact .hello signature
      · rw [heph] at hpub
        cases hpub
  | control seqNum hne => exact .control (hkey.imp And.left And.left) seqNum hne
  | data seqNum packet => exact .data (hkey.imp And.left And.left) seqNum packet

end Established

/-! ## The invariant -/

namespace SessionManager

/-- The pairs of key and nonce of a session's encryptions, newest first. -/
def usedPairs (calls : List EncryptCall) (sid : SessionId) : List (Key × Nonce) :=
  (calls.filter fun call => call.sessionId = sid).map fun call => (call.key, call.nonce)

/-- The records of the session manager fit the sessions. -/
structure Ledger (P : Primitives) (rng : Randomness) (serverKeys : KeyPair) (m : SessionManager) :
    Prop where
  staticKeys : m.serverKeys = serverKeys
  live : ∀ sid ∈ m.sessions, ∃ e ∈ m.established, e.sessionId = sid
  allocated : ∀ e ∈ m.established, e.sessionId < m.nextId
  distinct : (m.established.map Established.sessionId).Nodup
  calls : ∀ call ∈ m.encryptCalls, ∃ e ∈ m.established, e.sessionId = call.sessionId ∧
    ∃ inner padding, e.Sent P rng serverKeys call.key inner ∧ padding.length ≤ 16 ∧
      call.plaintext = padPlaintext inner padding
  fits : ∀ e ∈ m.established, e.Fits P rng serverKeys (m.heap e.sessionId).keyState
    (usedPairs m.encryptCalls e.sessionId)

variable {P : Primitives} {rng : Randomness} {serverKeys : KeyPair} {event : Env × Gateway.Event}

/-- A new session is in its initial key state. -/
theorem Creates.keyState {env : Env} {m : SessionManager} {ephPub : Key} {psk : Option Key}
    {s : Session} (h : m.Creates P rng env ephPub psk s) (hkeys : m.serverKeys = serverKeys) :
    s.keyState = (Established.mk m.nextId ephPub psk).initialState P rng serverKeys 0 := by
  obtain ⟨addr, dh1, dh2, vpnIp, hdh1, hdh2, rfl⟩ := h
  obtain rfl := computeShared_eq hdh1
  obtain rfl := computeShared_eq hdh2
  subst hkeys
  have hstate := m.initialSession_keyState P env addr ephPub
    (P.deriveSessionKeys (P.x25519 m.serverKeys.privateKeyBytes ephPub) psk ephPub)
    (P.fromPrivateKey (rng.serverEph m.nextId))
    (P.x25519 (P.fromPrivateKey (rng.serverEph m.nextId)).privateKeyBytes ephPub)
  unfold Established.initialState Established.ratchetedKeys Established.initialKeys
    Established.serverEph
  simp only [Nat.zero_mod]
  rw [← hstate]
  generalize m.initialSession P env addr ephPub _ _ _ = s
  rfl

/-- An established session is the only one with its id. -/
theorem Ledger.eq_of_sessionId {m : SessionManager} (h : m.Ledger P rng serverKeys)
    {e e' : Established} (he : e ∈ m.established) (he' : e' ∈ m.established)
    (hid : e.sessionId = e'.sessionId) : e = e' :=
  List.inj_on_of_nodup_map h.distinct he he' hid

theorem Ledger.change {m m' : SessionManager} (h : m.Ledger P rng serverKeys)
    (hch : Change P rng event m m') : m'.Ledger P rng serverKeys := by
  have hnext := hch.nextId_le
  have hsub := hch.sessions_subset
  -- either no packet is encrypted, or one is, under the current nonce of its session
  rcases hch.records_cases with ⟨hrec, hheap⟩ |
    ⟨sid, inner, padding, mdh, hlive, hinner, hpad, rfl⟩
  · simp only [records, Prod.mk.injEq] at hrec
    obtain ⟨hkeys, hest, hcalls⟩ := hrec
    refine ⟨hkeys.trans h.staticKeys, ?_, ?_, ?_, ?_, ?_⟩
    · rw [hest]
      exact fun sid hmem => h.live sid (hsub sid hmem)
    · rw [hest]
      exact fun e he => Nat.lt_of_lt_of_le (h.allocated e he) hnext
    · rw [hest]
      exact h.distinct
    · rw [hest, hcalls]
      exact h.calls
    · rw [hest, hcalls]
      intro e he
      rcases hheap e.sessionId (h.allocated e he) with hsame | hratchet
      · rw [hsame]
        exact h.fits e he
      -- a ratchet starts the numbering again, under keys that no packet was sent under
      · rw [hratchet]
        exact (h.fits e he).completeRatchet
  · obtain ⟨e₀, he₀, rfl⟩ := h.live sid hlive
    have hfits₀ := h.fits e₀ he₀
    refine ⟨h.staticKeys, h.live, h.allocated, h.distinct, ?_, ?_⟩
    · intro call hcall
      rcases List.mem_cons.1 hcall with rfl | hold
      · exact ⟨e₀, he₀, rfl, inner, padding, hfits₀.sent hinner, hpad, rfl⟩
      · exact h.calls call hold
    -- only the session that encrypts has a new pair
    · intro e he
      show e.Fits P rng serverKeys (Function.update m.heap e₀.sessionId _ e.sessionId).keyState
        (usedPairs (_ :: m.encryptCalls) e.sessionId)
      by_cases hid : e.sessionId = e₀.sessionId
      · obtain rfl := h.eq_of_sessionId he he₀ hid
        rw [Function.update_self, usedPairs, List.filter_cons_of_pos (by simp)]
        exact hfits₀.send
      · rw [Function.update_of_ne hid, usedPairs,
          List.filter_cons_of_neg (by simpa using Ne.symm hid)]
        exact h.fits e he

theorem Ledger.opens {m m' : SessionManager} {ephPub : Key} {psk : Option Key}
    (h : m.Ledger P rng serverKeys) (hopen : m.Opens P rng event m' ephPub psk) :
    m'.Ledger P rng serverKeys := by
  have hrec := hopen.records
  simp only [SessionManager.records, Prod.mk.injEq] at hrec
  obtain ⟨hkeys, hest, hcalls⟩ := hrec
  have hheap := hopen.heap_cases
  obtain ⟨addr, ip, sid, m₁, hnew, rfl⟩ := hopen
  obtain ⟨hsessions, hnext, rfl⟩ := createSession_sessions hnew
  -- no packet was sent for an id that is not drawn yet
  have hfresh : usedPairs m.encryptCalls m.nextId = [] := by
    rw [usedPairs, List.map_eq_nil_iff, List.filter_eq_nil_iff]
    intro call hcall
    obtain ⟨e, he, hid, -⟩ := h.calls call hcall
    have hlt := h.allocated e he
    simp only [decide_eq_true_eq]
    exact fun heq => Nat.ne_of_lt hlt (hid.trans heq)
  refine ⟨hkeys.trans h.staticKeys, ?_, ?_, ?_, ?_, ?_⟩
  · rw [hest]
    intro sid hmem
    obtain ⟨hmem, -⟩ := mem_establish.1 hmem
    rw [hsessions, List.mem_append, List.mem_singleton] at hmem
    rcases hmem with hold | rfl
    · obtain ⟨e, he, hid⟩ := h.live sid hold
      exact ⟨e, List.mem_cons_of_mem _ he, hid⟩
    · exact ⟨_, List.mem_cons_self, rfl⟩
  · rw [hest, establish_nextId, hnext]
    intro e he
    rcases List.mem_cons.1 he with rfl | hold
    · exact Nat.lt_succ_self _
    · exact Nat.lt_succ_of_lt (h.allocated e hold)
  · rw [hest, List.map_cons, List.nodup_cons]
    refine ⟨fun hmem => ?_, h.distinct⟩
    obtain ⟨e, he, hid⟩ := List.mem_map.1 hmem
    exact Nat.ne_of_lt (h.allocated e he) hid
  · rw [hest, hcalls]
    intro call hcall
    obtain ⟨e, he, hsent⟩ := h.calls call hcall
    exact ⟨e, List.mem_cons_of_mem _ he, hsent⟩
  · rw [hest, hcalls]
    intro e he
    rcases List.mem_cons.1 he with rfl | hold
    -- the keys of the new session have not been used
    · rcases hheap m.nextId with ⟨hne, -⟩ | ⟨-, hcreates⟩
      · exact absurd rfl hne
      · rw [hfresh, hcreates.keyState h.staticKeys]
        exact .initial 0
    · have hne : e.sessionId ≠ m.nextId := Nat.ne_of_lt (h.allocated e hold)
      rcases hheap e.sessionId with ⟨-, hsame⟩ | ⟨heq, -⟩
      · rw [hsame]
        exact h.fits e hold
      · exact absurd heq hne

end SessionManager

/-- In every run of the gateway the records fit the sessions. -/
theorem ledger_of_run (P : Primitives) (rng : Randomness) (cfg : GatewayConfig)
    (serverKeys : KeyPair) (signingKey : Key) (clientDb : Option (List ClientConfig))
    (es : List (Env × Gateway.Event)) :
    (runFrom (Gateway.step P rng cfg) (Gateway.new serverKeys signingKey clientDb)
      es).sessionManager.Ledger P rng serverKeys := by
  refine Gateway.runFrom_of_change P rng cfg ?_ (fun _ _ _ h hch => h.change hch)
    (fun _ _ _ _ _ h hopen => h.opens hopen) es
  refine ⟨rfl, ?_, ?_, List.nodup_nil, ?_, ?_⟩
  · intro sid hmem
    cases hmem
  · intro e he
    cases he
  · intro call hcall
    cases hcall
  · intro e he
    cases he

end Aivpn
