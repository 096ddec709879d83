import Aivpn.Client.Mimicry
import Aivpn.Server.AuthFailure
import Aivpn.Server.LookupComplete

/-!
# From a client's builder to the inner packet

A datagram does not say where its ciphertext begins. The clients put it behind a 4-byte header, or
behind the header and an embedded key; `handle_packet` guesses from the phase of the session and the
length of the datagram. `delivered_iff` says which datagrams of the clients reach
`process_inner_payload` as they were built. Before the ratchet a datagram of 60 bytes or more is
taken for a retransmitted handshake, so data packets are lost (`data_before_ratchet_lost`).
-/

set_option autoImplicit false

namespace Aivpn

open Aivpn.Lib Action

/-- Padding is undone by `handle_packet`. -/
theorem stripPadding_padPlaintext (inner : Bytes) {padding : Bytes}
    (hpad : padding.length < 65536) : stripPadding (padPlaintext inner padding) = .ok inner := by
  unfold stripPadding
  simp only [leNat_take_padPlaintext _ hpad, drop_take_padPlaintext]
  rw [length_padPlaintext, if_neg (by omega), if_neg (by omega)]

/-! ## The session of a datagram -/

section

variable (P : Primitives)

/-- The tags that a session can validate in time window `tw` once its tag windows are fresh. -/
def Session.tagsAround (tw : Nat) (s : Session) : List Tag :=
  [tw, wrappingPred tw, wrappingAdd tw 1].flatMap fun w =>
    (s.windowCounters.map fun c => P.generateResonanceTag s.keys.tagSecret c w) ++
      match s.ratchetedKeys with
      | some ratchetedKeys => (List.range tagWindowSize).map fun c =>
          P.generateResonanceTag ratchetedKeys.tagSecret c w
      | none => []

/-- No other session has the tag, and in session `sid` it belongs to the counter `c` of the current
keys alone. This is what freedom from collisions means for one tag. -/
structure TagUnique (tw : Nat) (m : SessionManager) (sid : SessionId) (c : Nat) (tag : Tag) :
    Prop where
  others : ∀ other ∈ m.sessions, other ≠ sid →
    tag ∉ (m.heap other).cachedTags ∧ tag ∉ (m.heap other).tagsAround P tw
  cached : ∀ e ∈ (m.heap sid).expectedTags, e.2 = tag → e.1 = c
  pending : tag ∉ (m.heap sid).pendingTags
  window : ∀ c' ∈ (m.heap sid).windowCounters,
    P.generateResonanceTag (m.heap sid).keys.tagSecret c' tw = tag → c' = c

namespace Session

variable {P}

/-- A session with fresh tag windows does not validate a tag that is not around. -/
theorem validateTag_refresh_eq_none {tw : Nat} {s : Session} {tag : Tag}
    (haround : tag ∉ s.tagsAround P tw) (hcached : s.ratchetedKeys = none → tag ∉ s.pendingTags) :
    ((s.updateTagWindow P tw).updateRatchetedTagWindow P tw).validateTag P tw tag = none := by
  simp only [tagsAround, List.mem_flatMap, List.mem_append, not_exists, not_and, not_or] at haround
  have hkeys : ((s.updateTagWindow P tw).updateRatchetedTagWindow P tw).keys = s.keys :=
    congrArg KeyState.keys (refresh_keyState tw s)
  have hpend : ((s.updateTagWindow P tw).updateRatchetedTagWindow P tw).ratchetedKeys =
      s.ratchetedKeys := congrArg KeyState.ratchetedKeys (refresh_keyState tw s)
  -- no counter of the window has the tag in one of the three windows
  have hcurrent : ∀ w ∈ [tw, wrappingPred tw, wrappingAdd tw 1], ∀ c ∈ s.windowCounters,
      P.generateResonanceTag s.keys.tagSecret c w ≠ tag :=
    fun w hw c hc heq => (haround w hw).1 (List.mem_map.2 ⟨c, hc, heq⟩)
  have hfind : (s.windowCounters.map fun c =>
      (c, P.generateResonanceTag s.keys.tagSecret c tw)).find? (fun e => e.2 = tag) = none := by
    rw [List.find?_eq_none]
    intro e he
    obtain ⟨c, hc, rfl⟩ := List.mem_map.1 he
    simpa using hcurrent tw (by simp) c hc
  have hadjacent : ∀ {secret : Key} {counters : List Nat},
      (∀ w ∈ [tw, wrappingPred tw, wrappingAdd tw 1], ∀ c ∈ counters,
        P.generateResonanceTag secret c w ≠ tag) →
      adjacentMatch P secret tw counters tag = none := by
    intro secret counters h
    unfold adjacentMatch adjacentWindows
    rw [List.findSome?_eq_none_iff]
    intro w hw
    rw [List.find?_eq_none]
    intro c hc
    simpa using h w (List.mem_cons_of_mem _ hw) c hc
  unfold validateTag
  rw [refresh_expectedTags, hfind]
  simp only [hkeys, refresh_windowCounters, hadjacent hcurrent]
  unfold validateRatchetedTag
  rw [refresh_ratchetedExpectedTags, hpend]
  split_ifs
  · rfl
  cases hk : s.ratchetedKeys with
  | none =>
      have hnone : s.ratchetedExpectedTags.find? (fun e => e.2 = tag) = none := by
        rw [List.find?_eq_none]
        intro e he
        simpa using fun heq => hcached hk (List.mem_map.2 ⟨e, he, heq⟩)
      simp only [hnone]
  | some ratchetedKeys =>
      have hpending : ∀ w ∈ [tw, wrappingPred tw, wrappingAdd tw 1],
          ∀ c ∈ List.range tagWindowSize,
            P.generateResonanceTag ratchetedKeys.tagSecret c w ≠ tag := by
        intro w hw c hc heq
        have hnot := (haround w hw).2
        rw [hk] at hnot
        exact hnot (List.mem_map.2 ⟨c, hc, heq⟩)
      have hnone : ((List.range tagWindowSize).map fun c =>
          (c, P.generateResonanceTag ratchetedKeys.tagSecret c tw)).find?
          (fun e => e.2 = tag) = none := by
        rw [List.find?_eq_none]
        intro e he
        obtain ⟨c, hc, rfl⟩ := List.mem_map.1 he
        simpa using hpending tw (by simp) c hc
      simp only [hnone, hadjacent hpending, Option.map_none]

/-- A cached tag that belongs to one counter validates as that counter. -/
theorem validateTag_of_cached {tw c : Nat} {s : Session} {tag : Tag}
    (hmem : tag ∈ s.currentTags) (hcached : ∀ e ∈ s.expectedTags, e.2 = tag → e.1 = c)
    (hnew : s.isReplay c = false) : s.validateTag P tw tag = some (c, false) := by
  obtain ⟨e, he, htag⟩ := List.mem_map.1 hmem
  have hsome : (s.expectedTags.find? fun e => e.2 = tag).isSome := by
    rw [List.find?_isSome]
    exact ⟨e, he, by simpa using htag⟩
  obtain ⟨⟨c', tag'⟩, hfind⟩ := Option.isSome_iff_exists.1 hsome
  have heq : c' = c := hcached _ (List.mem_of_find?_eq_some hfind)
    (by simpa using List.find?_some hfind)
  subst heq
  unfold validateTag
  rw [hfind]
  simp [hnew]

/-- A session with fresh tag windows validates the tag of a counter in its window. -/
theorem validateTag_refresh {tw c : Nat} {s : Session} {tag : Tag} (hc : c ∈ s.windowCounters)
    (htag : P.generateResonanceTag s.keys.tagSecret c tw = tag)
    (hwindow : ∀ c' ∈ s.windowCounters,
      P.generateResonanceTag s.keys.tagSecret c' tw = tag → c' = c)
    (hnew : s.isReplay c = false) :
    ((s.updateTagWindow P tw).updateRatchetedTagWindow P tw).validateTag P tw tag =
      some (c, false) := by
  refine validateTag_of_cached ?_ ?_ ?_
  · rw [currentTags, refresh_expectedTags, List.map_map]
    exact List.mem_map.2 ⟨c, hc, htag⟩
  · rw [refresh_expectedTags]
    intro e he heq
    obtain ⟨c', hc', rfl⟩ := List.mem_map.1 he
    exact hwindow c' hc' heq
  · simpa [isReplay] using hnew

end Session

namespace SessionManager

variable {P}

/-- The lookup chain finds the session and the counter of a unique tag. -/
theorem findSession_of_tagUnique {env : Env} {m : SessionManager} {sid : SessionId} {c : Nat}
    {tag : Tag} (hinv : m.TagInv) (hlive : sid ∈ m.sessions)
    (hunique : TagUnique P env.timeWindow m sid c tag) (hc : c ∈ (m.heap sid).windowCounters)
    (htag : P.generateResonanceTag (m.heap sid).keys.tagSecret c env.timeWindow = tag)
    (hnew : (m.heap sid).isReplay c = false) (ip : IpAddr) :
    (m.findSession P env tag ip).1 = .ok (some (sid, c, false)) := by
  refine (finds_of_validates hinv hlive (fun other hmem hne => ?_) (fun hcached => ?_) ?_ ip).1
  · obtain ⟨hcached, haround⟩ := hunique.others other hmem hne
    exact ⟨hcached, Session.validateTag_refresh_eq_none haround
      fun _ hpending => hcached (List.mem_append_right _ hpending)⟩
  · have hcurrent := (List.mem_append.1 hcached).resolve_right hunique.pending
    exact Session.validateTag_of_cached hcurrent hunique.cached hnew
  · exact Session.validateTag_refresh hc htag hunique.window hnew

end SessionManager

end

/-! ## Decryption at the guessed offset -/

/-- ChaCha20-Poly1305 as far as one datagram needs it: a ciphertext is 16 bytes longer than its
plaintext and decrypts to it, and of the suffixes of the datagram at most one decrypts. -/
structure IdealAead (P : Primitives) (key : Key) (nonce : Nonce) (d : Bytes) : Prop where
  size : ∀ p, (P.encrypt key nonce p).length = p.length + poly1305TagSize
  opens : ∀ p, P.decrypt key nonce (P.encrypt key nonce p) = some p
  rejects : ∀ off ≤ d.length, ∀ off' ≤ d.length, (P.decrypt key nonce (d.drop off)).isSome →
    (P.decrypt key nonce (d.drop off')).isSome → off = off'

section

variable {P : Primitives} {tw c : Nat} {keys : SessionKeys} {header padded d : Bytes}

theorem length_assemble (hd : d = assemble P tw keys c header padded)
    (h : IdealAead P keys.sessionKey (counterToNonce c) d) :
    d.length = tagSize + header.length + (padded.length + poly1305TagSize) := by
  rw [hd]
  unfold assemble Primitives.encryptPayload
  rw [List.length_append, List.length_append, h.size, ByteArr.length_toList]
  rfl

/-- A datagram under the current keys of a session decrypts exactly when its ciphertext is where
`handle_packet` expects it. -/
theorem decryptDatagram_iff {s : Session} {t : TagMatch}
    (hd : d = assemble P tw keys c header padded) (hkeys : s.keys = keys) (hcounter : t.counter = c)
    (htag : t.isRatchetedTag = false)
    (haead : IdealAead P keys.sessionKey (counterToNonce c) d) :
    (decryptDatagram P s t d = .ok padded ↔
      payloadOffset s t d.length = tagSize + header.length) ∧
    (decryptDatagram P s t d ≠ .ok padded → ∃ e, decryptDatagram P s t d = .error e) := by
  have hlen := length_assemble hd haead
  have hdrop : d.drop (tagSize + header.length) =
      P.encrypt keys.sessionKey (counterToNonce c) padded := by
    rw [hd]
    exact drop_assemble _ _ _ _ _ _
  have hopen : P.decrypt keys.sessionKey (counterToNonce c) (d.drop (tagSize + header.length)) =
      some padded := by
    rw [hdrop]
    exact haead.opens padded
  unfold decryptDatagram
  simp only [payloadKey, htag, Bool.false_eq_true, if_false, hkeys, hcounter,
    Primitives.decryptPayload]
  by_cases hoff : payloadOffset s t d.length = tagSize + header.length
  · rw [hoff, if_neg (by simp only [poly1305TagSize] at hlen; omega), hopen]
    simp
  · split_ifs with hshort
    · simp [hoff]
    -- two offsets that both open would be two suffixes of one datagram that do
    · have hnone : P.decrypt keys.sessionKey (counterToNonce c)
          (d.drop (payloadOffset s t d.length)) = none := by
        rw [Option.eq_none_iff_forall_ne_some]
        intro p hp
        exact hoff (haead.rejects _ (by omega) _ (by omega) (by simp [hp]) (by simp [hopen]))
      rw [hnone]
      simp [hoff]

end

namespace Gateway

variable (P : Primitives) (rng : Randomness) (env : Env)

/-- The stages behind a decryption that succeeds do not fail. -/
theorem receivePacket_of_decrypt {packetData padded plaintext : Bytes}
    (hlen : ¬ packetData.length < tagSize + 2) {addr : SocketAddr} {g g₁ : Gateway} {t : TagMatch}
    (hid : identify P rng env packetData addr g = (.ok t, g₁))
    (hdec : decryptDatagram P (g₁.session t.sessionId) t packetData = .ok padded)
    (hstrip : stripPadding padded = .ok plaintext) :
    (receivePacket P rng env packetData addr g).1 = .ok (t, plaintext) := by
  have hratchet : ∀ g : Gateway, ∃ g', ratchet t g = (.ok (), g') := by
    intro g
    unfold ratchet
    split_ifs
    · exact ⟨_, rfl⟩
    · exact ⟨_, rfl⟩
  have hrecord : ∀ (flush : Option (String × Nat)) (g : Gateway),
      ∃ g', recordTraffic flush g = (.ok (), g') := by
    intro flush g
    cases flush with
    | none => exact ⟨_, rfl⟩
    | some flush =>
        by_cases hdb : g.clientDb.isSome = true
        · exact ⟨{ g with effects := .recordTraffic flush.1 flush.2 0 :: g.effects },
            by simp [recordTraffic, bind_apply, hdb, emit]⟩
        · exact ⟨g, by simp [recordTraffic, bind_apply, hdb]⟩
  obtain ⟨g₂, hg₂⟩ := hratchet g₁
  rcases hr : g₂.sessionManager.receive P env t addr packetData.length with ⟨flush, m⟩
  obtain ⟨g₃, hg₃⟩ := hrecord flush { g₂ with sessionManager := m }
  unfold receivePacket
  rw [if_neg hlen, bind_of_ok hid, bind_of_ok (gets_apply _ _), hdec, bind_of_ok (ofExcept_ok _ _),
    bind_of_ok hg₂, hstrip, bind_of_ok (ofExcept_ok _ _), bind_of_ok (manager_of_eq
      (f := fun m => m.receive P env t addr packetData.length) hr), bind_of_ok hg₃]
  rfl

/-- A datagram under the current keys of its session comes through exactly when its ciphertext is
where `handle_packet` expects it. -/
theorem receivePacket_iff_offset {tw : Nat} {keys : SessionKeys} {header inner padding d : Bytes}
    {addr : SocketAddr} {g g₁ : Gateway} {t : TagMatch}
    (hid : identify P rng env d addr g = (.ok t, g₁))
    (hd : d = assemble P tw keys t.counter header (padPlaintext inner padding))
    (hpad : padding.length < 65536) (hkeys : (g₁.session t.sessionId).keys = keys)
    (htag : t.isRatchetedTag = false)
    (haead : IdealAead P keys.sessionKey (counterToNonce t.counter) d) (r : TagMatch × Bytes) :
    (receivePacket P rng env d addr g).1 = .ok r ↔
      payloadOffset (g₁.session t.sessionId) t d.length = tagSize + header.length ∧
        r = (t, inner) := by
  have hlen : ¬ d.length < tagSize + 2 := by
    have := length_assemble hd haead
    rw [this, length_padPlaintext]
    omega
  obtain ⟨hiff, herr⟩ := decryptDatagram_iff hd hkeys rfl htag haead
  by_cases hoff : payloadOffset (g₁.session t.sessionId) t d.length = tagSize + header.length
  · rw [receivePacket_of_decrypt P rng env hlen hid (hiff.2 hoff)
      (stripPadding_padPlaintext inner hpad), Except.ok.injEq, eq_comm]
    exact (and_iff_right hoff).symm
  · -- the ciphertext is read from another place, and only itself opens
    obtain ⟨e, he⟩ := herr fun hok => hoff (hiff.1 hok)
    refine iff_of_false ?_ fun h => hoff h.1
    unfold receivePacket
    rw [if_neg hlen, bind_of_ok hid, bind_of_ok (gets_apply _ _), he,
      bind_of_error (ofExcept_error _ _)]
    intro hok
    cases hok

/-- What the lookup finds, `identify` returns, and the keys stay as they are. -/
theorem identify_of_found {d : Bytes} {addr : SocketAddr} {g : Gateway} {sid : SessionId} {c : Nat}
    {r : Bool} (hfound : (g.sessionManager.findSession P env (readArray 8 0 d) addr.ip).1 =
      .ok (some (sid, c, r))) :
    ∃ g₁, identify P rng env d addr g = (.ok ⟨sid, c, r, false⟩, g₁) ∧
      (g₁.session sid).keyState = (g.session sid).keyState := by
  have hkeyState := g.sessionManager.findSession_keyState P env (readArray 8 0 d) addr.ip sid
  unfold identify
  rcases hfs : g.sessionManager.findSession P env (readArray 8 0 d) addr.ip with ⟨res, m⟩
  rw [hfs] at hfound hkeyState
  cases hfound
  rw [bind_of_ok (managerExcept_of_ok hfs)]
  exact ⟨_, rfl, hkeyState⟩

/-- `handle_packet` finds the datagram's session `sid` and goes on to `process_inner_payload` with
the given inner header and payload. -/
def Delivers (g : Gateway) (packetData : Bytes) (addr : SocketAddr) (sid : SessionId)
    (header : InnerHeader) (payload : Bytes) : Prop :=
  ∃ t plaintext, (receivePacket P rng env packetData addr g).1 = .ok (t, plaintext) ∧
    t.sessionId = sid ∧ t.isNewSession = false ∧ InnerHeader.decode plaintext = .ok header ∧
    plaintext.drop 4 = payload

end Gateway

/-- The ciphertext is where `handle_packet` expects it in a datagram for an existing session. -/
def OffsetFits (b : Builder) (ephPub : Option Key) (isRatcheted : Bool) (len : Nat) : Prop :=
  if isRatcheted then ephPub = none
  else if ephPub = none then len < tagSize + mdhLen + 32 + 16
  else b.EmbedsBehindHeader

instance (b : Builder) (ephPub : Option Key) (isRatcheted : Bool) (len : Nat) :
    Decidable (OffsetFits b ephPub isRatcheted len) :=
  inferInstanceAs (Decidable (if isRatcheted then ephPub = none
    else if ephPub = none then len < tagSize + mdhLen + 32 + 16 else b.EmbedsBehindHeader))

section

variable {P : Primitives} {tw c : Nat} {keys : SessionKeys} {b : Builder} {r : PacketRandomness}
  {ephPub : Option Key} {inner d header padding : Bytes}

/-- The guess for an existing session is right exactly when the offset fits. -/
theorem payloadOffset_eq_iff {s : Session} {t : TagMatch} (hnew : t.isNewSession = false)
    (htag : t.isRatchetedTag = false) (hinner : 4 ≤ inner.length)
    (hlen : d.length = tagSize + header.length + ((padPlaintext inner padding).length +
      poly1305TagSize))
    (hnone : ephPub = none → header.length = 4)
    (hsome : ephPub ≠ none → 32 ≤ header.length ∧ (header.length = 36 ↔ b.EmbedsBehindHeader)) :
    payloadOffset s t d.length = tagSize + header.length ↔
      OffsetFits b ephPub s.isRatcheted d.length := by
  rw [length_padPlaintext] at hlen
  unfold payloadOffset OffsetFits
  simp only [hnew, htag, Bool.not_false, Bool.true_and, Bool.false_or, tagSize, mdhLen,
    poly1305TagSize] at hlen ⊢
  by_cases hratcheted : s.isRatcheted = true
  · simp only [hratcheted, Bool.not_true, Bool.false_and, Bool.false_eq_true, if_false, if_true]
    by_cases heph : ephPub = none
    · have hheader := hnone heph
      simp only [heph, iff_true]
      omega
    · have hheader := (hsome heph).1
      simp only [heph, iff_false]
      omega
  · have hfalse : s.isRatcheted = false := by simpa using hratcheted
    simp only [hfalse, Bool.not_false, Bool.true_and, Bool.false_eq_true, if_false]
    by_cases heph : ephPub = none
    · have hheader := hnone heph
      simp only [heph, if_true, hheader]
      by_cases hlong : 8 + 4 + 32 + 16 ≤ d.length
      · simp [hlong]
      · have hshort : d.length < 8 + 4 + 32 + 16 := by omega
        simp [hlong, hshort]
    · obtain ⟨hheader, hiff⟩ := hsome heph
      have hlong : 8 + 4 + 32 + 16 ≤ d.length := by omega
      simp only [heph, if_false, hlong, decide_true, if_true, ← hiff]
      omega

/-- For a new session the offset is that of a datagram with an ephemeral key behind a short header. -/
theorem payloadOffset_new_iff {s : Session} {t : TagMatch} (hnew : t.isNewSession = true)
    (hnone : ephPub = none → header.length = 4)
    (hsome : ephPub ≠ none → 32 ≤ header.length ∧ (header.length = 36 ↔ b.EmbedsBehindHeader)) :
    payloadOffset s t d.length = tagSize + header.length ↔
      ephPub ≠ none ∧ b.EmbedsBehindHeader := by
  unfold payloadOffset
  simp only [hnew, Bool.true_or, if_true, tagSize, mdhLen]
  by_cases heph : ephPub = none
  · have hheader := hnone heph
    simp only [heph, ne_eq, not_true_eq_false, false_and, iff_false]
    omega
  · obtain ⟨-, hiff⟩ := hsome heph
    rw [← hiff]
    simp only [heph, ne_eq, not_false_eq_true, true_and]
    omega

end

/-- Which datagrams of the clients arrive. Take any datagram of either builder under some keys. For
a live session with these keys in any run of the gateway, and a counter in its window that is not
marked as received, `handle_packet` delivers header and payload as they were exactly when the offset
fits. When the datagram creates the session, it is decrypted exactly when it has the key embedded
right behind the 4-byte header. -/
theorem delivered_iff (P : Primitives) (rng : Randomness) (cfg : GatewayConfig) (b : Builder)
    (hb : b.FourByteTemplate) (env : Env) (r : PacketRandomness) (ephPub : Option Key)
    (keys : SessionKeys) (c : Nat) (header : InnerHeader) (payload : Bytes) {d : Bytes}
    {counter' : Nat} (hd : b.build P env.timeWindow r keys c (header.encode ++ payload) ephPub =
      .ok (d, counter'))
    (haead : IdealAead P keys.sessionKey (counterToNonce c) d) (addr : SocketAddr) :
    (∀ (serverKeys : KeyPair) (signingKey : Key) (clientDb : Option (List ClientConfig))
      (es : List (Env × Gateway.Event)) (g : Gateway) (sid : SessionId),
      g = runFrom (Gateway.step P rng cfg) (Gateway.new serverKeys signingKey clientDb) es →
      sid ∈ g.sessionManager.sessions → (g.session sid).keys = keys →
      c ∈ (g.session sid).windowCounters → (g.session sid).isReplay c = false →
      TagUnique P env.timeWindow g.sessionManager sid c
        (P.generateResonanceTag keys.tagSecret c env.timeWindow) →
      (Gateway.Delivers P rng env g d addr sid header payload ↔
        OffsetFits b ephPub (g.session sid).isRatcheted d.length)) ∧
    ∀ g t g₁, Gateway.identify P rng env d addr g = (.ok t, g₁) → t.isNewSession = true →
      (g₁.session t.sessionId).keys = keys → t.counter = c → t.isRatchetedTag = false →
      ((Gateway.receivePacket P rng env d addr g).1 = .ok (t, header.encode ++ payload) ↔
        ephPub ≠ none ∧ b.EmbedsBehindHeader) := by
  obtain ⟨-, hdr, padding, hassemble, hpad, hnone, hsome⟩ := Builder.build_ok hb hd
  have hlen := length_assemble hassemble haead
  have hread : (readArray 8 0 d : Tag) =
      P.generateResonanceTag keys.tagSecret c env.timeWindow := by
    rw [hassemble, readArray_assemble]
  constructor
  · rintro serverKeys signingKey clientDb es g sid hg hlive rfl hc hnew hunique
    have hinv : g.sessionManager.TagInv := by
      rw [hg]
      exact tagInv_of_run P rng cfg serverKeys signingKey clientDb es
    have hfound := SessionManager.findSession_of_tagUnique hinv hlive hunique hc rfl hnew addr.ip
    rw [← hread] at hfound
    obtain ⟨g₁, hid, hstate⟩ := Gateway.identify_of_found P rng env hfound
    have hreceive := Gateway.receivePacket_iff_offset P rng env hid hassemble hpad
      (congrArg KeyState.keys hstate) rfl haead
    have hratcheted : (g₁.session sid).isRatcheted = (g.session sid).isRatcheted :=
      congrArg KeyState.isRatcheted hstate
    have hoffset := payloadOffset_eq_iff (s := g₁.session sid) (t := ⟨sid, c, false, false⟩) (b := b)
      rfl rfl (by simp) hlen hnone hsome
    rw [← hratcheted, ← hoffset]
    constructor
    · rintro ⟨t, plaintext, hok, -⟩
      exact ((hreceive _).1 hok).1
    · intro hoff
      exact ⟨_, _, (hreceive _).2 ⟨hoff, rfl⟩, rfl, rfl, InnerHeader.decode_encode_append _ _, by simp⟩
  · -- a first datagram: the offset depends on whether it embeds the ephemeral key
    rintro g t g₁ hid hnewSession hkeys rfl htag
    rw [Gateway.receivePacket_iff_offset P rng env hid hassemble hpad hkeys htag haead,
      and_iff_left rfl]
    exact payloadOffset_new_iff hnewSession hnone hsome

/-! ## Sample datagrams -/

/-- The sample AEAD marks the length of the plaintext, so that one suffix at most decrypts. -/
theorem samplePrimitives_idealAead (key : Key) (nonce : Nonce) {d : Bytes}
    (hd : d.length < 65536) : IdealAead samplePrimitives key nonce d := by
  refine ⟨fun p => ?_, fun p => ?_, fun off hoff off' hoff' h h' => ?_⟩
  · simp [samplePrimitives, poly1305TagSize]
  · have hlen : (samplePrimitives.encrypt key nonce p).length - 16 = p.length := by
      simp [samplePrimitives]
    simp only [samplePrimitives] at hlen ⊢
    rw [hlen, List.drop_left, List.take_left, if_pos rfl]
  · have hsuffix : ∀ {o : Nat}, o ≤ d.length →
        (samplePrimitives.decrypt key nonce (d.drop o)).isSome → d.length - o ≥ 16 ∧
          d.drop (d.length - 16) =
            key.toList.take 2 ++ leBytes 2 (d.length - o - 16) ++ nonce.toList := by
      intro o ho hsome
      simp only [samplePrimitives, List.length_drop, List.drop_drop] at hsome
      split_ifs at hsome with heq
      · have hlong : d.length - o ≥ 16 := by
          have := congrArg List.length heq
          simp only [List.length_drop, List.length_append, List.length_take, ByteArr.length_toList,
            length_leBytes] at this
          omega
        rw [← heq]
        exact ⟨hlong, by congr 1; omega⟩
      · cases hsome
    obtain ⟨hlong, heq⟩ := hsuffix hoff h
    obtain ⟨hlong', heq'⟩ := hsuffix hoff' h'
    rw [heq] at heq'
    have hnat := leBytes_inj (by omega) (by omega)
      (List.append_cancel_left (List.append_cancel_right heq'))
    omega

/-- A packet of the sample client for counter 1 in window 100, without its key. -/
def samplePacket (innerType : InnerType) (payload : Bytes) : Bytes :=
  (buildZeroMdhPacket samplePrimitives 100 sampleDraw (sampleInitialKeys none) 1
    (buildInnerPacket innerType 0 payload) none).1

/-- What the sample gateway knows about the tag for counter 1. -/
theorem sampleAfterInit_tagUnique :
    TagUnique samplePrimitives 100 sampleAfterInit.sessionManager 0 1
      (samplePrimitives.generateResonanceTag (sampleInitialKeys none).tagSecret 1 100) := by
  have hfacts :
      (∀ e ∈ (sampleAfterInit.sessionManager.heap 0).expectedTags,
        e.2 = samplePrimitives.generateResonanceTag (sampleInitialKeys none).tagSecret 1 100 →
          e.1 = 1) ∧
      samplePrimitives.generateResonanceTag (sampleInitialKeys none).tagSecret 1 100 ∉
        (sampleAfterInit.sessionManager.heap 0).pendingTags ∧
      ∀ c' ∈ (sampleAfterInit.sessionManager.heap 0).windowCounters,
        samplePrimitives.generateResonanceTag
            (sampleAfterInit.sessionManager.heap 0).keys.tagSecret c' 100 =
          samplePrimitives.generateResonanceTag (sampleInitialKeys none).tagSecret 1 100 →
          c' = 1 := by
    decide +kernel
  obtain ⟨hcached, hpending, hwindow⟩ := hfacts
  refine ⟨?_, hcached, hpending, hwindow⟩
  rw [sampleAfterInit_state.1]
  simp

/-- The live session of the sample gateway awaits counter 1 under the initial keys. -/
theorem sampleAfterInit_awaits :
    0 ∈ sampleAfterInit.sessionManager.sessions ∧
    (sampleAfterInit.session 0).keys = sampleInitialKeys none ∧
    1 ∈ (sampleAfterInit.session 0).windowCounters ∧
    (sampleAfterInit.session 0).isReplay 1 = false := by
  decide +kernel

/-- A 20-byte IP packet, sent before the ratchet to a live session under its current keys, is not
delivered. -/
theorem data_before_ratchet_lost :
    let d := samplePacket .data (List.replicate 20 0x45)
    0 ∈ sampleAfterInit.sessionManager.sessions ∧
    (sampleAfterInit.session 0).keys = sampleInitialKeys none ∧
    1 ∈ (sampleAfterInit.session 0).windowCounters ∧
    (sampleAfterInit.session 0).isReplay 1 = false ∧
    TagUnique samplePrimitives 100 sampleAfterInit.sessionManager 0 1
      (samplePrimitives.generateResonanceTag (sampleInitialKeys none).tagSecret 1 100) ∧
    IdealAead samplePrimitives (sampleInitialKeys none).sessionKey (counterToNonce 1) d ∧
    ¬ Gateway.Delivers samplePrimitives sampleRandomness (sampleEnv 100) sampleAfterInit d
      sampleAddr 0 ⟨.data, 0⟩ (List.replicate 20 0x45) := by
  obtain ⟨hlive, hkeys, hwindow, hnew⟩ := sampleAfterInit_awaits
  refine ⟨hlive, hkeys, hwindow, hnew, sampleAfterInit_tagUnique,
    samplePrimitives_idealAead _ _ (by decide +kernel), ?_⟩
  rintro ⟨t, plaintext, hok, -⟩
  have herr : (Gateway.receivePacket samplePrimitives sampleRandomness (sampleEnv 100)
      (samplePacket .data (List.replicate 20 0x45)) sampleAddr sampleAfterInit).1.isOk = false := by
    decide +kernel
  rw [hok] at herr
  cases herr

/-- A keepalive for the same session is short enough, and the init datagram has its key where the
gateway expects it. -/
theorem keepalive_before_ratchet_delivered :
    Gateway.Delivers samplePrimitives sampleRandomness (sampleEnv 100) sampleAfterInit
      (samplePacket .control ControlPayload.keepalive.encode) sampleAddr 0 ⟨.control, 0⟩
      ControlPayload.keepalive.encode ∧
    (Gateway.receivePacket samplePrimitives sampleRandomness (sampleEnv 100) (sampleInit none 100)
      sampleAddr (Gateway.new sampleServerKeys default none)).1 =
      .ok (⟨0, 0, false, true⟩, buildInnerPacket .control 0 ControlPayload.keepalive.encode) := by
  obtain ⟨hlive, hkeys, hwindow, hnew⟩ := sampleAfterInit_awaits
  constructor
  · exact ((delivered_iff samplePrimitives sampleRandomness sampleConfig .zeroMdh trivial
      (sampleEnv 100) sampleDraw none (sampleInitialKeys none) 1 ⟨.control, 0⟩
      ControlPayload.keepalive.encode rfl
      (samplePrimitives_idealAead _ _ (by decide +kernel)) sampleAddr).1 sampleServerKeys default
      none [(sampleEnv 100, .packet (sampleInit none 101) sampleAddr)] sampleAfterInit 0 rfl
      hlive hkeys hwindow hnew sampleAfterInit_tagUnique).2 (by decide +kernel)
  · exact ((delivered_iff samplePrimitives sampleRandomness sampleConfig .zeroMdh trivial
      (sampleEnv 100) sampleDraw _ (sampleInitialKeys none) 0 ⟨.control, 0⟩
      ControlPayload.keepalive.encode rfl
      (samplePrimitives_idealAead _ _ (by decide +kernel)) sampleAddr).2 _ ⟨0, 0, false, true⟩ _
      (Prod.ext (by decide +kernel) rfl) rfl (by decide +kernel) rfl rfl).2 ⟨by simp, trivial⟩

end Aivpn
