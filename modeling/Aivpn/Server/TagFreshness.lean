import Aivpn.Server.LookupComplete

/-!
# How old an accepted tag can be

`validate_tag` checks "the current time window first, then adjacent windows", but what it compares for
the current window are the cached tables, and these do not record the window they were built for. Each
table is built as a whole in the window of one step of the run (`tables_of_run`). So the tags that a
session accepts are those of windows next to the current one exactly when its tables were built in such
a window (`acceptsFresh_iff`), however long ago; a session without traffic accepts the tags of the
window in which it was created at any later time (`stale_tag_accepted`).
-/

set_option autoImplicit false

namespace Aivpn

open Aivpn.Lib

/-- The tags of the table are those of its counters in window `w`. -/
def BuiltAt (P : Primitives) (secret : Key) (w : Nat) (table : List (Nat × Tag)) : Prop :=
  ∀ x ∈ table, x.2 = P.generateResonanceTag secret x.1 w

instance (P : Primitives) (secret : Key) (w : Nat) (table : List (Nat × Tag)) :
    Decidable (BuiltAt P secret w table) :=
  inferInstanceAs (Decidable (∀ x ∈ table, x.2 = P.generateResonanceTag secret x.1 w))

theorem builtAt_map (P : Primitives) (secret : Key) (w : Nat) (counters : List Nat) :
    BuiltAt P secret w (counters.map fun c => (c, P.generateResonanceTag secret c w)) := by
  intro x hx
  obtain ⟨c, -, rfl⟩ := List.mem_map.1 hx
  rfl

namespace Session

variable {P : Primitives} {W : Set Nat}

/-! ## Tables are built as a whole -/

/-- Each table that is not empty was built in one window of `W`: the first one under the current keys,
the second one under the pending keys. -/
structure Tables (P : Primitives) (W : Set Nat) (s : Session) : Prop where
  current : s.expectedTags = [] ∨ ∃ w ∈ W, BuiltAt P s.keys.tagSecret w s.expectedTags
  pending : ∀ keys, s.ratchetedKeys = some keys →
    s.ratchetedExpectedTags = [] ∨ ∃ w ∈ W, BuiltAt P keys.tagSecret w s.ratchetedExpectedTags

theorem Tables.updateTagWindow {s : Session} (h : s.Tables P W) {tw : Nat} (hw : tw ∈ W) :
    (s.updateTagWindow P tw).Tables P W := by
  unfold Session.updateTagWindow
  generalize s.windowCounters = counters
  exact ⟨Or.inr ⟨tw, hw, builtAt_map P s.keys.tagSecret tw counters⟩, h.pending⟩

theorem Tables.updateRatchetedTagWindow {s : Session} (h : s.Tables P W) {tw : Nat} (hw : tw ∈ W) :
    (s.updateRatchetedTagWindow P tw).Tables P W := by
  unfold Session.updateRatchetedTagWindow
  split
  · next keys hkeys =>
      refine ⟨h.current, fun keys' hkeys' => Or.inr ⟨tw, hw, ?_⟩⟩
      obtain rfl : keys = keys' := Option.some.inj (hkeys.symm.trans hkeys')
      exact builtAt_map P keys.tagSecret tw _
  · exact h

/-- The table of the pending keys becomes that of the current ones, as old as it is. -/
theorem Tables.completeRatchet {s : Session} (h : s.Tables P W) : s.completeRatchet.Tables P W := by
  unfold Session.completeRatchet
  split
  · next keys hkeys => exact ⟨h.pending keys hkeys, nofun⟩
  · exact h

theorem Tables.markTagReceived {s : Session} (h : s.Tables P W) (c : Nat) :
    (s.markTagReceived c).Tables P W := by
  unfold Session.markTagReceived
  simp only
  split_ifs
  · exact ⟨h.current, h.pending⟩
  · exact ⟨h.current, h.pending⟩
  · exact ⟨h.current, h.pending⟩

/-- A change in a window of `W` keeps the tables whole. -/
theorem Tables.change {e : Env × Gateway.Event} {s s' : Session} (h : s.Tables P W)
    (hw : e.1.timeWindow ∈ W) (hch : Session.Change P e s s') : s'.Tables P W := by
  cases hch with
  | refresh => exact (h.updateTagWindow hw).updateRatchetedTagWindow hw
  | @recover tag c hfind =>
      have hmoved : Session.Tables P W
          { s with counter := c, recoveredFrom := s.counter :: s.recoveredFrom } :=
        ⟨h.current, h.pending⟩
      exact hmoved.updateTagWindow hw
  | ratchet hkeys hopens => exact h.completeRatchet
  | receive c isNew addr len =>
      obtain ⟨instant, client, bytes, heq⟩ := s.receive_eq P e.1 c isNew addr len
      have haccept : (s.acceptCounter P e.1.timeWindow c).Tables P W := by
        unfold Session.acceptCounter
        simp only
        split_ifs
        · exact (h.markTagReceived c).updateTagWindow hw
        · exact h.markTagReceived c
      rw [heq]
      exact ⟨haccept.current, haccept.pending⟩
  | identify clientId hnone => exact ⟨h.current, h.pending⟩
  | takeSeq => exact ⟨h.current, h.pending⟩
  | send => exact ⟨h.current, h.pending⟩

theorem tables_of_creates {rng : Randomness} {env : Env} {m : SessionManager} {ephPub : Key}
    {psk : Option Key} {s : Session} (h : m.Creates P rng env ephPub psk s)
    (hw : env.timeWindow ∈ W) : s.Tables P W := by
  obtain ⟨addr, dh1, dh2, vpnIp, -, -, rfl⟩ := h
  have hs : (m.initialSession P env addr ephPub (P.deriveSessionKeys dh1 psk ephPub)
      (P.fromPrivateKey (rng.serverEph m.nextId)) dh2).Tables P W := by
    unfold SessionManager.initialSession
    have hempty : ∀ s : Session, s.expectedTags = [] → s.ratchetedExpectedTags = [] →
        s.Tables P W := fun s hcurrent hpending => ⟨Or.inl hcurrent, fun _ _ => Or.inl hpending⟩
    exact ((hempty _ rfl rfl).updateTagWindow hw).updateRatchetedTagWindow hw
  generalize m.initialSession P env addr ephPub _ _ dh2 = s at hs
  exact ⟨hs.current, hs.pending⟩

end Session

/-- In every run the tables of every session were built as a whole, each in the window of a step. -/
theorem tables_of_run (P : Primitives) (rng : Randomness) (cfg : GatewayConfig)
    (serverKeys : KeyPair) (signingKey : Key) (clientDb : Option (List ClientConfig))
    (es : List (Env × Gateway.Event)) (sid : SessionId) :
    ((runFrom (Gateway.step P rng cfg) (Gateway.new serverKeys signingKey clientDb)
      es).session sid).Tables P (Gateway.windowsOf es) := by
  have hrun := @runFrom_invariant_of_along Gateway (Env × Gateway.Event) (Gateway.step P rng cfg)
    (fun g => ∀ sid, (g.session sid).Tables P (Gateway.windowsOf es))
    (fun _ e => e.1.timeWindow ∈ Gateway.windowsOf es)
    (fun g e hg hw => Gateway.session_of_step (Q := fun _ s => s.Tables P _) hg
      (fun m ephPub psk s hs => Session.tables_of_creates hs hw)
      (fun _ s s' hs hch => hs.change hw hch))
    (Gateway.new serverKeys signingKey clientDb) es
    (fun _ => ⟨Or.inl rfl, nofun⟩)
    (along_of_forall fun e he => ⟨e, he, rfl⟩)
  exact hrun sid

namespace Session

variable {P : Primitives} {W : Set Nat}

/-! ## Accepted tags -/

/-- Every tag that the session accepts in window `tw` is the tag of its counter in a window next to
`tw`. -/
def AcceptsFresh (P : Primitives) (tw : Nat) (s : Session) : Prop :=
  ∀ tag c r, s.validateTag P tw tag = some (c, r) → ∃ w ∈ nearWindows tw, ∃ secret,
    s.tagSecret r = some secret ∧ P.generateResonanceTag secret c w = tag

/-- The table of the current keys, as far as its counters are no replays, was built in a window next to
`tw`. -/
def CurrentFresh (P : Primitives) (tw : Nat) (s : Session) : Prop :=
  ∃ w ∈ nearWindows tw,
    BuiltAt P s.keys.tagSecret w (s.expectedTags.filter fun x => !s.isReplay x.1)

/-- So was the table of the pending keys, while the session has not ratcheted. -/
def PendingFresh (P : Primitives) (tw : Nat) (s : Session) : Prop :=
  s.isRatcheted = false → ∀ keys, s.ratchetedKeys = some keys →
    ∃ w ∈ nearWindows tw, BuiltAt P keys.tagSecret w s.ratchetedExpectedTags

/-- Why a tag was accepted: it is in one of the tables, or was computed for an adjacent window. -/
theorem validateTag_cases {s : Session} {tw c : Nat} {tag : Tag} {r : Bool}
    (h : s.validateTag P tw tag = some (c, r)) :
    (r = false ∧ (c, tag) ∈ s.expectedTags ∧ s.isReplay c = false) ∨
    (r = true ∧ s.isRatcheted = false ∧ (c, tag) ∈ s.ratchetedExpectedTags) ∨
    ∃ w ∈ nearWindows tw, ∃ secret, s.tagSecret r = some secret ∧
      P.generateResonanceTag secret c w = tag := by
  unfold validateTag at h
  -- the table, the windows around the current one, and the same for the ratcheted keys
  split at h
  · next c' tag' hfind =>
      obtain rfl : tag' = tag := by simpa using List.find?_some hfind
      split_ifs at h with hreplay
      cases h
      exact Or.inl ⟨rfl, List.mem_of_find?_eq_some hfind, Bool.not_eq_true _ ▸ hreplay⟩
  · split at h
    · next c' hadj =>
        obtain ⟨-, w, hw, htag⟩ := adjacentMatch_eq_some hadj
        split_ifs at h
        cases h
        exact Or.inr (Or.inr ⟨w, hw, _, rfl, htag⟩)
    · unfold validateRatchetedTag at h
      split_ifs at h with hratcheted
      split at h
      · next c' tag' hfind =>
          obtain rfl : tag' = tag := by simpa using List.find?_some hfind
          cases h
          exact Or.inr (Or.inl ⟨rfl, Bool.not_eq_true _ ▸ hratcheted,
            List.mem_of_find?_eq_some hfind⟩)
      · split at h
        · cases h
        · next keys hkeys =>
            obtain ⟨c', hadj, heq⟩ := Option.map_eq_some_iff.1 h
            cases heq
            obtain ⟨-, w, hw, htag⟩ := adjacentMatch_eq_some hadj
            refine Or.inr (Or.inr ⟨w, hw, keys.tagSecret, ?_, htag⟩)
            unfold tagSecret
            rw [hkeys]
            rfl

/-- Fresh tables: fresh tags only. -/
theorem acceptsFresh_of_fresh {s : Session} {tw : Nat} (hsound : s.CacheSound P W)
    (hcurrent : s.CurrentFresh P tw) (hpending : s.PendingFresh P tw) : s.AcceptsFresh P tw := by
  intro tag c r h
  rcases validateTag_cases h with ⟨rfl, hmem, hreplay⟩ | ⟨rfl, hratcheted, hmem⟩ | hnear
  · obtain ⟨w, hw, hbuilt⟩ := hcurrent
    refine ⟨w, hw, _, rfl, (hbuilt (c, tag) ?_).symm⟩
    exact List.mem_filter.2 ⟨hmem, by rw [hreplay]; rfl⟩
  · obtain ⟨-, keys, hkeys, -⟩ := hsound.pending _ hmem
    obtain ⟨w, hw, hbuilt⟩ := hpending hratcheted keys hkeys
    refine ⟨w, hw, keys.tagSecret, ?_, (hbuilt (c, tag) hmem).symm⟩
    unfold tagSecret
    rw [hkeys]
    rfl
  · exact hnear

section

variable {s : Session} {tw : Nat} (hsound : s.CacheSound P W) (htables : s.Tables P W)
  (hnear : ∀ w ∈ nearWindows tw, w ∈ W) (hfree : P.CollisionFree (s.tagTriples W))
  (h : s.AcceptsFresh P tw)

include hsound htables hnear hfree h

/-- An acceptable entry of the first table is accepted, so the table's window is a near one. -/
theorem currentFresh_of_acceptsFresh : s.CurrentFresh P tw := by
  rcases htables.current with hnil | ⟨w₀, hw₀, hbuilt⟩
  · refine ⟨tw, List.mem_cons_self, fun x hx => ?_⟩
    rw [hnil] at hx
    cases hx
  by_cases hall : ∀ x ∈ s.expectedTags, s.isReplay x.1 = true
  · refine ⟨tw, List.mem_cons_self, fun x hx => ?_⟩
    obtain ⟨hmem, hreplay⟩ := List.mem_filter.1 hx
    rw [hall x hmem] at hreplay
    cases hreplay
  refine ⟨w₀, ?_, fun x hx => hbuilt x (List.mem_filter.1 hx).1⟩
  obtain ⟨x, hmem, hreplay⟩ : ∃ x ∈ s.expectedTags, s.isReplay x.1 = false := by
    by_contra hnone
    refine hall fun x hx => ?_
    by_contra hx'
    exact hnone ⟨x, hx, Bool.not_eq_true _ ▸ hx'⟩
  have htriple : ∀ y ∈ s.expectedTags, ∀ w ∈ W, (s.keys.tagSecret, y.1, w) ∈ s.tagTriples W :=
    fun y hy w hw => ⟨false, rfl, hw, mem_lookupCounters_of_base (hsound.current y hy).1⟩
  -- the tag is found in the table, and for this counter only
  have hfind : ∃ y ∈ s.expectedTags, s.expectedTags.find? (fun e => e.2 = x.2) = some y ∧
      y.1 = x.1 := by
    obtain ⟨y, hy⟩ := Option.isSome_iff_exists.1
      (List.find?_isSome (p := fun e : Nat × Tag => decide (e.2 = x.2)).2 ⟨x, hmem, by simp⟩)
    have hymem := List.mem_of_find?_eq_some hy
    have htag : y.2 = x.2 := by simpa using List.find?_some hy
    rw [hbuilt y hymem, hbuilt x hmem] at htag
    have heq := hfree (htriple y hymem w₀ hw₀) (htriple x hmem w₀ hw₀) htag
    exact ⟨y, hymem, hy, congrArg (fun t => t.2.1) heq⟩
  obtain ⟨y, -, hy, hyx⟩ := hfind
  have hvalid : s.validateTag P tw x.2 = some (x.1, false) := by
    unfold validateTag
    simp only [hy, hyx, hreplay, Bool.false_eq_true, if_false]
  obtain ⟨w, hw, secret, hsecret, htag⟩ := h _ _ _ hvalid
  cases hsecret
  rw [hbuilt x hmem] at htag
  have heq := hfree (htriple x hmem w (hnear w hw)) (htriple x hmem w₀ hw₀) htag
  obtain rfl : w = w₀ := congrArg (fun t => t.2.2) heq
  exact hw

/-- The same for the second table: its tags are not those of the current keys. -/
theorem pendingFresh_of_acceptsFresh
    (hdistinct : ∀ keys, s.ratchetedKeys = some keys → keys.tagSecret ≠ s.keys.tagSecret) :
    s.PendingFresh P tw := by
  intro hratcheted keys hkeys
  rcases htables.pending keys hkeys with hnil | ⟨w₁, hw₁, hbuilt⟩
  · refine ⟨tw, List.mem_cons_self, fun x hx => ?_⟩
    rw [hnil] at hx
    cases hx
  cases htable : s.ratchetedExpectedTags with
  | nil => exact ⟨tw, List.mem_cons_self, nofun⟩
  | cons x rest =>
      rw [← htable]
      refine ⟨w₁, ?_, hbuilt⟩
      have hmem : x ∈ s.ratchetedExpectedTags := htable ▸ List.mem_cons_self
      have hsecret : s.tagSecret true = some keys.tagSecret := by
        unfold tagSecret
        rw [hkeys]
        rfl
      have htriple : ∀ y ∈ s.ratchetedExpectedTags, ∀ w ∈ W,
          (keys.tagSecret, y.1, w) ∈ s.tagTriples W :=
        fun y hy w hw => ⟨true, hsecret, hw, (hsound.pending y hy).1⟩
      -- the tag of the other table is none of the current keys
      have hother : ∀ c w, (s.keys.tagSecret, c, w) ∈ s.tagTriples W →
          P.generateResonanceTag s.keys.tagSecret c w ≠ x.2 := by
        intro c w hcurrent heq
        rw [hbuilt x hmem] at heq
        exact hdistinct keys hkeys
          (congrArg Prod.fst (hfree (htriple x hmem w₁ hw₁) hcurrent heq.symm))
      have hfirst : s.expectedTags.find? (fun e => e.2 = x.2) = none := by
        rw [List.find?_eq_none]
        intro y hy htag
        obtain ⟨hc, w, hw, hyw⟩ := hsound.current y hy
        refine hother y.1 w ⟨false, rfl, hw, mem_lookupCounters_of_base hc⟩ ?_
        rw [← hyw]
        simpa using htag
      have hadjacent : adjacentMatch P s.keys.tagSecret tw s.windowCounters x.2 = none := by
        by_contra hsome
        obtain ⟨c, hc⟩ := Option.ne_none_iff_exists'.1 hsome
        obtain ⟨hcounter, w, hw, htag⟩ := adjacentMatch_eq_some hc
        exact hother c w ⟨false, rfl, hnear w hw, mem_lookupCounters_of_window hcounter⟩ htag
      obtain ⟨y, hy⟩ := Option.isSome_iff_exists.1 (List.find?_isSome
        (p := fun e : Nat × Tag => decide (e.2 = x.2)).2 ⟨x, hmem, by simp⟩)
      -- the lookup validates it from the pending table, whose window must then be near
      have hvalid : s.validateTag P tw x.2 = some (y.1, true) := by
        unfold validateTag validateRatchetedTag
        simp only [hfirst, hadjacent, hratcheted, Bool.false_eq_true, if_false, hy]
      obtain ⟨w, hw, secret, hsecret', htag⟩ := h _ _ _ hvalid
      obtain rfl : keys.tagSecret = secret := Option.some.inj (hsecret.symm.trans hsecret')
      rw [hbuilt x hmem] at htag
      have heq := hfree (htriple y (List.mem_of_find?_eq_some hy) w (hnear w hw))
        (htriple x hmem w₁ hw₁) htag
      obtain rfl : w = w₁ := congrArg (fun t => t.2.2) heq
      exact hw

end

end Session

/-- Tag freshness, for every session of every run and at every time: without collisions, a session
accepts only tags of windows next to the current one exactly when its tables were built in such
windows. -/
theorem acceptsFresh_iff (P : Primitives) (rng : Randomness) (cfg : GatewayConfig)
    (serverKeys : KeyPair) (signingKey : Key) (clientDb : Option (List ClientConfig))
    (es : List (Env × Gateway.Event)) (sid : SessionId) {s : Session}
    (hs : s = (runFrom (Gateway.step P rng cfg) (Gateway.new serverKeys signingKey clientDb)
      es).session sid) (tw : Nat)
    (hdistinct : ∀ keys, s.ratchetedKeys = some keys → keys.tagSecret ≠ s.keys.tagSecret)
    (hfree : P.CollisionFree (s.tagTriples (Gateway.windowsOf es ∪ { w | w ∈ nearWindows tw }))) :
    s.AcceptsFresh P tw ↔ s.CurrentFresh P tw ∧ s.PendingFresh P tw := by
  have hsound := (cacheSound_of_run P rng cfg serverKeys signingKey clientDb es sid).mono
    (@Set.subset_union_left _ (Gateway.windowsOf es) { w | w ∈ nearWindows tw })
  have htables := tables_of_run P rng cfg serverKeys signingKey clientDb es sid
  rw [← hs] at hsound htables
  have htables' : s.Tables P (Gateway.windowsOf es ∪ { w | w ∈ nearWindows tw }) :=
    ⟨htables.current.imp_right fun ⟨w, hw, hbuilt⟩ => ⟨w, Or.inl hw, hbuilt⟩,
      fun keys hkeys => (htables.pending keys hkeys).imp_right fun ⟨w, hw, hbuilt⟩ =>
        ⟨w, Or.inl hw, hbuilt⟩⟩
  constructor
  · intro h
    exact ⟨Session.currentFresh_of_acceptsFresh hsound htables' (fun _ => Or.inr) hfree h,
      Session.pendingFresh_of_acceptsFresh hsound htables' (fun _ => Or.inr) hfree h hdistinct⟩
  · rintro ⟨hcurrent, hpending⟩
    exact Session.acceptsFresh_of_fresh hsound hcurrent hpending

/-- The session of the sample client, whose tables were built in window 100, accepts a tag of that window
in window 200. -/
theorem stale_tag_accepted :
    (sampleAfterInit.session 0).validateTag samplePrimitives 200
      (samplePrimitives.generateResonanceTag (sampleAfterInit.session 0).keys.tagSecret 5 100) =
        some (5, false) ∧
    ¬ (sampleAfterInit.session 0).AcceptsFresh samplePrimitives 200 := by
  have hvalid : (sampleAfterInit.session 0).validateTag samplePrimitives 200
      (samplePrimitives.generateResonanceTag (sampleAfterInit.session 0).keys.tagSecret 5 100) =
        some (5, false) := by
    decide +kernel
  refine ⟨hvalid, fun h => ?_⟩
  obtain ⟨w, hw, secret, hsecret, htag⟩ := h _ _ _ hvalid
  cases hsecret
  have hbytes := congrArg (fun t : Tag => t.toList.drop 5) htag
  simp only [samplePrimitives_tag] at hbytes
  rw [List.drop_left' (by simp), List.drop_left' (by simp)] at hbytes
  have hold : ∀ w ∈ nearWindows 200, leBytes 3 w ≠ leBytes 3 100 := by decide +kernel
  exact hold w hw hbytes

/-- In the window in which its tables were built the session accepts fresh tags only. -/
theorem sampleAfterInit_acceptsFresh :
    (sampleAfterInit.session 0).AcceptsFresh samplePrimitives 100 := by
  obtain ⟨hone, -⟩ := sampleAfterInit_state
  have hideal : sampleAfterInit.sessionManager.Ideal samplePrimitives
      (Gateway.windowsOf [(sampleEnv 100, .packet (sampleInit none 101) sampleAddr)] ∪
        { w | w ∈ nearWindows 100 }) := by
    refine sampleAfterInit_ideal fun w hw => ?_
    rcases hw with ⟨e, he, hw⟩ | hw
    · obtain rfl := List.mem_singleton.1 he
      exact hw ▸ (by decide)
    · have hnear : ∀ w ∈ nearWindows 100, w < 2 ^ 24 := by decide
      exact hnear w hw
  have hlive : 0 ∈ sampleAfterInit.sessionManager.sessions := by
    rw [hone]
    exact List.mem_singleton_self 0
  have hfacts : (∀ keys ∈ (sampleAfterInit.session 0).ratchetedKeys,
        keys.tagSecret ≠ (sampleAfterInit.session 0).keys.tagSecret) ∧
      BuiltAt samplePrimitives (sampleAfterInit.session 0).keys.tagSecret 100
        ((sampleAfterInit.session 0).expectedTags.filter fun x =>
          !(sampleAfterInit.session 0).isReplay x.1) ∧
      ∀ keys ∈ (sampleAfterInit.session 0).ratchetedKeys, BuiltAt samplePrimitives
        keys.tagSecret 100 (sampleAfterInit.session 0).ratchetedExpectedTags := by
    decide +kernel
  obtain ⟨hdistinct, hcurrent, hpending⟩ := hfacts
  have hfree : samplePrimitives.CollisionFree ((sampleAfterInit.session 0).tagTriples
      (Gateway.windowsOf [(sampleEnv 100, .packet (sampleInit none 101) sampleAddr)] ∪
        { w | w ∈ nearWindows 100 })) := by
    refine Set.InjOn.mono (fun x hx => ?_) hideal.tags
    exact ⟨0, hlive, hx⟩
  have hiff := acceptsFresh_iff (s := sampleAfterInit.session 0) samplePrimitives sampleRandomness
    sampleConfig sampleServerKeys default none
    [(sampleEnv 100, .packet (sampleInit none 101) sampleAddr)] 0 rfl 100 hdistinct hfree
  exact hiff.2 ⟨⟨100, List.mem_cons_self, hcurrent⟩,
    fun _ keys hkeys => ⟨100, List.mem_cons_self, hpending keys hkeys⟩⟩

end Aivpn
