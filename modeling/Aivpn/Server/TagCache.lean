import Aivpn.Server.Recovery
import Aivpn.Server.TagMap

/-!
# Where the cached tags come from

A session precomputes tags: for its current keys around the highest counter it has seen, for its
pending keys from counter 0 on. The tags stay cached until the next refresh, so a cached tag may
belong to a time window the gateway has left. `Session.CacheSound` says that every cached tag is a
tag of the session's own keys in a window of `W`; it holds in every run of the gateway whose steps
happen in windows of `W` (`cacheSound_of_run`). `Session.HasTag` lists the tags that a lookup in the
session can accept, cached or not, and `findSession_hasTag` says that the lookup chain accepts no
others.
-/

set_option autoImplicit false

namespace Aivpn

open Aivpn.Lib

/-- The counters of the tag window that `update_tag_window` builds around `n`. -/
def countersAround (n : Nat) : List Nat :=
  List.range' (n - (tagWindowSize - 1))
    (saturatingAdd n (tagWindowSize - 1) + 1 - (n - (tagWindowSize - 1)))

/-- The time windows in which a lookup searches. -/
def nearWindows (tw : Nat) : List Nat := [tw, wrappingPred tw, wrappingAdd tw 1]

theorem Session.windowCounters_eq (s : Session) : s.windowCounters = countersAround s.counter := rfl

theorem mem_countersAround {c n : Nat} :
    c ∈ countersAround n ↔ n ≤ c + 255 ∧ c ≤ n + 255 ∧ c ≤ u64Max := by
  unfold countersAround saturatingAdd tagWindowSize u64Max
  rw [List.mem_range'_1]
  omega

theorem mem_nearWindows {tw w : Nat} (hw : w < 2 ^ 64) (h1 : w ≤ tw + 1) (h2 : tw ≤ w + 1) :
    w ∈ nearWindows tw := by
  have hcases : w = tw ∨ w + 1 = tw ∨ w = tw + 1 := by omega
  unfold nearWindows wrappingPred wrappingAdd u64Max
  rcases hcases with rfl | rfl | rfl
  · simp
  · have hpred : (w + 1 + (2 ^ 64 - 1)) % 2 ^ 64 = w := by omega
    rw [hpred]
    simp
  · rw [Nat.mod_eq_of_lt hw]
    simp

theorem adjacentWindows_subset {tw w : Nat} (h : w ∈ adjacentWindows tw) : w ∈ nearWindows tw :=
  List.mem_cons_of_mem _ h

namespace Session

variable {P : Primitives} {W : Set Nat}

/-! ## Fresh tag windows -/

@[simp] theorem refresh_windowCounters (tw : Nat) (s : Session) :
    ((s.updateTagWindow P tw).updateRatchetedTagWindow P tw).windowCounters =
      s.windowCounters := by
  simp [windowCounters]

theorem refresh_keyState (tw : Nat) (s : Session) :
    ((s.updateTagWindow P tw).updateRatchetedTagWindow P tw).keyState = s.keyState := by
  simp

theorem refresh_expectedTags (tw : Nat) (s : Session) :
    ((s.updateTagWindow P tw).updateRatchetedTagWindow P tw).expectedTags =
      s.windowCounters.map fun c => (c, P.generateResonanceTag s.keys.tagSecret c tw) := by
  unfold updateRatchetedTagWindow
  split <;> simp [updateTagWindow]

theorem refresh_ratchetedExpectedTags (tw : Nat) (s : Session) :
    ((s.updateTagWindow P tw).updateRatchetedTagWindow P tw).ratchetedExpectedTags =
      match s.ratchetedKeys with
      | some ratchetedKeys => (List.range tagWindowSize).map fun c =>
          (c, P.generateResonanceTag ratchetedKeys.tagSecret c tw)
      | none => s.ratchetedExpectedTags := by
  have hkeys : (s.updateTagWindow P tw).ratchetedKeys = s.ratchetedKeys := by
    simp [updateTagWindow]
  unfold updateRatchetedTagWindow
  rw [hkeys]
  cases s.ratchetedKeys with
  | some ratchetedKeys => rfl
  | none => simp [updateTagWindow]

/-! ## Provenance of the cached tags -/

/-- Every cached tag is one of the session's own: for a counter of the cached window under the
current keys, or for one of the first counters under the pending keys, in a time window of `W`.
A ratcheted session has no pending keys and no ServerHello left. -/
structure CacheSound (P : Primitives) (W : Set Nat) (s : Session) : Prop where
  current : ∀ x ∈ s.expectedTags, x.1 ∈ countersAround s.tagWindowBase ∧
    ∃ w ∈ W, x.2 = P.generateResonanceTag s.keys.tagSecret x.1 w
  pending : ∀ x ∈ s.ratchetedExpectedTags, x.1 < tagWindowSize ∧
    ∃ keys, s.ratchetedKeys = some keys ∧
      ∃ w ∈ W, x.2 = P.generateResonanceTag keys.tagSecret x.1 w
  ratcheted : s.isRatcheted = true → s.ratchetedKeys = none ∧ s.serverEphPub = none

theorem CacheSound.mono {s : Session} {W' : Set Nat} (h : s.CacheSound P W) (hW : W ⊆ W') :
    s.CacheSound P W' where
  current x hx := by
    obtain ⟨hc, w, hw, htag⟩ := h.current x hx
    exact ⟨hc, w, hW hw, htag⟩
  pending x hx := by
    obtain ⟨hc, keys, hkeys, w, hw, htag⟩ := h.pending x hx
    exact ⟨hc, keys, hkeys, w, hW hw, htag⟩
  ratcheted := h.ratcheted

/-- Without pending keys there are no pending tags. -/
theorem CacheSound.pending_eq_nil {s : Session} (h : s.CacheSound P W)
    (hnone : s.ratchetedKeys = none) : s.ratchetedExpectedTags = [] := by
  rw [List.eq_nil_iff_forall_not_mem]
  intro x hx
  obtain ⟨-, keys, hkeys, -⟩ := h.pending x hx
  rw [hnone] at hkeys
  cases hkeys

/-- The rebuilt window of the current keys is sound, whatever was cached before. -/
theorem updateTagWindow_current (P : Primitives) {tw : Nat} (hw : tw ∈ W) (s : Session) :
    ∀ x ∈ (s.updateTagWindow P tw).expectedTags,
      x.1 ∈ countersAround (s.updateTagWindow P tw).tagWindowBase ∧
        ∃ w ∈ W, x.2 = P.generateResonanceTag (s.updateTagWindow P tw).keys.tagSecret x.1 w := by
  unfold Session.updateTagWindow
  simp only [windowCounters_eq, List.mem_map]
  rintro x ⟨c, hc, rfl⟩
  exact ⟨hc, tw, hw, rfl⟩

/-- The part of a session that `CacheSound` reads besides the cached tags of the current keys. -/
theorem CacheSound.of_current {s t : Session} (h : s.CacheSound P W)
    (hcurrent : ∀ x ∈ t.expectedTags, x.1 ∈ countersAround t.tagWindowBase ∧
      ∃ w ∈ W, x.2 = P.generateResonanceTag t.keys.tagSecret x.1 w)
    (hpending : t.ratchetedExpectedTags = s.ratchetedExpectedTags)
    (hkeys : t.ratchetedKeys = s.ratchetedKeys) (hratcheted : t.isRatcheted = s.isRatcheted)
    (hhello : t.serverEphPub = s.serverEphPub) : t.CacheSound P W := by
  refine ⟨hcurrent, ?_, ?_⟩
  · rw [hpending, hkeys]
    exact h.pending
  · rw [hratcheted, hkeys, hhello]
    exact h.ratcheted

theorem CacheSound.updateTagWindow {s : Session} (h : s.CacheSound P W) {tw : Nat} (hw : tw ∈ W) :
    (s.updateTagWindow P tw).CacheSound P W := by
  refine h.of_current (updateTagWindow_current P hw s) ?_ ?_ ?_ ?_
  · simp only [Session.updateTagWindow]
  · simp only [Session.updateTagWindow]
  · simp only [Session.updateTagWindow]
  · simp only [Session.updateTagWindow]

theorem CacheSound.recoverAt {s : Session} (h : s.CacheSound P W) {tw : Nat} (hw : tw ∈ W)
    (c : Nat) : (s.recoverAt P tw c).CacheSound P W := by
  refine h.of_current (updateTagWindow_current P hw _) ?_ ?_ ?_ ?_
  · simp only [Session.recoverAt, Session.updateTagWindow]
  · simp only [Session.recoverAt, Session.updateTagWindow]
  · simp only [Session.recoverAt, Session.updateTagWindow]
  · simp only [Session.recoverAt, Session.updateTagWindow]

theorem CacheSound.updateRatchetedTagWindow {s : Session} (h : s.CacheSound P W) {tw : Nat}
    (hw : tw ∈ W) : (s.updateRatchetedTagWindow P tw).CacheSound P W := by
  unfold Session.updateRatchetedTagWindow
  split
  · next keys hkeys =>
      refine ⟨h.current, fun x hx => ?_, h.ratcheted⟩
      simp only [List.mem_map, List.mem_range] at hx
      obtain ⟨c, hc, rfl⟩ := hx
      exact ⟨hc, keys, hkeys, tw, hw, rfl⟩
  · exact h

/-- The pending tags become the current ones, around counter 0. -/
theorem CacheSound.completeRatchet {s : Session} (h : s.CacheSound P W) :
    s.completeRatchet.CacheSound P W := by
  unfold Session.completeRatchet
  split
  · next keys hkeys =>
      refine ⟨fun x hx => ?_, fun x hx => ?_, fun _ => ⟨rfl, rfl⟩⟩
      · obtain ⟨hc, keys', hkeys', w, hw, htag⟩ := h.pending x hx
        rw [hkeys] at hkeys'
        cases hkeys'
        refine ⟨?_, w, hw, htag⟩
        unfold tagWindowSize at hc
        simp only [mem_countersAround, u64Max]
        omega
      · cases hx
  · exact h

theorem CacheSound.markTagReceived {s : Session} (h : s.CacheSound P W) (c : Nat) :
    (s.markTagReceived c).CacheSound P W := by
  unfold Session.markTagReceived
  simp only
  split_ifs
  · exact ⟨h.current, h.pending, h.ratcheted⟩
  · exact ⟨h.current, h.pending, h.ratcheted⟩
  · exact ⟨h.current, h.pending, h.ratcheted⟩

/-- What an accepted datagram does to a session: the counter is marked, the tag window is rebuilt
when the counter has moved far enough, and fields that no lookup reads are updated. -/
theorem receive_eq (P : Primitives) (env : Env) (s : Session) (c : Nat) (isNew : Bool)
    (addr : SocketAddr) (len : Nat) :
    ∃ instant client bytes, (s.receive P env c isNew addr len).1 =
      { s.acceptCounter P env.timeWindow c with
        lastSeen := instant
        clientAddr := client
        pendingBytesIn := bytes } := by
  unfold Session.receive Session.acceptCounter needsRefresh
  generalize s.markTagReceived c = t
  by_cases hrefresh : 64 ≤ c - t.tagWindowBase
  · by_cases haddr : (!isNew && decide (t.clientAddr ≠ addr)) = true
    · simp only [haddr, hrefresh, decide_true, if_true]
      split_ifs <;> exact ⟨_, _, _, rfl⟩
    · simp only [haddr, hrefresh, decide_true, if_true, Bool.false_eq_true, if_false]
      split_ifs <;> exact ⟨_, _, _, rfl⟩
  · by_cases haddr : (!isNew && decide (t.clientAddr ≠ addr)) = true
    · simp only [haddr, hrefresh, decide_false, if_true, Bool.false_eq_true, if_false]
      split_ifs <;> exact ⟨_, _, _, rfl⟩
    · simp only [haddr, hrefresh, decide_false, Bool.false_eq_true, if_false]
      split_ifs <;> exact ⟨_, _, _, rfl⟩

theorem CacheSound.receive {s : Session} (h : s.CacheSound P W) {env : Env}
    (hw : env.timeWindow ∈ W) (c : Nat) (isNew : Bool) (addr : SocketAddr) (len : Nat) :
    (s.receive P env c isNew addr len).1.CacheSound P W := by
  have haccept : (s.acceptCounter P env.timeWindow c).CacheSound P W := by
    unfold Session.acceptCounter
    simp only
    split_ifs
    · exact (h.markTagReceived c).updateTagWindow hw
    · exact h.markTagReceived c
  obtain ⟨instant, client, bytes, heq⟩ := s.receive_eq P env c isNew addr len
  rw [heq]
  exact ⟨haccept.current, haccept.pending, haccept.ratcheted⟩

/-- The changes of a step in a window of `W` keep the cached tags sound. -/
theorem CacheSound.change {e : Env × Gateway.Event} {s s' : Session} (h : s.CacheSound P W)
    (hw : e.1.timeWindow ∈ W) (hch : Session.Change P e s s') : s'.CacheSound P W := by
  cases hch with
  | refresh => exact (h.updateTagWindow hw).updateRatchetedTagWindow hw
  | recover hfind => exact h.recoverAt hw _
  | ratchet hkeys hopens => exact h.completeRatchet
  | receive c isNew addr len => exact h.receive hw c isNew addr len
  | identify clientId hnone => exact ⟨h.current, h.pending, h.ratcheted⟩
  | takeSeq => exact ⟨h.current, h.pending, h.ratcheted⟩
  | send => exact ⟨h.current, h.pending, h.ratcheted⟩

/-- A session without cached tags. -/
theorem cacheSound_of_empty {s : Session} (hcurrent : s.expectedTags = [])
    (hpending : s.ratchetedExpectedTags = []) (hratcheted : s.isRatcheted = false) :
    s.CacheSound P W where
  current x hx := by
    rw [hcurrent] at hx
    cases hx
  pending x hx := by
    rw [hpending] at hx
    cases hx
  ratcheted hr := by
    rw [hratcheted] at hr
    cases hr

end Session

theorem SessionManager.initialSession_cacheSound {P : Primitives} {W : Set Nat} {env : Env}
    (hw : env.timeWindow ∈ W) (m : SessionManager) (addr : SocketAddr) (ephPub : Key)
    (initialKeys : SessionKeys) (serverEphKp : KeyPair) (dh2 : Key) :
    (m.initialSession P env addr ephPub initialKeys serverEphKp dh2).CacheSound P W := by
  unfold initialSession
  exact ((Session.cacheSound_of_empty rfl rfl rfl).updateTagWindow hw).updateRatchetedTagWindow hw

theorem SessionManager.Creates.cacheSound {P : Primitives} {rng : Randomness} {W : Set Nat}
    {env : Env} {m : SessionManager} {ephPub : Key} {psk : Option Key} {s : Session}
    (h : m.Creates P rng env ephPub psk s) (hw : env.timeWindow ∈ W) : s.CacheSound P W := by
  obtain ⟨addr, dh1, dh2, vpnIp, -, -, rfl⟩ := h
  have hs := m.initialSession_cacheSound (P := P) hw addr ephPub
    (P.deriveSessionKeys dh1 psk ephPub) (P.fromPrivateKey (rng.serverEph m.nextId)) dh2
  generalize m.initialSession P env addr ephPub _ _ dh2 = s at hs
  exact ⟨hs.current, hs.pending, hs.ratcheted⟩

/-- The time windows of the steps of a run. -/
def Gateway.windowsOf (es : List (Env × Gateway.Event)) : Set Nat :=
  { w | ∃ e ∈ es, e.1.timeWindow = w }

/-- In every run of the gateway the cached tags are sound for the windows of its steps. -/
theorem cacheSound_of_run (P : Primitives) (rng : Randomness) (cfg : GatewayConfig)
    (serverKeys : KeyPair) (signingKey : Key) (clientDb : Option (List ClientConfig))
    (es : List (Env × Gateway.Event)) (sid : SessionId) :
    ((runFrom (Gateway.step P rng cfg) (Gateway.new serverKeys signingKey clientDb)
      es).session sid).CacheSound P (Gateway.windowsOf es) := by
  have hrun := @runFrom_invariant_of_along Gateway (Env × Gateway.Event) (Gateway.step P rng cfg)
    (fun g => ∀ sid, (g.session sid).CacheSound P (Gateway.windowsOf es))
    (fun _ e => e.1.timeWindow ∈ Gateway.windowsOf es)
    (fun g e hg hw => Gateway.session_of_step (Q := fun _ s => s.CacheSound P _) hg
      (fun m ephPub psk s hs => hs.cacheSound hw) (fun _ s s' hs hch => hs.change hw hch))
    (Gateway.new serverKeys signingKey clientDb) es
    (fun _ => Session.cacheSound_of_empty rfl rfl rfl)
    (along_of_forall fun e he => ⟨e, he, rfl⟩)
  exact hrun sid

/-! ## Tags that a lookup can accept -/

namespace Session

/-- The counters that a lookup compares with a tag of the current keys: those of the cached window,
of the window around the highest counter, and of the recovery range. -/
def lookupCounters (s : Session) : List Nat :=
  countersAround s.tagWindowBase ++ s.windowCounters ++
    (List.range recoveryRange).map (wrappingAdd s.counter)

/-- The tag is that of counter `c` in a window of `W`, under the current keys of the session or,
with the flag set, under its pending keys. -/
inductive HasTag (P : Primitives) (W : Set Nat) (s : Session) (tag : Tag) : Nat → Bool → Prop where
  | current {c w : Nat} (hc : c ∈ s.lookupCounters) (hw : w ∈ W)
      (htag : P.generateResonanceTag s.keys.tagSecret c w = tag) : HasTag P W s tag c false
  | pending {c w : Nat} {keys : SessionKeys} (hkeys : s.ratchetedKeys = some keys)
      (hc : c < tagWindowSize) (hw : w ∈ W)
      (htag : P.generateResonanceTag keys.tagSecret c w = tag) : HasTag P W s tag c true

variable {P : Primitives} {W : Set Nat}

theorem mem_lookupCounters_of_base {s : Session} {c : Nat}
    (h : c ∈ countersAround s.tagWindowBase) : c ∈ s.lookupCounters :=
  List.mem_append_left _ (List.mem_append_left _ h)

theorem mem_lookupCounters_of_window {s : Session} {c : Nat} (h : c ∈ s.windowCounters) :
    c ∈ s.lookupCounters :=
  List.mem_append_left _ (List.mem_append_right _ h)

theorem lt_of_mem_lookupCounters {s : Session} {c n : Nat} (hcounter : s.counter ≤ n)
    (hbase : s.tagWindowBase ≤ n) (h : c ∈ s.lookupCounters) : c < n + recoveryRange := by
  simp only [lookupCounters, windowCounters_eq, List.mem_append, mem_countersAround, List.mem_map,
    List.mem_range, recoveryRange, wrappingAdd] at h ⊢
  rcases h with (h | h) | ⟨i, hi, rfl⟩
  · omega
  · omega
  · exact Nat.lt_of_le_of_lt (Nat.mod_le _ _) (by omega)

theorem adjacentMatch_eq_some {secret : Key} {tw c : Nat} {counters : List Nat} {tag : Tag}
    (h : adjacentMatch P secret tw counters tag = some c) :
    c ∈ counters ∧ ∃ w ∈ nearWindows tw, P.generateResonanceTag secret c w = tag := by
  refine ⟨adjacentMatch_mem P h, ?_⟩
  obtain ⟨w, hw, hfind⟩ := List.exists_of_findSome?_eq_some h
  exact ⟨w, adjacentWindows_subset hw, by simpa using List.find?_some hfind⟩

/-- A cached tag is the tag of its counter. -/
theorem CacheSound.hasTag_current {s : Session} (h : s.CacheSound P W) {x : Nat × Tag}
    (hx : x ∈ s.expectedTags) : s.HasTag P W x.2 x.1 false := by
  obtain ⟨hc, w, hw, htag⟩ := h.current x hx
  exact .current (mem_lookupCounters_of_base hc) hw htag.symm

theorem CacheSound.hasTag_pending {s : Session} (h : s.CacheSound P W) {x : Nat × Tag}
    (hx : x ∈ s.ratchetedExpectedTags) : s.HasTag P W x.2 x.1 true := by
  obtain ⟨hc, keys, hkeys, w, hw, htag⟩ := h.pending x hx
  exact .pending hkeys hc hw htag.symm

/-- `validate_tag` accepts the session's own tags only. -/
theorem CacheSound.hasTag_of_validateTag {s : Session} (h : s.CacheSound P W) {tw c : Nat}
    {tag : Tag} {r : Bool} (hnear : ∀ w ∈ nearWindows tw, w ∈ W)
    (hv : s.validateTag P tw tag = some (c, r)) : s.HasTag P W tag c r := by
  unfold validateTag at hv
  -- the tag is found in the current table, near the current window, or the same for the ratcheted
  -- keys
  split at hv
  · next c' tag' hfind =>
      have hx := h.hasTag_current (List.mem_of_find?_eq_some hfind)
      have htag : tag' = tag := by simpa using List.find?_some hfind
      split_ifs at hv
      cases hv
      exact htag ▸ hx
  · split at hv
    · next c' hadj =>
        obtain ⟨hc, w, hw, htag⟩ := adjacentMatch_eq_some hadj
        split_ifs at hv
        cases hv
        exact .current (mem_lookupCounters_of_window hc) (hnear w hw) htag
    · unfold validateRatchetedTag at hv
      split_ifs at hv
      split at hv
      · next c' tag' hfind =>
          have hx := h.hasTag_pending (List.mem_of_find?_eq_some hfind)
          have htag : tag' = tag := by simpa using List.find?_some hfind
          cases hv
          exact htag ▸ hx
      · split at hv
        · cases hv
        · next keys hkeys =>
            obtain ⟨c', hadj, heq⟩ := Option.map_eq_some_iff.1 hv
            cases heq
            obtain ⟨hc, w, hw, htag⟩ := adjacentMatch_eq_some hadj
            exact .pending hkeys (List.mem_range.1 hc) (hnear w hw) htag

/-- The recovery search accepts tags of the current keys only. -/
theorem hasTag_of_recoverySearch {s : Session} {tw c : Nat} {tag : Tag}
    (hnear : ∀ w ∈ nearWindows tw, w ∈ W) (hfind : s.recoverySearch P tw tag = some c) :
    s.HasTag P W tag c false := by
  obtain ⟨i, w, hi, hw, rfl, htag⟩ := recoverySearch_eq_some P hfind
  refine .current (List.mem_append_right _ (List.mem_map.2 ⟨i, ?_, rfl⟩)) (hnear w hw) htag
  exact List.mem_range.2 hi

/-- A new tag window looks for no further counter. -/
theorem mem_lookupCounters_of_updateTagWindow {s : Session} {tw c : Nat}
    (h : c ∈ (s.updateTagWindow P tw).lookupCounters) : c ∈ s.lookupCounters := by
  have hbase : (s.updateTagWindow P tw).tagWindowBase = s.counter := rfl
  simp only [lookupCounters, List.mem_append, windowCounters_eq, hbase,
    updateTagWindow_counter] at h
  rcases h with (h | h) | h
  · exact mem_lookupCounters_of_window h
  · exact mem_lookupCounters_of_window h
  · exact List.mem_append_right _ h

@[simp] theorem updateRatchetedTagWindow_lookupCounters (tw : Nat) (s : Session) :
    (s.updateRatchetedTagWindow P tw).lookupCounters = s.lookupCounters := by
  unfold updateRatchetedTagWindow
  split
  · simp only [lookupCounters, windowCounters]
  · rfl

/-- A refresh of the tag windows adds no tag. -/
theorem HasTag.of_refresh {s : Session} {tw c : Nat} {tag : Tag} {r : Bool}
    (h : ((s.updateTagWindow P tw).updateRatchetedTagWindow P tw).HasTag P W tag c r) :
    s.HasTag P W tag c r := by
  have hstate := refresh_keyState (P := P) tw s
  cases h with
  | current hc hw htag =>
      have hkeys : (Session.updateRatchetedTagWindow P tw (s.updateTagWindow P tw)).keys = s.keys :=
        congrArg KeyState.keys hstate
      rw [updateRatchetedTagWindow_lookupCounters] at hc
      exact .current (mem_lookupCounters_of_updateTagWindow hc) hw (hkeys ▸ htag)
  | pending hkeys hc hw htag =>
      have hpend := congrArg KeyState.ratchetedKeys hstate
      exact .pending (hpend.symm.trans hkeys) hc hw htag

end Session

namespace SessionManager

variable {P : Primitives} {W : Set Nat}

/-- What a refresh of the tag windows keeps in a session, the refresh loop keeps in all of them. -/
theorem refreshLoop_preserves {Q : Session → Prop} {tw : Nat}
    (hQ : ∀ s : Session, Q s → Q ((s.updateTagWindow P tw).updateRatchetedTagWindow P tw))
    (tag : Tag) (sids : List SessionId) {m : SessionManager} {sid : SessionId}
    (h : Q (m.heap sid)) : Q ((refreshLoop P tw tag sids m).2.heap sid) := by
  induction sids generalizing m with
  | nil => exact h
  | cons sid' rest ih =>
      have hone : Q ((m.refreshSession P tw sid').heap sid) := by
        show Q (Function.update m.heap sid' _ sid)
        by_cases heq : sid = sid'
        · subst heq
          rw [Function.update_self]
          exact hQ _ h
        · rwa [Function.update_of_ne heq]
      unfold refreshLoop
      simp only
      split
      · exact hone
      · exact ih hone

/-- The lookup chain accepts a tag for a session only as one of the session's own. -/
theorem findSession_hasTag {env : Env} {m m' : SessionManager} {tag : Tag} {ip : IpAddr}
    {sid : SessionId} {c : Nat} {r : Bool} (hsound : (m.heap sid).CacheSound P W)
    (hnear : ∀ w ∈ nearWindows env.timeWindow, w ∈ W)
    (h : m.findSession P env tag ip = (.ok (some (sid, c, r)), m')) :
    (m.heap sid).HasTag P W tag c r := by
  rcases m.findSession_cases P env tag ip with ⟨sid', -, hfs | ⟨c', r', hv, hfs⟩⟩ |
    ⟨-, ⟨hit, href, hfs⟩ | ⟨-, hfs⟩⟩
  · rw [hfs] at h
    cases h
  · rw [hfs] at h
    cases h
    exact hsound.hasTag_of_validateTag hnear hv
  · rw [hfs] at h
    cases h
    obtain ⟨-, hv⟩ := refreshLoop_hit P href
    -- the refreshed session is sound, and has no tag that the session did not have before
    have htw : env.timeWindow ∈ W := hnear _ List.mem_cons_self
    have hpreserved : ∀ s : Session,
        (s.CacheSound P W ∧ ∀ c r, s.HasTag P W tag c r → (m.heap sid).HasTag P W tag c r) →
        ((s.updateTagWindow P env.timeWindow).updateRatchetedTagWindow P
          env.timeWindow).CacheSound P W ∧
        ∀ c r, ((s.updateTagWindow P env.timeWindow).updateRatchetedTagWindow P
          env.timeWindow).HasTag P W tag c r → (m.heap sid).HasTag P W tag c r :=
      fun s hs => ⟨(hs.1.updateTagWindow htw).updateRatchetedTagWindow htw,
        fun c r ht => hs.2 c r ht.of_refresh⟩
    have hstart : (m.heap sid).CacheSound P W ∧
        ∀ c r, (m.heap sid).HasTag P W tag c r → (m.heap sid).HasTag P W tag c r :=
      ⟨hsound, fun _ _ ht => ht⟩
    have hloop := refreshLoop_preserves hpreserved tag m.sessions hstart
    exact hloop.2 c r (hloop.1.hasTag_of_validateTag hnear hv)
  · rw [hfs] at h
    have hrec := Except.ok.inj (Prod.mk.inj h).1
    unfold recoverSessionByTag at hrec
    split at hrec
    · cases hrec
    · next hhit =>
        cases hrec
        rw [recoveryHit_refresh] at hhit
        exact Session.hasTag_of_recoverySearch hnear (recoveryHit_mem P hhit).2.2

end SessionManager

end Aivpn
