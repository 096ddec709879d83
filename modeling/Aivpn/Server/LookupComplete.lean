import Aivpn.Server.TagCache

/-!
# The lookup chain finds genuine tags

`TagCache` bounds what a lookup can accept; this module shows that it accepts what it should. When
the tags that the lookup computes do not collide and no two sessions share a secret, a tag belongs to
one session, one counter and one set of keys. The tag map then knows it for that session or not at
all, and the refresh loop passes over every other session (`finds_of_validates`). So a tag of
any counter in reach, in the current time window or a neighbour of it, is found, however old the
cached tags are (`lookup_complete`).
-/

set_option autoImplicit false

namespace Aivpn

open Aivpn.Lib

namespace SessionManager

variable {P : Primitives}

theorem getSessionByTag_eq_some {m : SessionManager} {tag : Tag} {sid : SessionId}
    (h : m.getSessionByTag tag = some sid) : m.tagMap tag = some sid := by
  unfold getSessionByTag at h
  split at h
  · next sid' hmap =>
      split_ifs at h
      rw [hmap, h]
  · cases h

/-- Refreshing twice is refreshing once. -/
theorem refresh_refresh (tw : Nat) (s : Session) :
    ((((s.updateTagWindow P tw).updateRatchetedTagWindow P tw).updateTagWindow P
      tw).updateRatchetedTagWindow P tw) =
      (s.updateTagWindow P tw).updateRatchetedTagWindow P tw := by
  cases hkeys : s.ratchetedKeys with
  | none =>
      simp only [Session.updateRatchetedTagWindow, Session.updateTagWindow, hkeys,
        Session.windowCounters]
  | some keys =>
      simp only [Session.updateRatchetedTagWindow, Session.updateTagWindow, hkeys,
        Session.windowCounters]

/-- The refresh loop finds the one session that validates the tag with fresh windows. -/
theorem refreshLoop_finds {tw c : Nat} {tag : Tag} {r : Bool} {sid : SessionId}
    {sids : List SessionId} {m : SessionManager} (hmem : sid ∈ sids)
    (hothers : ∀ other ∈ sids, other ≠ sid →
      ((m.heap other).updateTagWindow P tw |>.updateRatchetedTagWindow P tw).validateTag P tw tag =
        none)
    (hvalid : ((m.heap sid).updateTagWindow P tw |>.updateRatchetedTagWindow P tw).validateTag P tw
      tag = some (c, r)) :
    (refreshLoop P tw tag sids m).1 = some (sid, c, r) := by
  induction sids generalizing m with
  | nil => cases hmem
  | cons sid' rest ih =>
      unfold refreshLoop
      simp only
      have hcell : (m.refreshSession P tw sid').heap sid' =
          ((m.heap sid').updateTagWindow P tw).updateRatchetedTagWindow P tw :=
        Function.update_self _ _ _
      by_cases heq : sid' = sid
      · subst heq
        rw [hcell, hvalid]
      -- a session before `sid` in the loop has no such tag after its refresh, and the loop goes on;
      -- it may come again, where a second refresh changes nothing.
      · have hother : ∀ other, other ≠ sid' →
            (m.refreshSession P tw sid').heap other = m.heap other :=
          fun other hne => Function.update_of_ne hne _ _
        rw [hcell, hothers sid' List.mem_cons_self heq]
        have hrest : sid ∈ rest := (List.mem_cons.1 hmem).resolve_left (Ne.symm heq)
        refine ih hrest ?_ (by rwa [hother sid (Ne.symm heq)])
        intro other hmem' hne
        by_cases hsame : other = sid'
        · subst hsame
          rw [hcell, refresh_refresh]
          exact hothers other List.mem_cons_self hne
        · rw [hother other hsame]
          exact hothers other (List.mem_cons_of_mem _ hmem') hne

/-- The lookup chain returns the hit from the tag map, or else from the refresh: without counter
recovery. -/
def Finds (P : Primitives) (env : Env) (m : SessionManager) (tag : Tag) (ip : IpAddr)
    (hit : SessionId × Nat × Bool) : Prop :=
  (m.findSession P env tag ip).1 = .ok (some hit) ∧
    (m.getSessionByTag tag = some hit.1 ∨
      m.getSessionByTag tag = none ∧ (m.refreshAndFindByTag P env.timeWindow tag).1 = some hit)

/-- The lookup chain finds a session that validates the tag, from its cache if the tag is there and
with fresh windows, when no other live session knows the tag. -/
theorem finds_of_validates {env : Env} {m : SessionManager} {sid : SessionId} {c : Nat}
    {r : Bool} {tag : Tag} (hinv : m.TagInv) (hlive : sid ∈ m.sessions)
    (hothers : ∀ other ∈ m.sessions, other ≠ sid → tag ∉ (m.heap other).cachedTags ∧
      ((m.heap other).updateTagWindow P env.timeWindow |>.updateRatchetedTagWindow P
        env.timeWindow).validateTag P env.timeWindow tag = none)
    (hcached : tag ∈ (m.heap sid).cachedTags →
      (m.heap sid).validateTag P env.timeWindow tag = some (c, r))
    (hvalid : ((m.heap sid).updateTagWindow P env.timeWindow |>.updateRatchetedTagWindow P
      env.timeWindow).validateTag P env.timeWindow tag = some (c, r)) (ip : IpAddr) :
    m.Finds P env tag ip (sid, c, r) := by
  have hfinds : (m.refreshAndFindByTag P env.timeWindow tag).1 = some (sid, c, r) :=
    refreshLoop_finds hlive (fun other hmem hne => (hothers other hmem hne).2) hvalid
  rcases m.findSession_cases P env tag ip with ⟨sid', hget, hfs⟩ |
    ⟨hget, ⟨hit, href, hfs⟩ | ⟨href, -⟩⟩
  · -- the tag map knows the tag, and then it can only know it for this session
    obtain ⟨hmem, htag⟩ := hinv tag sid' (getSessionByTag_eq_some hget)
    have heq : sid' = sid := by
      by_contra hne
      exact (hothers sid' hmem hne).1 htag
    subst heq
    refine ⟨?_, Or.inl hget⟩
    unfold findSession
    rw [hget]
    simp only [hcached htag]
  · refine ⟨?_, Or.inr ⟨hget, hfinds⟩⟩
    rw [hfs]
    rw [hfinds] at href
    cases href
    rfl
  · rw [hfinds] at href
    cases href

end SessionManager

/-! ## Secrets and the tags computed for them -/

namespace Session

variable {P : Primitives} {W : Set Nat}

/-- The tag secret of the current keys or, with the flag set, of the pending keys. -/
def tagSecret (s : Session) : Bool → Option Key
  | false => some s.keys.tagSecret
  | true => s.ratchetedKeys.map SessionKeys.tagSecret

/-- The counters that `validate_tag` tries in the neighbouring windows. -/
def searchCounters (s : Session) : Bool → List Nat
  | false => s.windowCounters
  | true => List.range tagWindowSize

/-- What a lookup in windows of `W` computes tags for. -/
def tagTriples (W : Set Nat) (s : Session) : Set (Key × Nat × Nat) :=
  { x | ∃ r, s.tagSecret r = some x.1 ∧ x.2.2 ∈ W ∧
    if r then x.2.1 < tagWindowSize else x.2.1 ∈ s.lookupCounters }

/-- A tag of the session with the secret and the window it was computed for. -/
theorem HasTag.triple {s : Session} {tag : Tag} {c : Nat} {r : Bool} (h : s.HasTag P W tag c r) :
    ∃ secret w, s.tagSecret r = some secret ∧ (secret, c, w) ∈ s.tagTriples W ∧
      P.generateResonanceTag secret c w = tag := by
  cases h with
  | @current w hc hw htag => exact ⟨_, w, rfl, ⟨false, rfl, hw, hc⟩, htag⟩
  | @pending w keys hkeys hc hw htag =>
      have hsecret : s.tagSecret true = some keys.tagSecret := by
        unfold tagSecret
        rw [hkeys]
        rfl
      exact ⟨_, w, hsecret, ⟨true, hsecret, hw, hc⟩, htag⟩

/-- A tag that belongs to one counter and one set of keys is validated as that, unless it is cached
nowhere and lies in none of the neighbouring windows. -/
theorem CacheSound.validateTag_of_unique {s : Session} (h : s.CacheSound P W) {tw c : Nat}
    {tag : Tag} {r : Bool} (hnear : ∀ w ∈ nearWindows tw, w ∈ W)
    (hunique : ∀ c' r', s.HasTag P W tag c' r' → c' = c ∧ r' = r)
    (hnew : r = false → s.isReplay c = false)
    (hfound : tag ∈ s.cachedTags ∨
      ∃ secret, s.tagSecret r = some secret ∧
        adjacentMatch P secret tw (s.searchCounters r) tag ≠ none) :
    s.validateTag P tw tag = some (c, r) := by
  -- whatever is validated is the one tag, so it suffices that something is
  suffices hsome : s.validateTag P tw tag ≠ none by
    obtain ⟨⟨c', r'⟩, hv⟩ := Option.ne_none_iff_exists'.1 hsome
    obtain ⟨rfl, rfl⟩ := hunique c' r' (h.hasTag_of_validateTag hnear hv)
    exact hv
  have hreplay : ∀ c', s.HasTag P W tag c' false → s.isReplay c' = false := by
    intro c' ht
    obtain ⟨rfl, rfl⟩ := hunique c' false ht
    exact hnew rfl
  intro hnone
  unfold validateTag at hnone
  cases hcurrent : s.expectedTags.find? (fun e => e.2 = tag) with
  | some x =>
      have htag : x.2 = tag := by simpa using List.find?_some hcurrent
      have hx := h.hasTag_current (List.mem_of_find?_eq_some hcurrent)
      rw [htag] at hx
      simp [hcurrent, hreplay x.1 hx] at hnone
  | none =>
  cases hadj : adjacentMatch P s.keys.tagSecret tw s.windowCounters tag with
  | some c' =>
      obtain ⟨hc', w, hw, htag⟩ := adjacentMatch_eq_some hadj
      have hx : s.HasTag P W tag c' false :=
        .current (mem_lookupCounters_of_window hc') (hnear w hw) htag
      simp [hcurrent, hadj, hreplay c' hx] at hnone
  | none =>
  have hnotCurrent : tag ∉ s.currentTags := by
    intro hmem
    obtain ⟨x, hx, hxt⟩ := List.mem_map.1 hmem
    exact absurd hxt (by simpa using List.find?_eq_none.1 hcurrent x hx)
  simp only [hcurrent, hadj] at hnone
  unfold validateRatchetedTag at hnone
  -- a ratcheted session has no pending keys and no pending tags
  have hpendingNone : s.ratchetedKeys = none → False := by
    intro hkeys
    rcases hfound with hmem | ⟨secret, hsecret, hmatch⟩
    · rcases List.mem_append.1 hmem with hmem | hmem
      · exact hnotCurrent hmem
      · rw [pendingTags, h.pending_eq_nil hkeys] at hmem
        cases hmem
    · cases r with
      | false =>
          cases hsecret
          rw [searchCounters] at hmatch
          exact hmatch hadj
      | true =>
          rw [tagSecret, hkeys] at hsecret
          cases hsecret
  by_cases hratcheted : s.isRatcheted = true
  · exact hpendingNone (h.ratcheted hratcheted).1
  rw [if_neg hratcheted] at hnone
  cases hpend : s.ratchetedExpectedTags.find? (fun e => e.2 = tag) with
  | some x => simp [hpend] at hnone
  | none =>
  cases hkeys : s.ratchetedKeys with
  | none => exact hpendingNone hkeys
  | some keys =>
      simp only [hpend, hkeys, Option.map_eq_none_iff] at hnone
      rcases hfound with hmem | ⟨secret, hsecret, hmatch⟩
      · rcases List.mem_append.1 hmem with hmem | hmem
        · exact hnotCurrent hmem
        · obtain ⟨x, hx, hxt⟩ := List.mem_map.1 hmem
          exact absurd hxt (by simpa using List.find?_eq_none.1 hpend x hx)
      · cases r with
        | false =>
            cases hsecret
            rw [searchCounters] at hmatch
            exact hmatch hadj
        | true =>
            rw [tagSecret, hkeys] at hsecret
            cases hsecret
            rw [searchCounters] at hmatch
            exact hmatch hnone

theorem adjacentMatch_ne_none {secret : Key} {tw c w : Nat} {counters : List Nat} {tag : Tag}
    (hc : c ∈ counters) (hw : w ∈ adjacentWindows tw)
    (htag : P.generateResonanceTag secret c w = tag) :
    adjacentMatch P secret tw counters tag ≠ none := by
  unfold adjacentMatch
  intro hnone
  have hwindow := List.findSome?_eq_none_iff.1 hnone w hw
  exact absurd htag (by simpa using List.find?_eq_none.1 hwindow c hc)

theorem tagSecret_of_keyState {s t : Session} (h : t.keyState = s.keyState) (r : Bool) :
    t.tagSecret r = s.tagSecret r := by
  have hkeys : t.keys = s.keys := congrArg KeyState.keys h
  have hpending : t.ratchetedKeys = s.ratchetedKeys := congrArg KeyState.ratchetedKeys h
  cases r with
  | false => rw [tagSecret, tagSecret, hkeys]
  | true => rw [tagSecret, tagSecret, hpending]

@[simp] theorem refresh_tagSecret (tw : Nat) (s : Session) (r : Bool) :
    ((s.updateTagWindow P tw).updateRatchetedTagWindow P tw).tagSecret r = s.tagSecret r :=
  tagSecret_of_keyState (refresh_keyState tw s) r

/-- With fresh tag windows, the tags of the current time window are cached. -/
theorem mem_cachedTags_refresh {s : Session} {tw c : Nat} {tag : Tag} {r : Bool} {secret : Key}
    (hsecret : s.tagSecret r = some secret) (hc : c ∈ s.searchCounters r)
    (htag : P.generateResonanceTag secret c tw = tag) :
    tag ∈ ((s.updateTagWindow P tw).updateRatchetedTagWindow P tw).cachedTags := by
  cases r with
  | false =>
      cases hsecret
      refine List.mem_append_left _ ?_
      rw [currentTags, refresh_expectedTags, List.map_map]
      exact List.mem_map.2 ⟨c, hc, htag⟩
  | true =>
      obtain ⟨keys, hkeys, rfl⟩ := Option.map_eq_some_iff.1 hsecret
      refine List.mem_append_right _ ?_
      rw [pendingTags, refresh_ratchetedExpectedTags, hkeys, List.map_map]
      exact List.mem_map.2 ⟨c, hc, htag⟩

/-- A session with fresh tag windows validates its tags of the current time window and of the
neighbouring ones. -/
theorem CacheSound.validateTag_refresh {s : Session} (h : s.CacheSound P W) {tw c w : Nat}
    {tag : Tag} {r : Bool} {secret : Key} (hnear : ∀ w ∈ nearWindows tw, w ∈ W)
    (hunique : ∀ c' r', s.HasTag P W tag c' r' → c' = c ∧ r' = r)
    (hnew : r = false → s.isReplay c = false) (hsecret : s.tagSecret r = some secret)
    (hc : c ∈ s.searchCounters r) (hw : w ∈ nearWindows tw)
    (htag : P.generateResonanceTag secret c w = tag) :
    ((s.updateTagWindow P tw).updateRatchetedTagWindow P tw).validateTag P tw tag =
      some (c, r) := by
  have htw : tw ∈ W := hnear tw List.mem_cons_self
  refine ((h.updateTagWindow htw).updateRatchetedTagWindow htw).validateTag_of_unique hnear
    (fun c' r' ht => hunique c' r' ht.of_refresh) ?_ ?_
  · simpa [isReplay] using hnew
  · rcases List.mem_cons.1 hw with rfl | hadjacent
    · exact Or.inl (mem_cachedTags_refresh hsecret hc htag)
    · refine Or.inr ⟨secret, by rwa [refresh_tagSecret], adjacentMatch_ne_none ?_ hadjacent htag⟩
      cases r with
      | false =>
          rw [searchCounters, refresh_windowCounters]
          exact hc
      | true => exact hc

/-- A cached tag belongs to a counter of the session. -/
theorem CacheSound.hasTag_of_cached {s : Session} (h : s.CacheSound P W) {tag : Tag}
    (hmem : tag ∈ s.cachedTags) : ∃ c r, s.HasTag P W tag c r := by
  rcases List.mem_append.1 hmem with hmem | hmem
  · obtain ⟨x, hx, rfl⟩ := List.mem_map.1 hmem
    exact ⟨_, _, h.hasTag_current hx⟩
  · obtain ⟨x, hx, rfl⟩ := List.mem_map.1 hmem
    exact ⟨_, _, h.hasTag_pending hx⟩

end Session

namespace SessionManager

variable {P : Primitives} {W : Set Nat}

/-- No tag secret is shared: not by two live sessions, and not by the current and the pending keys
of one. -/
def DistinctSecrets (m : SessionManager) : Prop :=
  ∀ sid ∈ m.sessions, ∀ sid' ∈ m.sessions, ∀ r r' secret, (m.heap sid).tagSecret r = some secret →
    (m.heap sid').tagSecret r' = some secret → sid' = sid ∧ r' = r

/-- What lookups in windows of `W` compute tags for, in all live sessions. -/
def tagTriples (W : Set Nat) (m : SessionManager) : Set (Key × Nat × Nat) :=
  { x | ∃ sid ∈ m.sessions, x ∈ (m.heap sid).tagTriples W }

/-- Without collisions a tag belongs to one session, one counter and one set of keys. -/
theorem hasTag_unique {m : SessionManager} (hsecrets : m.DistinctSecrets)
    (hfree : P.CollisionFree (m.tagTriples W)) {sid sid' : SessionId} {tag : Tag} {c c' : Nat}
    {r r' : Bool} (hlive : sid ∈ m.sessions) (hlive' : sid' ∈ m.sessions)
    (h : (m.heap sid).HasTag P W tag c r) (h' : (m.heap sid').HasTag P W tag c' r') :
    sid' = sid ∧ c' = c ∧ r' = r := by
  obtain ⟨secret, w, hsecret, hmem, htag⟩ := h.triple
  obtain ⟨secret', w', hsecret', hmem', htag'⟩ := h'.triple
  have heq := hfree ⟨sid', hlive', hmem'⟩ ⟨sid, hlive, hmem⟩ (htag'.trans htag.symm)
  simp only [Prod.mk.injEq] at heq
  obtain ⟨rfl, rfl, -⟩ := heq
  obtain ⟨hsid, hr⟩ := hsecrets sid hlive sid' hlive' r r' _ hsecret hsecret'
  exact ⟨hsid, rfl, hr⟩

/-- A tag of a live session that is not a replay is validated by that session, from its cache if the
tag is there and with fresh windows, and no other session knows it. -/
theorem validates_of_tag {tw : Nat} {m : SessionManager} {sid : SessionId} {c w : Nat} {r : Bool}
    {tag : Tag} {secret : Key}
    (hsound : ∀ sid ∈ m.sessions, (m.heap sid).CacheSound P W)
    (hnear : ∀ w ∈ nearWindows tw, w ∈ W) (hsecrets : m.DistinctSecrets)
    (hfree : P.CollisionFree (m.tagTriples W)) (hlive : sid ∈ m.sessions)
    (hnew : r = false → (m.heap sid).isReplay c = false)
    (hsecret : (m.heap sid).tagSecret r = some secret) (hc : c ∈ (m.heap sid).searchCounters r)
    (hw : w ∈ nearWindows tw) (htag : P.generateResonanceTag secret c w = tag) :
    (∀ other ∈ m.sessions, other ≠ sid → tag ∉ (m.heap other).cachedTags ∧
      ((m.heap other).updateTagWindow P tw |>.updateRatchetedTagWindow P tw).validateTag P tw tag =
        none) ∧
    (tag ∈ (m.heap sid).cachedTags → (m.heap sid).validateTag P tw tag = some (c, r)) ∧
    ((m.heap sid).updateTagWindow P tw |>.updateRatchetedTagWindow P tw).validateTag P tw tag =
      some (c, r) := by
  have htw : tw ∈ W := hnear _ List.mem_cons_self
  -- the session has the tag, and the secrets and the tags tell all sessions apart
  have hself : (m.heap sid).HasTag P W tag c r := by
    cases r with
    | false =>
        cases hsecret
        exact .current (Session.mem_lookupCounters_of_window hc) (hnear w hw) htag
    | true =>
        obtain ⟨keys, hkeys, rfl⟩ := Option.map_eq_some_iff.1 hsecret
        exact .pending hkeys (List.mem_range.1 hc) (hnear w hw) htag
  have hunique : ∀ other ∈ m.sessions, ∀ c' r', (m.heap other).HasTag P W tag c' r' →
      other = sid ∧ c' = c ∧ r' = r :=
    fun other hmem c' r' h => hasTag_unique hsecrets hfree hlive hmem hself h
  have hown : ∀ c' r', (m.heap sid).HasTag P W tag c' r' → c' = c ∧ r' = r :=
    fun c' r' h => (hunique sid hlive c' r' h).2
  refine ⟨fun other hmem hne => ⟨?_, ?_⟩, ?_, ?_⟩
  · -- the cached tag table of another session cannot hold the tag
    intro hcached
    obtain ⟨c', r', h⟩ := (hsound other hmem).hasTag_of_cached hcached
    exact hne (hunique other hmem c' r' h).1
  · -- nor does another session validate it once it is refreshed
    rw [Option.eq_none_iff_forall_ne_some]
    rintro ⟨c', r'⟩ hv
    have h := (((hsound other hmem).updateTagWindow htw).updateRatchetedTagWindow
      htw).hasTag_of_validateTag hnear hv
    exact hne (hunique other hmem c' r' h.of_refresh).1
  · exact fun hcached =>
      (hsound sid hlive).validateTag_of_unique hnear hown hnew (Or.inl hcached)
  · exact (hsound sid hlive).validateTag_refresh hnear hown hnew hsecret hc hw htag

/-- The lookup chain finds a tag of a live session that is not a replay. -/
theorem finds_of_tag {env : Env} {m : SessionManager} {sid : SessionId} {c w : Nat} {r : Bool}
    {tag : Tag} {secret : Key} (hinv : m.TagInv)
    (hsound : ∀ sid ∈ m.sessions, (m.heap sid).CacheSound P W)
    (hnear : ∀ w ∈ nearWindows env.timeWindow, w ∈ W) (hsecrets : m.DistinctSecrets)
    (hfree : P.CollisionFree (m.tagTriples W)) (hlive : sid ∈ m.sessions)
    (hnew : r = false → (m.heap sid).isReplay c = false)
    (hsecret : (m.heap sid).tagSecret r = some secret) (hc : c ∈ (m.heap sid).searchCounters r)
    (hw : w ∈ nearWindows env.timeWindow) (htag : P.generateResonanceTag secret c w = tag)
    (ip : IpAddr) : m.Finds P env tag ip (sid, c, r) := by
  obtain ⟨hothers, hcached, hvalid⟩ :=
    validates_of_tag hsound hnear hsecrets hfree hlive hnew hsecret hc hw htag
  exact finds_of_validates hinv hlive hothers hcached hvalid ip

/-- It does no more to the manager than the refresh. -/
theorem Finds.manager {env : Env} {m : SessionManager} {tag : Tag} {ip : IpAddr}
    {hit : SessionId × Nat × Bool} (h : m.Finds P env tag ip hit) :
    (m.findSession P env tag ip).2 = m ∨
      (m.findSession P env tag ip).2 = (m.refreshAndFindByTag P env.timeWindow tag).2 := by
  rcases m.findSession_cases P env tag ip with ⟨sid', -, hfs | ⟨c', r', -, hfs⟩⟩ |
    ⟨hget, ⟨hit', -, hfs⟩ | ⟨href, -⟩⟩
  · exact Or.inl (by rw [hfs])
  · exact Or.inl (by rw [hfs])
  · exact Or.inr (by rw [hfs])
  · -- neither the tag map nor the refresh would have known the tag
    rcases h.2 with hmap | ⟨-, hrefresh⟩
    · rw [hget] at hmap
      cases hmap
    · rw [href] at hrefresh
      cases hrefresh

/-- A tag that no live session looks for is unknown. -/
theorem findSession_of_no_tag {env : Env} {m : SessionManager} {tag : Tag} (hinv : m.TagInv)
    (hsound : ∀ sid ∈ m.sessions, (m.heap sid).CacheSound P W)
    (hnear : ∀ w ∈ nearWindows env.timeWindow, w ∈ W)
    (hno : ∀ sid ∈ m.sessions, ∀ c r, ¬ (m.heap sid).HasTag P W tag c r) (ip : IpAddr) :
    (m.findSession P env tag ip).1 = .ok none := by
  rcases hfs : m.findSession P env tag ip with ⟨r, m'⟩
  rcases r with err | _ | ⟨sid, c, r⟩
  · -- only a tag of the map is refused with an error
    rcases m.findSession_cases P env tag ip with ⟨sid, hget, -⟩ | ⟨-, ⟨hit, -, hok⟩ | ⟨-, hok⟩⟩
    · obtain ⟨hlive, hcached⟩ := hinv tag sid (getSessionByTag_eq_some hget)
      obtain ⟨c, r, htag⟩ := (hsound sid hlive).hasTag_of_cached hcached
      exact absurd htag (hno sid hlive c r)
    · rw [hok] at hfs
      cases hfs
    · rw [hok] at hfs
      cases hfs
  · rfl
  · have hlive := findSession_mem P hfs
    exact absurd (findSession_hasTag (hsound sid hlive) hnear hfs) (hno sid hlive c r)

end SessionManager

/-! ## Runs without recovery -/

/-- As long as a session has not been recovered, its changes keep its receive state aligned. -/
theorem Session.Change.receiveInv {P : Primitives} {e : Env × Gateway.Event} {s s' : Session}
    (hch : Session.Change P e s s') (h : s.recoveredFrom = [] → s.ReceiveInv)
    (hfrom : s'.recoveredFrom = []) : s'.ReceiveInv := by
  -- a recovery adds to `recoveredFrom`, so that the hypothesis excludes it; every other change
  -- keeps the list, so that it was empty before as well
  cases hch with
  | refresh =>
      have hsame : ((s.updateTagWindow P e.1.timeWindow).updateRatchetedTagWindow P
          e.1.timeWindow).recoveredFrom = s.recoveredFrom := by
        unfold Session.updateRatchetedTagWindow
        split <;> (unfold Session.updateTagWindow; rfl)
      rw [hsame] at hfrom
      exact ((h hfrom).updateTagWindow P _).updateRatchetedTagWindow P _
  | recover hfind => simp [Session.recoverAt, Session.updateTagWindow] at hfrom
  | ratchet hkeys hopens =>
      have hsame : s.completeRatchet.recoveredFrom = s.recoveredFrom := by
        unfold Session.completeRatchet
        split <;> rfl
      rw [hsame] at hfrom
      exact (h hfrom).completeRatchet
  | receive c isNew addr len =>
      obtain ⟨instant, client, bytes, heq⟩ := s.receive_eq P e.1 c isNew addr len
      have hsame : (s.acceptCounter P e.1.timeWindow c).recoveredFrom = s.recoveredFrom := by
        have hmark : (s.markTagReceived c).recoveredFrom = s.recoveredFrom := by
          unfold Session.markTagReceived
          simp only
          split_ifs <;> rfl
        unfold Session.acceptCounter
        simp only
        split_ifs
        · simp only [Session.updateTagWindow, hmark]
        · exact hmark
      rw [heq] at hfrom ⊢
      have hinv := (h (hsame ▸ hfrom)).acceptCounter P e.1.timeWindow c
      exact hinv.congr rfl rfl rfl
  | identify clientId hnone => exact (h hfrom).congr rfl rfl rfl
  | takeSeq => exact (h hfrom).congr rfl rfl rfl
  | send => exact (h hfrom).congr rfl rfl rfl

/-- In every run of the gateway the receive state of a session that was never recovered is
aligned. -/
theorem receiveInv_of_run (P : Primitives) (rng : Randomness) (cfg : GatewayConfig)
    (serverKeys : KeyPair) (signingKey : Key) (clientDb : Option (List ClientConfig))
    (es : List (Env × Gateway.Event)) (sid : SessionId) :
    ((runFrom (Gateway.step P rng cfg) (Gateway.new serverKeys signingKey clientDb)
      es).session sid).recoveredFrom = [] →
    ((runFrom (Gateway.step P rng cfg) (Gateway.new serverKeys signingKey clientDb)
      es).session sid).ReceiveInv := by
  have hrun := @Gateway.session_of_change P rng cfg
    (fun s => s.recoveredFrom = [] → s.ReceiveInv) (Gateway.new serverKeys signingKey clientDb)
    (fun _ _ => Session.Unreceived.receiveInv ⟨rfl, rfl, rfl⟩)
    (fun _ _ _ _ _ hs _ => hs.unreceived.receiveInv)
    (fun _ _ _ hs hch hfrom => hch.receiveInv hs hfrom) es sid
  exact hrun

/-- The lookup of `handle_packet` is complete. In every state that the gateway reaches, for every
live session that was never recovered: a tag under its current keys for a counter within 255 of its
own that it has not accepted, and a tag under its pending keys for a counter below 256, is found
with its session, its counter and its keys, in the tag map or by the refresh, when the window of the
tag differs from the current one by at most one. Tags do not collide among those that lookups
compute, and secrets are distinct. -/
theorem lookup_complete (P : Primitives) (rng : Randomness) (cfg : GatewayConfig)
    (serverKeys : KeyPair) (signingKey : Key) (clientDb : Option (List ClientConfig))
    (es : List (Env × Gateway.Event)) {g : Gateway}
    (hg : g = runFrom (Gateway.step P rng cfg) (Gateway.new serverKeys signingKey clientDb) es)
    (env : Env) (hsecrets : g.sessionManager.DistinctSecrets)
    (hfree : P.CollisionFree (g.sessionManager.tagTriples (Gateway.windowsOf es ∪
      { w | w ∈ nearWindows env.timeWindow })))
    {sid : SessionId} (hlive : sid ∈ g.sessionManager.sessions)
    (hrecovered : (g.session sid).recoveredFrom = []) {w : Nat} (hw : w < 2 ^ 64)
    (hle : w ≤ env.timeWindow + 1) (hge : env.timeWindow ≤ w + 1) (ip : IpAddr) :
    (∀ c < 2 ^ 64, c ∉ (g.session sid).accepted → (g.session sid).counter ≤ c + 255 →
      c ≤ (g.session sid).counter + 255 →
      g.sessionManager.Finds P env (P.generateResonanceTag (g.session sid).keys.tagSecret c w) ip
        (sid, c, false)) ∧
    ∀ keys, (g.session sid).ratchetedKeys = some keys → ∀ c < 256,
      g.sessionManager.Finds P env (P.generateResonanceTag keys.tagSecret c w) ip
        (sid, c, true) := by
  have hinv : g.sessionManager.TagInv := by
    rw [hg]
    exact tagInv_of_run P rng cfg serverKeys signingKey clientDb es
  have hsound : ∀ sid ∈ g.sessionManager.sessions,
      (g.sessionManager.heap sid).CacheSound P (Gateway.windowsOf es ∪
        { w | w ∈ nearWindows env.timeWindow }) := by
    intro sid _
    rw [hg]
    exact (cacheSound_of_run P rng cfg serverKeys signingKey clientDb es sid).mono
      Set.subset_union_left
  have hreceive : (g.session sid).ReceiveInv := by
    rw [hg] at hrecovered ⊢
    exact receiveInv_of_run P rng cfg serverKeys signingKey clientDb es sid hrecovered
  have hnear := mem_nearWindows hw hle hge
  constructor
  -- the counter is new to the window, and near enough to be searched
  · intro c hc64 hnew hcge hcle
    have hreplay : (g.session sid).isReplay c = false := by
      rw [← Bool.not_eq_true, hreceive.isReplay_iff (by omega)]
      exact hnew
    refine SessionManager.finds_of_tag hinv hsound (fun _ => Or.inr) hsecrets hfree hlive
      (fun _ => hreplay) rfl ?_ hnear rfl ip
    show c ∈ countersAround (g.session sid).counter
    rw [mem_countersAround]
    unfold u64Max
    omega
  -- the ratcheted keys are searched from 0, whatever was accepted under the current ones
  · intro keys hkeys c hc
    have hsecret : (g.session sid).tagSecret true = some keys.tagSecret := by
      rw [Session.tagSecret, hkeys]
      rfl
    refine SessionManager.finds_of_tag hinv hsound (fun _ => Or.inr) hsecrets hfree hlive
      (fun h => by cases h) hsecret ?_ hnear rfl ip
    exact List.mem_range.2 hc

namespace SessionManager

/-- Live sessions have distinct tag secrets, and the tags computed for them in windows of `W` do not
collide. -/
structure Ideal (P : Primitives) (W : Set Nat) (m : SessionManager) : Prop where
  secrets : m.DistinctSecrets
  tags : P.CollisionFree (m.tagTriples W)

end SessionManager

/-- The tag secrets of a session: those of its current and of its pending keys. -/
def Session.secrets (s : Session) : List Key :=
  s.keys.tagSecret :: (s.ratchetedKeys.map SessionKeys.tagSecret).toList

theorem Session.mem_secrets {s : Session} {r : Bool} {secret : Key}
    (h : s.tagSecret r = some secret) : secret ∈ s.secrets := by
  cases r with
  | false =>
      cases h
      exact List.mem_cons_self
  | true => exact List.mem_cons_of_mem _ (Option.mem_toList.2 h)

/-- A single session of the sample primitives, with counters and windows of three bytes and secrets
that differ in the bytes the tags show. -/
theorem SessionManager.ideal_of_single {m : SessionManager} {sid : SessionId} {n : Nat}
    {W : Set Nat} (hone : m.sessions = [sid])
    (hprefixes : ((m.heap sid).secrets.map fun s => s.toList.take 2).Nodup)
    (hcounter : (m.heap sid).counter ≤ n) (hbase : (m.heap sid).tagWindowBase ≤ n)
    (hn : n + Session.recoveryRange ≤ 2 ^ 24) (hW : ∀ w ∈ W, w < 2 ^ 24) :
    m.Ideal samplePrimitives W := by
  constructor
  -- with one session only its own two secrets can meet
  · intro other hother other' hother' r r' secret h h'
    rw [hone] at hother hother'
    obtain rfl := List.mem_singleton.1 hother
    obtain rfl := List.mem_singleton.1 hother'
    refine ⟨rfl, ?_⟩
    have hne : (m.heap other').ratchetedKeys.map SessionKeys.tagSecret ≠
        some (m.heap other').keys.tagSecret := by
      intro heq
      rw [Session.secrets, heq] at hprefixes
      simp at hprefixes
    cases r with
    | false => cases r' with
      | false => rfl
      | true => exact absurd (h'.trans h.symm) hne
    | true => cases r' with
      | false => exact absurd (h.trans h'.symm) hne
      | true => rfl
  · refine (samplePrimitives_collisionFree hprefixes).mono ?_
    rintro x ⟨other, hother, r, hr, hw, hc⟩
    rw [hone] at hother
    obtain rfl := List.mem_singleton.1 hother
    refine ⟨Session.mem_secrets hr, ?_, hW _ hw⟩
    cases r with
    | false =>
        rw [if_neg Bool.false_ne_true] at hc
        exact Nat.lt_of_lt_of_le (Session.lt_of_mem_lookupCounters hcounter hbase hc) hn
    | true =>
        rw [if_pos rfl] at hc
        exact Nat.lt_trans hc (by decide)

/-- The session of the sample client, the only one of its gateway, has received the init datagram and
has pending keys. -/
theorem sampleAfterInit_state :
    sampleAfterInit.sessionManager.sessions = [0] ∧
    ((sampleAfterInit.session 0).secrets.map fun s => s.toList.take 2).Nodup ∧
    (sampleAfterInit.session 0).counter = 0 ∧ (sampleAfterInit.session 0).tagWindowBase = 0 ∧
    (sampleAfterInit.session 0).accepted = [0] ∧
    (sampleAfterInit.session 0).recoveredFrom = [] ∧
    (sampleAfterInit.session 0).ratchetedKeys.isSome = true := by
  -- the run is evaluated once for all of its facts
  decide +kernel

theorem Gateway.session_eq_heap (g : Gateway) (sid : SessionId) :
    g.session sid = g.sessionManager.heap sid := rfl

theorem sampleAfterInit_ideal {W : Set Nat} (hW : ∀ w ∈ W, w < 2 ^ 24) :
    sampleAfterInit.sessionManager.Ideal samplePrimitives W := by
  obtain ⟨hone, hprefixes, hcounter, hbase, -⟩ := sampleAfterInit_state
  rw [Gateway.session_eq_heap] at hprefixes hcounter hbase
  exact SessionManager.ideal_of_single (n := 0) hone hprefixes (Nat.le_of_eq hcounter)
    (Nat.le_of_eq hbase) (by decide) hW

/-- After the init datagram of the sample client, tags of the neighbouring windows are found under
the initial keys and under the pending ones. -/
theorem sampleAfterInit_finds :
    let s := sampleAfterInit.session 0
    sampleAfterInit.sessionManager.Finds samplePrimitives (sampleEnv 101)
      (samplePrimitives.generateResonanceTag s.keys.tagSecret 5 100) sampleAddr.ip (0, 5, false) ∧
    ∃ keys, s.ratchetedKeys = some keys ∧
      sampleAfterInit.sessionManager.Finds samplePrimitives (sampleEnv 101)
        (samplePrimitives.generateResonanceTag keys.tagSecret 3 102) sampleAddr.ip
        (0, 3, true) := by
  intro s
  obtain ⟨hone, -, hcounter, -, haccepted, hrecovered, hsome⟩ := sampleAfterInit_state
  obtain ⟨keys, hkeys⟩ := Option.isSome_iff_exists.1 hsome
  have hideal : sampleAfterInit.sessionManager.Ideal samplePrimitives
      (Gateway.windowsOf [(sampleEnv 100, .packet (sampleInit none 101) sampleAddr)] ∪
        { w | w ∈ nearWindows (sampleEnv 101).timeWindow }) := by
    refine sampleAfterInit_ideal fun w hw => ?_
    rcases hw with ⟨e, he, hw⟩ | hw
    · obtain rfl := List.mem_singleton.1 he
      exact hw ▸ (by decide)
    · exact (show ∀ w ∈ nearWindows (sampleEnv 101).timeWindow, w < 2 ^ 24 by decide) w hw
  have hcomplete := fun w hw hle hge =>
    @lookup_complete samplePrimitives sampleRandomness sampleConfig sampleServerKeys default none
      [(sampleEnv 100, .packet (sampleInit none 101) sampleAddr)] sampleAfterInit rfl (sampleEnv 101)
      hideal.secrets hideal.tags 0 (by rw [hone]; exact List.mem_singleton_self _) hrecovered w hw
      hle hge sampleAddr.ip
  rw [hcounter, haccepted] at hcomplete
  exact ⟨(hcomplete 100 (by decide) (by decide) (by decide)).1 5 (by decide) (by decide) (by decide)
    (by decide), keys, hkeys,
    (hcomplete 102 (by decide) (by decide) (by decide)).2 keys hkeys 3 (by decide)⟩

end Aivpn
