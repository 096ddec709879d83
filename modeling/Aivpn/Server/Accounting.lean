import Aivpn.Server.ClientIsolation
import Aivpn.Server.Workers

/-!
# Traffic accounting

`handle_packet` adds the length of an accepted datagram to `pending_bytes_in` of its session, and hands
the sum to `record_traffic` when it reaches 16 KiB. The bytes that a client has sent are then either
recorded or still held by the session. Two operations break this: the ratchet resets the counter, and
a session is removed with whatever it holds. `traffic_conserved_iff` says that they are the only ones:
along a run the account balances exactly if the bytes have been handed over whenever one of them runs.
-/

set_option autoImplicit false

namespace Aivpn

open Aivpn.Lib Action Relation

/-! ## The account of a session -/

namespace Session

theorem refresh_pendingBytesIn (P : Primitives) (tw : Nat) (s : Session) :
    ((s.updateTagWindow P tw).updateRatchetedTagWindow P tw).pendingBytesIn = s.pendingBytesIn := by
  simp only [updateRatchetedTagWindow, updateTagWindow]
  split
  · rfl
  · rfl

theorem recoverAt_pendingBytesIn (P : Primitives) (tw c : Nat) (s : Session) :
    (s.recoverAt P tw c).pendingBytesIn = s.pendingBytesIn := by
  simp [recoverAt, updateTagWindow]

end Session

/-- The bytes handed to `record_traffic`. -/
def trafficOf : List Effect → Nat
  | [] => 0
  | .recordTraffic _ bytesIn _ :: effects => bytesIn + trafficOf effects
  | _ :: effects => trafficOf effects

namespace Gateway

/-- The bytes handed to `record_traffic` so far. -/
def traffic (g : Gateway) : Nat := trafficOf g.effects

/-- `pending_bytes_in` of each session. -/
def pendingBytes (g : Gateway) (sid : SessionId) : Nat := (g.session sid).pendingBytesIn

/-- The bytes a session still holds: none when it is gone. -/
def heldBytes (sid : SessionId) (g : Gateway) : Nat :=
  if sid ∈ g.sessionManager.sessions then g.pendingBytes sid else 0

variable (P : Primitives) (rng : Randomness) (cfg : GatewayConfig)

/-- The session on which a step accepts a datagram, with the length of the datagram. -/
def acceptedOn (g : Gateway) (e : Env × Event) : Option (SessionId × Nat) :=
  match e.2 with
  | .packet packetData addr => match (receivePacket P rng e.1 packetData addr g).1 with
    | .ok (t, _) => some (t.sessionId, packetData.length)
    | .error _ => none
  | _ => none

/-- The length of the datagram that a step accepts on the session `sid`. -/
def acceptedBytes (sid : SessionId) (g : Gateway) (e : Env × Event) : Nat :=
  match acceptedOn P rng g e with
  | some (sid', len) => if sid' = sid then len else 0
  | none => 0

/-- The bytes that a step hands to `record_traffic` for the session `sid`. -/
def recordedBytes (sid : SessionId) (g : Gateway) (e : Env × Event) : Nat :=
  match acceptedOn P rng g e with
  | some (sid', _) => if sid' = sid then (step P rng cfg g e).traffic - g.traffic else 0
  | none => 0

/-- The datagram that is matched to the session `sid` by `t`, with the inner packet `padded`, destroys
none of its bytes: the ratchet finds nothing pending, the sum does not saturate, and a Shutdown comes
in a datagram that fills the batch. -/
structure DatagramKeepsBytes (s : Session) (t : TagMatch) (padded : Bytes) (len : Nat) : Prop where
  ratchet : t.isRatchetedTag = true → s.pendingBytesIn = 0
  counted : ∀ plaintext, stripPadding padded = .ok plaintext → s.pendingBytesIn + len ≤ u64Max
  shutdown : ∀ plaintext, stripPadding padded = .ok plaintext → t.isNewSession = false →
    carriesShutdown plaintext = true → 16 * 1024 ≤ s.pendingBytesIn + len

/-- No step destroys bytes of the session `sid`: a handshake or a cleanup that removes it finds nothing
pending, and a datagram on the session itself keeps them. -/
def KeepsBytes (sid : SessionId) (g : Gateway) (e : Env × Event) : Prop :=
  match e.2 with
  | .packet packetData addr => tagSize + 2 ≤ packetData.length →
      (sid ∈ g.sessionManager.sessions →
        sid ∉ (identify P rng e.1 packetData addr g).2.sessionManager.sessions →
        g.pendingBytes sid = 0) ∧
      ∀ t g₁ padded, identify P rng e.1 packetData addr g = (.ok t, g₁) → t.sessionId = sid →
        decryptDatagram P (g₁.session sid) t packetData = .ok padded →
        DatagramKeepsBytes (g₁.session sid) t padded packetData.length
  | .cleanup => sid ∈ g.sessionManager.sessions →
      ((g.session sid).isExpired e.1.instant || (g.session sid).isIdle e.1.instant) = true →
      g.pendingBytes sid = 0
  | _ => True

/-! ## Commands that leave the accounts alone -/

/-- What has been recorded, and what each session holds. -/
def meter (g : Gateway) : Nat × (SessionId → Nat) := (g.traffic, g.pendingBytes)

variable (env : Env)

/-- A command that rewrites one cell and not its pending bytes. -/
theorem meter_of_heap {sid : SessionId} {s : Session} {g g' : Gateway}
    (htraffic : g'.traffic = g.traffic)
    (hheap : g'.sessionManager.heap = Function.update g.sessionManager.heap sid s)
    (hs : s.pendingBytesIn = g.pendingBytes sid) : g'.meter = g.meter := by
  have hpending : g'.pendingBytes = g.pendingBytes := by
    funext other
    unfold pendingBytes session
    rw [hheap]
    by_cases hother : other = sid
    · subst hother
      rw [Function.update_self]
      exact hs
    · rw [Function.update_of_ne hother]
  exact Prod.ext htraffic hpending

theorem keeps_meter_sendTo (sid : SessionId) (packet : Bytes) (addr : SocketAddr) :
    Keeps meter (sendTo env sid packet addr) := by
  unfold sendTo
  split_ifs
  · exact fun _ => rfl
  · exact keeps_throw _

theorem keeps_meter_sealPacket (sid : SessionId) (mdh padded : Bytes) :
    Keeps meter (manager fun m => m.sealPacket P env sid mdh padded) :=
  fun g => meter_of_heap (s := (g.session sid).nextSendNonce.2.2) rfl rfl rfl

theorem keeps_meter_buildPacket (sid : SessionId) (inner : Bytes) :
    Keeps meter (manager fun m => m.buildPacket P rng env sid inner) :=
  fun g => meter_of_heap (s := (g.session sid).nextSendNonce.2.2) rfl rfl rfl

theorem keeps_meter_takeSeq (sid : SessionId) : Keeps meter (manager fun m => m.takeSeq sid) :=
  fun g => meter_of_heap (s := (g.session sid).nextSeq.2) rfl rfl rfl

theorem keeps_meter_sendServerHello (sid : SessionId) (addr : SocketAddr) :
    Keeps meter (sendServerHello P rng env sid addr) := by
  unfold sendServerHello
  apply Keeps.bind (keeps_gets _)
  intro s
  split
  · exact Keeps.bind (keeps_meter_buildPacket P rng env sid _) fun packet =>
      keeps_meter_sendTo env sid packet addr
  · exact keeps_throw _

theorem keeps_meter_sendControlMessage (payload : ControlPayload) (sid : SessionId) :
    Keeps meter (sendControlMessage P rng env payload sid) := by
  unfold sendControlMessage
  apply Keeps.bind (keeps_meter_takeSeq sid)
  intro seqNum
  apply Keeps.bind (keeps_meter_buildPacket P rng env sid _)
  intro packet
  exact Keeps.bind (keeps_gets _) fun s => keeps_meter_sendTo env sid packet _

/-- The session map is no account. -/
theorem keeps_meter_modifyManager {f : SessionManager → SessionManager}
    (hf : ∀ m, (f m).heap = m.heap) : Keeps meter (modifyManager f) := by
  intro g
  have hpending : pendingBytes (modifyManager f g).2 = g.pendingBytes := by
    funext sid
    show ((f g.sessionManager).heap sid).pendingBytesIn = _
    rw [hf]
    rfl
  exact Prod.ext rfl hpending

theorem keeps_meter_acceptHandshake (sid : SessionId) (client : Option ClientConfig)
    (addr : SocketAddr) : Keeps meter (acceptHandshake P rng env sid client addr) := by
  unfold acceptHandshake
  apply Keeps.bind (keeps_meter_modifyManager fun m => m.establish_heap sid _)
  intro _
  apply Keeps.bind (fun _ => rfl)
  intro _
  refine Keeps.bind ?_ fun _ => keeps_meter_sendServerHello P rng env sid addr
  cases client with
  | none => exact keeps_pure _
  | some client =>
      exact Keeps.bind (fun _ => rfl) fun _ => fun g => meter_of_heap rfl rfl rfl

theorem keeps_meter_tunRead (packet : Bytes) : Keeps meter (tunRead P cfg env packet) := by
  unfold tunRead
  split
  · exact keeps_pure _
  split
  · split
    · exact fun _ => rfl
    · exact keeps_pure _
  · apply Keeps.bind (keeps_gets _)
    intro session
    cases session with
    | none => exact keeps_pure _
    | some sid =>
        apply Keeps.bind (keeps_gets _)
        intro s
        apply Keeps.bind (keeps_meter_takeSeq sid)
        intro seqNum
        apply Keeps.bind (keeps_meter_sealPacket P env sid cfg.headerTemplate _)
        intro aivpnPacket
        split
        · exact fun _ => rfl
        · exact keeps_pure _

theorem keeps_meter_rotateMask (sid : SessionId) (maskData : Bytes) :
    Keeps meter (rotateMask P rng env sid maskData) := by
  unfold rotateMask
  apply Keeps.bind (keeps_gets _)
  intro g₀
  split
  · apply Keeps.bind
    · intro g
      exact meter_of_heap (s := (g.session sid).nextSeq.2.nextSendNonce.2.2) rfl
        (by simp [manager, SessionManager.buildMaskUpdatePacket, SessionManager.buildPacket,
          SessionManager.sealPacket, SessionManager.takeSeq, SessionManager.setSession, session]) rfl
    · intro packet
      split
      · exact fun _ => rfl
      · exact keeps_pure _
  · exact keeps_pure _

/-- The inner payload moves no bytes, nor does a control message in it. -/
theorem keeps_meter_processInnerPayload (plaintext : Bytes) (sid : SessionId) (addr : SocketAddr) :
    Keeps meter (processInnerPayload P rng cfg env plaintext sid addr) := by
  intro g
  rcases processInnerPayload_cases P rng env cfg plaintext sid addr g with
    heq | ⟨payload, heq⟩ | ⟨control, heq⟩ | heq | ⟨header, reason, -, -, -, heq⟩
  · rw [heq]
  · rw [heq]
    rfl
  · rw [heq]
    exact keeps_meter_sendControlMessage P rng env control sid g
  · rw [heq]
    exact keeps_meter_sendServerHello P rng env sid addr g
  · rw [heq]
    exact keeps_meter_modifyManager (fun m => m.removeSession_heap sid) g

/-! ## The identification of a session -/

theorem keeps_traffic_managerExcept {α : Type}
    (f : SessionManager → Except Error α × SessionManager) : Keeps traffic (managerExcept f) :=
  Keeps.bind (fun _ => rfl) fun _ => keeps_ofExcept _

theorem keeps_traffic_openSession (addr : SocketAddr) (ephPub : Key) (tag : Tag) :
    Keeps traffic (openSession P rng env addr ephPub tag) := by
  unfold openSession
  apply Keeps.bind (keeps_gets _)
  intro clientDb
  cases clientDb with
  | some clients =>
      apply Keeps.bind (fun _ => rfl)
      intro found
      cases found with
      | some hit => exact keeps_pure _
      | none => exact Keeps.bind (fun _ => rfl) fun _ => keeps_throw _
  | none => exact Keeps.bind (keeps_traffic_managerExcept _) fun sid => keeps_pure _

theorem keeps_traffic_offerSession (packetData : Bytes) (tag : Tag) (addr : SocketAddr) :
    Keeps traffic (offerSession P rng env packetData tag addr) := by
  unfold offerSession
  apply Keeps.bind (keeps_gets _)
  intro g
  split_ifs
  · exact keeps_throw _
  · exact keeps_throw _
  · apply Keeps.bind (keeps_traffic_openSession P rng env addr _ tag)
    intro opened
    apply Keeps.bind (keeps_gets _)
    intro s
    split
    · exact Keeps.bind (fun _ => rfl) fun _ => keeps_throw _
    · exact keeps_pure _

/-- The identification of the session records nothing. -/
theorem keeps_traffic_identify (packetData : Bytes) (addr : SocketAddr) :
    Keeps traffic (identify P rng env packetData addr) := by
  unfold identify
  apply Keeps.bind (keeps_traffic_managerExcept _)
  intro hit
  cases hit with
  | some hit => exact keeps_pure _
  | none =>
      unfold handshake
      apply Keeps.bind (keeps_traffic_offerSession P rng env packetData _ addr)
      intro offered
      refine Keeps.bind (fun g => ?_) fun _ => keeps_pure _
      exact congrArg Prod.fst (keeps_meter_acceptHandshake P rng env _ _ addr g)

/-- What a handshake does to the accounts: the sessions that were there hold what they held, and a
session that was not holds nothing. -/
structure OpensEmpty (g g₁ : Gateway) (r : Outcome TagMatch) : Prop where
  old : ∀ sid ∈ g.sessionManager.sessions, g₁.pendingBytes sid = g.pendingBytes sid
  new : ∀ sid ∈ g₁.sessionManager.sessions, sid ∉ g.sessionManager.sessions →
    g₁.pendingBytes sid = 0
  live : ∀ t, r = .ok t → t.sessionId ∈ g₁.sessionManager.sessions

variable {P rng env} {packetData : Bytes} {addr : SocketAddr}

/-- A handshake that is not offered a session. -/
theorem OpensEmpty.of_sameLive {g g₁ : Gateway} {e : Fault Error}
    (h : SessionManager.SameLive g.sessionManager g₁.sessionManager) :
    OpensEmpty g g₁ (.error e) := by
  refine ⟨?_, ?_, by simp⟩
  · intro sid hlive
    exact congrArg Session.pendingBytesIn (h.heap sid hlive)
  · intro sid hlive hnot
    rw [h.sessions] at hlive
    exact absurd hlive hnot

theorem handshake_opensEmpty {tag : Tag} {g g₁ : Gateway} {r : Outcome TagMatch}
    {clients : List ClientConfig} (hm : g.sessionManager.MapInv) (hdb : g.clientDb = some clients)
    (h : handshake P rng env packetData tag addr g = (r, g₁)) : OpensEmpty g g₁ r := by
  unfold handshake at h
  rcases hoffer : offerSession P rng env packetData tag addr g with ⟨ro, g₂⟩
  -- a datagram that is too short for an ephemeral key makes no offer
  by_cases hshort : packetData.length < tagSize + mdhLen + 32
  · have hfail : (∃ e, ro = .error e) ∧ g₂ = g := by
      unfold offerSession at hoffer
      rw [bind_of_ok (gets_apply _ _)] at hoffer
      split_ifs at hoffer
      · cases hoffer
        exact ⟨⟨_, rfl⟩, rfl⟩
      · cases hoffer
        exact ⟨⟨_, rfl⟩, rfl⟩
    obtain ⟨⟨e, rfl⟩, rfl⟩ := hfail
    rw [bind_of_error hoffer] at h
    cases h
    exact OpensEmpty.of_sameLive (SessionManager.SameLive.refl _)
  rcases offerSession_live P rng env (Nat.not_lt.1 hshort) hm hdb rfl hoffer with
    ⟨⟨e, rfl⟩, -, hsame⟩ | ⟨sid, client, counter, isRatcheted, ephPub, m₀, rfl, -, hinv, hsame, hnew⟩
  · rw [bind_of_error hoffer] at h
    cases h
    exact OpensEmpty.of_sameLive hsame
  · rw [bind_of_ok hoffer] at h
    simp only at h
    have hmeter := keeps_meter_acceptHandshake P rng env sid (some client) addr g₂
    have hroutes := routing_acceptHandshake P rng env sid (some client) addr g₂
    have hstate : g₁ = (acceptHandshake P rng env sid (some client) addr g₂).2 ∧
        ∀ t, r = .ok t → t.sessionId = sid := by
      rcases hacc : acceptHandshake P rng env sid (some client) addr g₂ with ⟨e | u, g₃⟩
      · rw [bind_of_error hacc] at h
        cases h
        exact ⟨rfl, by simp⟩
      · rw [bind_of_ok hacc] at h
        cases h
        refine ⟨rfl, fun t ht => ?_⟩
        cases ht
        rfl
    -- what the new session gets is decided by the offer; accepting it changes no counter
    obtain ⟨rfl, ht⟩ := hstate
    have hsessions : (acceptHandshake P rng env sid (some client) addr g₂).2.sessionManager.sessions =
        (g₂.sessionManager.establish sid (some client.psk)).sessions := congrArg Prod.fst hroutes
    have hpending := congrArg Prod.snd hmeter
    obtain ⟨s, ⟨addr', dh1, dh2, ip, -, -, hs⟩, hsid, hheap⟩ := SessionManager.createSession_heap hnew
    obtain ⟨hlist, -, -⟩ := SessionManager.createSession_sessions hnew
    have hempty : s.pendingBytesIn = 0 := by
      rw [hs]
      simp [SessionManager.initialSession, Session.updateRatchetedTagWindow,
        Session.updateTagWindow, Session.new]
    refine ⟨?_, ?_, ?_⟩
    · intro other hother
      -- `m₀` has the live sessions of `g`, and the new cell is beside them
      have hold : other ∈ m₀.sessions := by
        rw [hsame.sessions]
        exact hother
      have hcell : g₂.session other = g.session other := by
        unfold session
        rw [hheap, Function.update_of_ne (Nat.ne_of_lt (hinv.allocated other hold)),
          hsame.heap other hother]
      exact (congrFun hpending other).trans (congrArg Session.pendingBytesIn hcell)
    · intro other hother hnot
      rw [hsessions, SessionManager.mem_establish, hlist, List.mem_append, List.mem_singleton,
        hsame.sessions] at hother
      have hother' : other = m₀.nextId := hother.1.resolve_left hnot
      have hcell : g₂.session other = s := by
        unfold session
        rw [hheap, hother', Function.update_self]
      exact (congrFun hpending other).trans ((congrArg Session.pendingBytesIn hcell).trans hempty)
    · intro t hok
      rw [ht t hok, hsessions]
      exact SessionManager.establish_live hnew _

/-- So does the identification of a session. -/
theorem identify_opensEmpty {g g₁ : Gateway} {r : Outcome TagMatch} {clients : List ClientConfig}
    (hm : g.sessionManager.MapInv) (hdb : g.clientDb = some clients)
    (h : identify P rng env packetData addr g = (r, g₁)) : OpensEmpty g g₁ r := by
  obtain ⟨hs, -, -⟩ := g.sessionManager.findSession_map P env (readArray 8 0 packetData) addr.ip
  have hchanges := SessionManager.changes_findSession P rng (env, .cleanup) g.sessionManager
    (readArray 8 0 packetData) addr.ip
  have hpending := SessionManager.findSession_heap P Session.pendingBytesIn
    (Session.refresh_pendingBytesIn P) (Session.recoverAt_pendingBytesIn P) env g.sessionManager
    (readArray 8 0 packetData) addr.ip
  unfold identify at h
  rcases hfs : g.sessionManager.findSession P env (readArray 8 0 packetData) addr.ip with ⟨rf, m⟩
  rw [hfs] at hs hchanges hpending
  -- the lookup chain leaves the accounts alone
  have hfound : ∀ r', (∀ t, r' = .ok t → t.sessionId ∈ m.sessions) →
      OpensEmpty g { g with sessionManager := m } r' := by
    intro r' hr'
    refine ⟨fun sid _ => hpending sid, fun sid hlive hnot => ?_, hr'⟩
    exact absurd (hs ▸ hlive) hnot
  rcases rf with e | _ | ⟨sid, counter, isRatcheted⟩
  · rw [bind_of_error (managerExcept_of_error hfs)] at h
    cases h
    exact hfound _ (by simp)
  · rw [bind_of_ok (managerExcept_of_ok hfs)] at h
    have hopens := handshake_opensEmpty (g := { g with sessionManager := m }) (hm.changes hchanges)
      hdb h
    refine ⟨fun sid hlive => (hopens.old sid (hs ▸ hlive)).trans (hpending sid), ?_, hopens.live⟩
    intro sid hlive hnot
    exact hopens.new sid hlive (hs ▸ hnot)
  · rw [bind_of_ok (managerExcept_of_ok hfs)] at h
    cases h
    refine hfound _ fun t ht => ?_
    cases ht
    rw [hs]
    exact SessionManager.findSession_mem P hfs

/-! ## The datagram behind the identification -/

end Gateway

/-- An accepted datagram is added to the pending bytes, or flushed together with them. -/
theorem Session.receive_account (P : Primitives) (env : Env) (s : Session) (counter : Nat)
    (isNewSession : Bool) (addr : SocketAddr) (len : Nat) :
    (16 * 1024 ≤ saturatingAdd s.pendingBytesIn len ∧
      (s.receive P env counter isNewSession addr len).1.pendingBytesIn = 0 ∧
      (s.receive P env counter isNewSession addr len).2 =
        s.clientId.map fun clientId => (clientId, saturatingAdd s.pendingBytesIn len)) ∨
    saturatingAdd s.pendingBytesIn len < 16 * 1024 ∧
      (s.receive P env counter isNewSession addr len).1.pendingBytesIn =
        saturatingAdd s.pendingBytesIn len ∧
      (s.receive P env counter isNewSession addr len).2 = none := by
  have hmark : (s.markTagReceived counter).pendingBytesIn = s.pendingBytesIn ∧
      (s.markTagReceived counter).clientId = s.clientId := by
    unfold markTagReceived
    simp only
    split_ifs <;> exact ⟨rfl, rfl⟩
  obtain ⟨hpending, hclient⟩ := hmark
  rw [← hpending, ← hclient]
  unfold receive
  simp only
  generalize s.markTagReceived counter = s₁
  by_cases hfull : 16 * 1024 ≤ saturatingAdd s₁.pendingBytesIn len
  · refine Or.inl ⟨hfull, ?_⟩
    split_ifs <;> first | exact ⟨rfl, rfl⟩ | contradiction
  · refine Or.inr ⟨Nat.lt_of_not_le hfull, ?_⟩
    split_ifs <;> first | exact ⟨rfl, rfl⟩ | contradiction

namespace Gateway

variable {P : Primitives} {rng : Randomness} {cfg : GatewayConfig} {env : Env}
  {packetData : Bytes} {addr : SocketAddr}

theorem recordTraffic_ok (flush : Option (String × Nat)) (g : Gateway) :
    recordTraffic flush g = (.ok (), (recordTraffic flush g).2) := by
  cases flush with
  | none => rfl
  | some flush =>
      unfold recordTraffic
      simp only
      rw [bind_of_ok (gets_apply _ _)]
      split_ifs <;> rfl

theorem recordTraffic_some {g : Gateway} {clients : List ClientConfig}
    (hdb : g.clientDb = some clients) (clientId : String) (bytesIn : Nat) :
    (recordTraffic (some (clientId, bytesIn)) g).2 =
      { g with effects := .recordTraffic clientId bytesIn 0 :: g.effects } := by
  have hsome : g.clientDb.isSome = true := by
    rw [hdb]
    rfl
  unfold recordTraffic
  simp only
  rw [bind_of_ok (gets_apply _ _), if_pos hsome]
  rfl

/-- `handle_packet` behind the identification, up to the inner packet. -/
theorem receivePacket_identified {g g₁ : Gateway} {t : TagMatch}
    (hlen : ¬ packetData.length < tagSize + 2)
    (hid : identify P rng env packetData addr g = (.ok t, g₁)) :
    receivePacket P rng env packetData addr g =
      match decryptDatagram P (g₁.session t.sessionId) t packetData with
      | .error e => (err e, g₁)
      | .ok padded => match stripPadding padded with
        | .error e => (err e, (ratchet t g₁).2)
        | .ok plaintext => (.ok (t, plaintext),
            (markReceived P env t addr packetData.length (ratchet t g₁).2).2) := by
  unfold receivePacket
  rw [if_neg hlen, bind_of_ok hid, bind_of_ok (gets_apply _ _)]
  cases decryptDatagram P (g₁.session t.sessionId) t packetData with
  | error e => rfl
  | ok padded =>
      rw [bind_of_ok (ofExcept_ok _ _)]
      -- the ratchet itself cannot fail
      have hratchet : ratchet t g₁ = (.ok (), (ratchet t g₁).2) := by
        unfold ratchet
        split_ifs <;> rfl
      rw [bind_of_ok hratchet]
      simp only
      generalize (ratchet t g₁).2 = g₂
      cases stripPadding padded with
      | error e => rfl
      | ok plaintext =>
          rw [bind_of_ok (ofExcept_ok _ _)]
          simp only
          unfold markReceived
          have hreceive := manager_of_eq (f := fun m => m.receive P env t addr packetData.length)
            (g := g₂) rfl
          rw [bind_of_ok hreceive, bind_of_ok hreceive, bind_of_ok (recordTraffic_ok _ _)]
          rfl

/-- The ratchet forgets the pending bytes of its session, and touches no other account. -/
theorem ratchet_account {g : Gateway} {t : TagMatch} {padded : Bytes}
    (hlive : t.sessionId ∈ g.sessionManager.sessions)
    (hdec : decryptDatagram P (g.session t.sessionId) t packetData = .ok padded) :
    (ratchet t g).2.pendingBytes = Function.update g.pendingBytes t.sessionId
        (if t.isRatchetedTag then 0 else g.pendingBytes t.sessionId) ∧
      (ratchet t g).2.traffic = g.traffic ∧ (ratchet t g).2.clientDb = g.clientDb ∧
      ((ratchet t g).2.session t.sessionId).clientId = (g.session t.sessionId).clientId ∧
      (ratchet t g).2.sessionManager.sessions = g.sessionManager.sessions := by
  have hsessions : (ratchet t g).2.sessionManager.sessions = g.sessionManager.sessions :=
    congrArg Prod.fst (keeps_routing_ratchet t g)
  unfold ratchet at hsessions ⊢
  by_cases hratcheted : t.isRatchetedTag = true
  · rw [if_pos hratcheted] at hsessions ⊢
    obtain ⟨keys, hkeys, -⟩ := decryptDatagram_under hratcheted hdec
    -- the bytes that were pending under the old keys are dropped with them
    have hheap : ((g.sessionManager.completeSessionRatchet t.sessionId).refreshSessionTags
        t.sessionId).heap = Function.update g.sessionManager.heap t.sessionId
          (g.session t.sessionId).completeRatchet := by
      rw [SessionManager.refreshSessionTags_heap]
      unfold SessionManager.completeSessionRatchet
      rw [if_pos hlive]
      rfl
    have hcell : (g.session t.sessionId).completeRatchet.pendingBytesIn = 0 ∧
        (g.session t.sessionId).completeRatchet.clientId = (g.session t.sessionId).clientId := by
      unfold Session.completeRatchet
      rw [hkeys]
      exact ⟨rfl, rfl⟩
    refine ⟨?_, rfl, rfl, ?_, hsessions⟩
    · funext other
      show (((g.sessionManager.completeSessionRatchet t.sessionId).refreshSessionTags
        t.sessionId).heap other).pendingBytesIn = _
      rw [hheap, if_pos hratcheted]
      by_cases hother : other = t.sessionId
      · rw [hother, Function.update_self, Function.update_self]
        exact hcell.1
      · rw [Function.update_of_ne hother, Function.update_of_ne hother]
        rfl
    · show (((g.sessionManager.completeSessionRatchet t.sessionId).refreshSessionTags
        t.sessionId).heap t.sessionId).clientId = _
      rw [hheap, Function.update_self]
      exact hcell.2
  · rw [if_neg hratcheted, if_neg hratcheted, Function.update_eq_self]
    exact ⟨rfl, rfl, rfl, rfl, rfl⟩

theorem keeps_routing_markReceived (P : Primitives) (env : Env) (t : TagMatch) (addr : SocketAddr)
    (len : Nat) : Keeps routing (markReceived P env t addr len) :=
  Keeps.bind (keeps_routing_receive P env t addr len) fun flush => keeps_routing_recordTraffic flush

theorem markReceived_sessions (t : TagMatch) (len : Nat) (g : Gateway) :
    (markReceived P env t addr len g).2.sessionManager.sessions = g.sessionManager.sessions :=
  congrArg Prod.fst (keeps_routing_markReceived P env t addr len g)

/-- The update of a session of a registered client records what is pending with the datagram, or holds
it; nothing is lost but what does not fit into 64 bits. -/
theorem markReceived_account {g : Gateway} {t : TagMatch} {len : Nat} {clientId : String}
    {clients : List ClientConfig} (hclient : (g.session t.sessionId).clientId = some clientId)
    (hdb : g.clientDb = some clients) :
    (∀ other, other ≠ t.sessionId →
      (markReceived P env t addr len g).2.pendingBytes other = g.pendingBytes other) ∧
    ((16 * 1024 ≤ saturatingAdd (g.pendingBytes t.sessionId) len ∧
      (markReceived P env t addr len g).2.pendingBytes t.sessionId = 0 ∧
      (markReceived P env t addr len g).2.traffic =
        saturatingAdd (g.pendingBytes t.sessionId) len + g.traffic) ∨
    saturatingAdd (g.pendingBytes t.sessionId) len < 16 * 1024 ∧
      (markReceived P env t addr len g).2.pendingBytes t.sessionId =
        saturatingAdd (g.pendingBytes t.sessionId) len ∧
      (markReceived P env t addr len g).2.traffic = g.traffic) := by
  have hheap := SessionManager.receive_heap P env g.sessionManager t addr len
  have haccount := (g.session t.sessionId).receive_account P env t.counter t.isNewSession addr len
  have hreceive : manager (fun m => m.receive P env t addr len) g =
      (.ok ((g.session t.sessionId).receive P env t.counter t.isNewSession addr len).2,
        { g with sessionManager := (g.sessionManager.receive P env t addr len).2 }) :=
    manager_of_eq rfl
  unfold markReceived
  rw [bind_of_ok hreceive]
  generalize (g.sessionManager.receive P env t addr len).2 = m at hheap
  change m.heap = Function.update g.sessionManager.heap t.sessionId
    ((g.session t.sessionId).receive P env t.counter t.isNewSession addr len).1 at hheap
  -- the counter either stays below the batch or is flushed into the recorded traffic
  rw [hclient] at haccount
  generalize (g.session t.sessionId).receive P env t.counter t.isNewSession addr len = r
    at haccount hheap
  have hself : pendingBytes { g with sessionManager := m } t.sessionId = r.1.pendingBytesIn := by
    unfold pendingBytes session
    rw [hheap, Function.update_self]
  have hothers : ∀ other, other ≠ t.sessionId →
      pendingBytes { g with sessionManager := m } other = g.pendingBytes other := by
    intro other hother
    unfold pendingBytes session
    rw [hheap, Function.update_of_ne hother]
  rcases haccount with ⟨hfull, hzero, hflush⟩ | ⟨hfew, hpending, hflush⟩
  · rw [hflush, Option.map_some, recordTraffic_some (g := { g with sessionManager := m }) hdb]
    exact ⟨hothers, Or.inl ⟨hfull, hself.trans hzero, rfl⟩⟩
  · rw [hflush]
    exact ⟨hothers, Or.inr ⟨hfew, hself.trans hpending, rfl⟩⟩

/-- A Shutdown removes its session, and no other inner packet does. -/
theorem processInnerPayload_sessions (plaintext : Bytes) (sid : SessionId) (g : Gateway) :
    (processInnerPayload P rng cfg env plaintext sid addr g).2.sessionManager.sessions =
      if carriesShutdown plaintext then (g.sessionManager.removeSession sid).sessions
      else g.sessionManager.sessions := by
  by_cases hshutdown : carriesShutdown plaintext = true
  · rw [if_pos hshutdown]
    unfold carriesShutdown at hshutdown
    cases hdec : InnerHeader.decode plaintext with
    | error e =>
        rw [hdec] at hshutdown
        cases hshutdown
    | ok header =>
        rw [hdec] at hshutdown
        simp only [Bool.and_eq_true, decide_eq_true_eq] at hshutdown
        obtain ⟨htype, hcontrol⟩ := hshutdown
        -- a shutdown has at least an inner header
        have hlong : ¬ plaintext.length < 4 := by
          intro hshort
          rw [InnerHeader.decode, if_pos hshort] at hdec
          cases hdec
        unfold processInnerPayload
        rw [if_neg hlong, hdec, bind_of_ok (ofExec_apply _ _), htype]
        simp only
        unfold handleControlMessage
        split at hcontrol
        · next reason hpayload =>
            rw [hpayload, bind_of_ok (ofExec_apply _ _)]
            rfl
        · cases hcontrol
  · rw [if_neg hshutdown]
    rcases addressBook_processInnerPayload P rng cfg env plaintext sid addr g with
      hbook | ⟨hyes, -⟩
    · exact sessions_of_book hbook
    · exact absurd hyes hshutdown

/-! ## One step -/

theorem heldBytes_of_live {sid : SessionId} {g : Gateway} (h : sid ∈ g.sessionManager.sessions) :
    heldBytes sid g = g.pendingBytes sid := if_pos h

theorem heldBytes_of_gone {sid : SessionId} {g : Gateway} (h : sid ∉ g.sessionManager.sessions) :
    heldBytes sid g = 0 := if_neg h

/-- A session that is live behind the identification held the same before it. -/
theorem OpensEmpty.held_of_live {g g₁ : Gateway} {r : Outcome TagMatch} (h : OpensEmpty g g₁ r)
    {sid : SessionId} (hlive : sid ∈ g₁.sessionManager.sessions) :
    heldBytes sid g = g₁.pendingBytes sid := by
  by_cases hold : sid ∈ g.sessionManager.sessions
  · rw [heldBytes_of_live hold, h.old sid hold]
  · rw [heldBytes_of_gone hold, h.new sid hlive hold]

/-- The identification loses what the sessions hold that it removes. -/
theorem OpensEmpty.held {g g₁ : Gateway} {r : Outcome TagMatch} (h : OpensEmpty g g₁ r)
    (sid : SessionId) : heldBytes sid g₁ ≤ heldBytes sid g ∧
      (heldBytes sid g₁ = heldBytes sid g ↔ (sid ∈ g.sessionManager.sessions →
        sid ∉ g₁.sessionManager.sessions → g.pendingBytes sid = 0)) := by
  by_cases hlive : sid ∈ g₁.sessionManager.sessions
  · rw [h.held_of_live hlive, heldBytes_of_live hlive]
    exact ⟨Nat.le_refl _, iff_of_true rfl fun _ hgone => absurd hlive hgone⟩
  · rw [heldBytes_of_gone hlive]
    refine ⟨Nat.zero_le _, ?_⟩
    by_cases hold : sid ∈ g.sessionManager.sessions
    · rw [heldBytes_of_live hold]
      exact ⟨fun hzero _ _ => hzero.symm, fun hzero => (hzero hold hlive).symm⟩
    · rw [heldBytes_of_gone hold]
      exact iff_of_true rfl fun hc => absurd hc hold

/-- The state behind the inner packet. -/
def afterInner (P : Primitives) (rng : Randomness) (cfg : GatewayConfig) (env : Env)
    (addr : SocketAddr) (t : TagMatch) (plaintext : Bytes) (g : Gateway) : Gateway :=
  if t.isNewSession then g
  else (processInnerPayload P rng cfg env plaintext t.sessionId addr g).2

theorem afterInner_account (t : TagMatch) (plaintext : Bytes) (g : Gateway) (sid : SessionId) :
    (afterInner P rng cfg env addr t plaintext g).traffic = g.traffic ∧
      heldBytes sid (afterInner P rng cfg env addr t plaintext g) =
        if sid = t.sessionId ∧ t.isNewSession = false ∧ carriesShutdown plaintext = true then 0
        else heldBytes sid g := by
  have hmeter := keeps_meter_processInnerPayload P rng cfg env plaintext
    t.sessionId addr g
  have hsessions := @processInnerPayload_sessions P rng cfg env addr plaintext t.sessionId g
  unfold afterInner
  cases hnew : t.isNewSession with
  | true =>
      rw [if_pos rfl, if_neg (by simp)]
      exact ⟨rfl, rfl⟩
  | false =>
      rw [if_neg (by simp)]
      generalize (processInnerPayload P rng cfg env plaintext t.sessionId addr g).2 = g'
        at hmeter hsessions
      have hpending : g'.pendingBytes sid = g.pendingBytes sid :=
        congrFun (congrArg Prod.snd hmeter) sid
      refine ⟨congrArg Prod.fst hmeter, ?_⟩
      cases hshutdown : carriesShutdown plaintext with
      | false =>
          rw [hshutdown, if_neg (by simp)] at hsessions
          rw [if_neg (by simp)]
          unfold heldBytes
          rw [hsessions, hpending]
      | true =>
          rw [hshutdown, if_pos rfl] at hsessions
          -- the bytes of the session that shuts down are dropped with it
          by_cases hsid : sid = t.sessionId
          · rw [if_pos ⟨hsid, rfl, rfl⟩]
            apply heldBytes_of_gone
            rw [hsessions, SessionManager.mem_removeSession]
            exact fun hc => hc.2 hsid
          · rw [if_neg fun hc => hsid hc.1]
            unfold heldBytes
            rw [hsessions, hpending]
            simp only [SessionManager.mem_removeSession, hsid, ne_eq, not_false_eq_true, and_true]

/-- The step for a datagram, behind the identification of its session. -/
theorem handlePacket_identified (cfg : GatewayConfig) {g g₁ : Gateway} {t : TagMatch}
    (hlen : ¬ packetData.length < tagSize + 2)
    (hid : identify P rng env packetData addr g = (.ok t, g₁)) :
    (handlePacket P rng cfg env packetData addr g).2 =
      match decryptDatagram P (g₁.session t.sessionId) t packetData with
      | .error _ => g₁
      | .ok padded => match stripPadding padded with
        | .error _ => (ratchet t g₁).2
        | .ok plaintext => afterInner P rng cfg env addr t plaintext
            (markReceived P env t addr packetData.length (ratchet t g₁).2).2 := by
  have hreceive := receivePacket_identified hlen hid
  unfold handlePacket
  cases hdec : decryptDatagram P (g₁.session t.sessionId) t packetData with
  | error e =>
      rw [hdec] at hreceive
      rw [bind_of_error hreceive]
  | ok padded =>
      rw [hdec] at hreceive
      simp only at hreceive ⊢
      cases hstrip : stripPadding padded with
      | error e =>
          rw [hstrip] at hreceive
          rw [bind_of_error hreceive]
      | ok plaintext =>
          rw [hstrip] at hreceive
          rw [bind_of_ok hreceive]
          unfold afterInner
          simp only
          split_ifs <;> rfl

/-- A registered session that a datagram belongs to, and the state behind its identification. -/
structure IdentifiedFor (P : Primitives) (rng : Randomness) (env : Env) (packetData : Bytes)
    (addr : SocketAddr) (g g₁ : Gateway) (t : TagMatch) : Prop where
  identified : identify P rng env packetData addr g = (.ok t, g₁)
  opens : OpensEmpty g g₁ (.ok t)
  client : ∃ clientId, (g₁.session t.sessionId).clientId = some clientId
  db : ∃ clients, g₁.clientDb = some clients
  traffic : g₁.traffic = g.traffic

theorem DatagramKeepsBytes.of_error {s : Session} {t : TagMatch} {padded : Bytes} {len : Nat}
    {e : Error} (hstrip : stripPadding padded = .error e) :
    DatagramKeepsBytes s t padded len ↔ (t.isRatchetedTag = true → s.pendingBytesIn = 0) := by
  constructor
  · exact fun h => h.ratchet
  · intro h
    refine ⟨h, ?_, ?_⟩
    · intro plaintext hok
      cases hstrip.symm.trans hok
    · intro plaintext hok
      cases hstrip.symm.trans hok

theorem DatagramKeepsBytes.of_ok {s : Session} {t : TagMatch} {padded plaintext : Bytes} {len : Nat}
    (hstrip : stripPadding padded = .ok plaintext) :
    DatagramKeepsBytes s t padded len ↔ (t.isRatchetedTag = true → s.pendingBytesIn = 0) ∧
      s.pendingBytesIn + len ≤ u64Max ∧
      (t.isNewSession = false ∧ carriesShutdown plaintext = true →
        16 * 1024 ≤ s.pendingBytesIn + len) := by
  constructor
  · exact fun h => ⟨h.ratchet, h.counted plaintext hstrip,
      fun hc => h.shutdown plaintext hstrip hc.1 hc.2⟩
  · rintro ⟨hratchet, hcounted, hshutdown⟩
    refine ⟨hratchet, fun _ _ => hcounted, ?_⟩
    intro plaintext' hstrip' hnew hyes
    cases hstrip.symm.trans hstrip'
    exact hshutdown ⟨hnew, hyes⟩

/-- The arithmetic of a batch: `held` was pending, of which the ratchet `R` forgets everything, `len`
came, and the session may be removed at once. -/
theorem batch_account {held len traffic pending traffic' : Nat} {R gone : Prop} [Decidable R]
    [Decidable gone] (hlen : 0 < len)
    (h : (16 * 1024 ≤ saturatingAdd (if R then 0 else held) len ∧ pending = 0 ∧
        traffic' = saturatingAdd (if R then 0 else held) len + traffic) ∨
      saturatingAdd (if R then 0 else held) len < 16 * 1024 ∧
        pending = saturatingAdd (if R then 0 else held) len ∧ traffic' = traffic) :
    (if gone then 0 else pending) + (traffic' - traffic) ≤ held + len ∧
      ((if gone then 0 else pending) + (traffic' - traffic) = held + len ↔
        (R → held = 0) ∧ held + len ≤ u64Max ∧ (gone → 16 * 1024 ≤ held + len)) := by
  have hmax : u64Max = 2 ^ 64 - 1 := rfl
  unfold saturatingAdd at h
  by_cases hR : R
  · by_cases hgone : gone
    · simp only [hR, hgone, if_true, true_imp_iff] at h ⊢
      omega
    · simp only [hR, hgone, if_true, if_false, true_imp_iff, false_imp_iff, and_true] at h ⊢
      omega
  · by_cases hgone : gone
    · simp only [hR, hgone, if_true, if_false, true_imp_iff, false_imp_iff, true_and] at h ⊢
      omega
    · simp only [hR, hgone, if_false, false_imp_iff, true_and, and_true] at h ⊢
      omega

/-- What a datagram does to the account of its own session. -/
theorem handlePacket_own (cfg : GatewayConfig) {g g₁ : Gateway} {t : TagMatch}
    (hlen : ¬ packetData.length < tagSize + 2)
    (h : IdentifiedFor P rng env packetData addr g g₁ t) :
    heldBytes t.sessionId (step P rng cfg g (env, .packet packetData addr)) +
        recordedBytes P rng cfg t.sessionId g (env, .packet packetData addr) ≤
      heldBytes t.sessionId g + acceptedBytes P rng t.sessionId g (env, .packet packetData addr) ∧
    (heldBytes t.sessionId (step P rng cfg g (env, .packet packetData addr)) +
        recordedBytes P rng cfg t.sessionId g (env, .packet packetData addr) =
      heldBytes t.sessionId g + acceptedBytes P rng t.sessionId g (env, .packet packetData addr) ↔
      ∀ padded, decryptDatagram P (g₁.session t.sessionId) t packetData = .ok padded →
        DatagramKeepsBytes (g₁.session t.sessionId) t padded packetData.length) := by
  obtain ⟨hid, hopens, ⟨clientId, hclient⟩, ⟨clients, hdb⟩, htraffic⟩ := h
  have hlive := hopens.live t rfl
  have hstep : step P rng cfg g (env, .packet packetData addr) = _ :=
    handlePacket_identified cfg hlen hid
  have hreceive := receivePacket_identified hlen hid
  rw [hopens.held_of_live hlive]
  unfold recordedBytes acceptedBytes acceptedOn
  rw [hstep]
  simp only
  rw [hreceive]
  cases hdec : decryptDatagram P (g₁.session t.sessionId) t packetData with
  | error e =>
      simp only
      rw [heldBytes_of_live hlive]
      exact ⟨Nat.le_refl _, iff_of_true rfl (by simp)⟩
  | ok padded =>
      obtain ⟨hpending, htraffic', hdb', hclient', hsessions⟩ := ratchet_account hlive hdec
      have hiff : (∀ padded', Except.ok (ε := Error) padded = .ok padded' →
          DatagramKeepsBytes (g₁.session t.sessionId) t padded' packetData.length) ↔
          DatagramKeepsBytes (g₁.session t.sessionId) t padded packetData.length :=
        ⟨fun hall => hall padded rfl, fun hone _ hok => Except.ok.inj hok ▸ hone⟩
      rw [hiff]
      generalize (ratchet t g₁).2 = g₂ at hpending htraffic' hdb' hclient' hsessions
      have hlive₂ : t.sessionId ∈ g₂.sessionManager.sessions := hsessions ▸ hlive
      have hself := congrFun hpending t.sessionId
      rw [Function.update_self] at hself
      change _ = if t.isRatchetedTag = true then 0 else (g₁.session t.sessionId).pendingBytesIn
        at hself
      change heldBytes _ _ + _ ≤ (g₁.session t.sessionId).pendingBytesIn + _ ∧ (heldBytes _ _ + _ =
        (g₁.session t.sessionId).pendingBytesIn + _ ↔ _)
      simp only
      cases hstrip : stripPadding padded with
      | error e =>
          simp only
          rw [heldBytes_of_live hlive₂, DatagramKeepsBytes.of_error hstrip, hself]
          split_ifs with hratcheted
          · simp only [hratcheted, true_imp_iff]
            omega
          · simp [hratcheted]
      | ok plaintext =>
          simp only [if_true]
          have hmark := @markReceived_account P env addr g₂ t packetData.length clientId clients
            (hclient'.trans hclient) (hdb'.trans hdb)
          have hroutes := @markReceived_sessions P env addr t packetData.length g₂
          generalize (markReceived P env t addr packetData.length g₂).2 = g₃ at hmark hroutes
          obtain ⟨hafter, hheld⟩ := @afterInner_account P rng cfg env addr t plaintext g₃ t.sessionId
          have hlive₃ : t.sessionId ∈ g₃.sessionManager.sessions := by
            rw [hroutes]
            exact hlive₂
          rw [heldBytes_of_live hlive₃] at hheld
          simp only [true_and] at hheld
          rw [DatagramKeepsBytes.of_ok hstrip, hafter, hheld]
          obtain ⟨-, hcases⟩ := hmark
          rw [hself, htraffic', htraffic] at hcases
          refine batch_account ?_ hcases
          unfold tagSize at hlen
          omega

/-- A datagram leaves the accounts of the other sessions as the identification left them. -/
theorem handlePacket_other (cfg : GatewayConfig) {g g₁ : Gateway} {t : TagMatch} {sid : SessionId}
    (hlen : ¬ packetData.length < tagSize + 2)
    (h : IdentifiedFor P rng env packetData addr g g₁ t) (hne : sid ≠ t.sessionId) :
    heldBytes sid (handlePacket P rng cfg env packetData addr g).2 = heldBytes sid g₁ := by
  obtain ⟨hid, hopens, ⟨clientId, hclient⟩, ⟨clients, hdb⟩, -⟩ := h
  have hlive := hopens.live t rfl
  rw [handlePacket_identified cfg hlen hid]
  cases hdec : decryptDatagram P (g₁.session t.sessionId) t packetData with
  | error e => rfl
  | ok padded =>
      obtain ⟨hpending, -, hdb', hclient', hsessions⟩ := ratchet_account hlive hdec
      generalize (ratchet t g₁).2 = g₂ at hpending hdb' hclient' hsessions
      have hheld : heldBytes sid g₂ = heldBytes sid g₁ := by
        unfold heldBytes
        rw [hsessions, hpending, Function.update_of_ne hne]
      simp only
      cases hstrip : stripPadding padded with
      | error e => exact hheld
      | ok plaintext =>
          obtain ⟨hothers, -⟩ := @markReceived_account P env addr g₂ t packetData.length clientId
            clients (hclient'.trans hclient) (hdb'.trans hdb)
          have hroutes := @markReceived_sessions P env addr t packetData.length g₂
          refine (@afterInner_account P rng cfg env addr t plaintext _ sid).2.trans ?_
          rw [if_neg fun hc => hne hc.1, ← hheld]
          unfold heldBytes
          rw [hroutes, hothers sid hne]

/-- Every live session belongs to a registered client, and there is a database. -/
abbrev Registered (g : Gateway) : Prop := Attributed (fun _ => True) (fun _ _ => True) g

theorem Registered.step {g : Gateway} (h : Registered g) (e : Env × Event) :
    Registered (Gateway.step P rng cfg g e) :=
  Attributed.step h (fun _ _ _ _ => trivial) fun _ _ _ _ => trivial

theorem Registered.identified {g g₁ : Gateway} {r : Outcome TagMatch} (h : Registered g)
    (hlen : ¬ packetData.length < tagSize + 2)
    (hid : identify P rng env packetData addr g = (r, g₁)) :
    OpensEmpty g g₁ r ∧ g₁.traffic = g.traffic ∧
      ∀ t, r = .ok t → IdentifiedFor P rng env packetData addr g g₁ t := by
  obtain ⟨clients, hdb, -⟩ := h.db
  have hopens := identify_opensEmpty h.map hdb hid
  have htraffic := keeps_traffic_identify P rng env packetData addr g
  obtain ⟨-, howned⟩ := @identify_ownedBy P rng env _ ⟨false, default, []⟩ packetData addr g clients
    hlen h.map h.owned hdb fun _ _ _ _ => trivial
  have hopening := identify_opening P rng ⟨false, default, []⟩ (env, .cleanup) hlen addr g
  have hdb₁ := hopening.clientDb P rng _ (by simp)
  rw [hid] at htraffic howned hdb₁
  refine ⟨hopens, htraffic, ?_⟩
  rintro t rfl
  obtain ⟨c, -, hclient, -⟩ := howned t.sessionId (hopens.live t rfl)
  exact ⟨hid, hopens, ⟨c.id, hclient⟩, ⟨clients, hdb₁.trans hdb⟩, htraffic⟩

variable (P rng cfg)

/-- The step balances the account of the session, up to what it loses. -/
def Balances (C : Prop) (sid : SessionId) (g : Gateway) (e : Env × Event) : Prop :=
  heldBytes sid (step P rng cfg g e) + recordedBytes P rng cfg sid g e ≤
      heldBytes sid g + acceptedBytes P rng sid g e ∧
    (heldBytes sid (step P rng cfg g e) + recordedBytes P rng cfg sid g e =
      heldBytes sid g + acceptedBytes P rng sid g e ↔ C)

variable {P rng cfg}

/-- A step that accepts no datagram on the session. -/
theorem Balances.of_quiet {C : Prop} {sid : SessionId} {g : Gateway} {e : Env × Event}
    (hquiet : ∀ len, acceptedOn P rng g e ≠ some (sid, len))
    (hheld : heldBytes sid (step P rng cfg g e) ≤ heldBytes sid g ∧
      (heldBytes sid (step P rng cfg g e) = heldBytes sid g ↔ C)) :
    Balances P rng cfg C sid g e := by
  have hzero : recordedBytes P rng cfg sid g e = 0 ∧ acceptedBytes P rng sid g e = 0 := by
    unfold recordedBytes acceptedBytes
    cases hon : acceptedOn P rng g e with
    | none => exact ⟨rfl, rfl⟩
    | some found =>
        obtain ⟨sid', len⟩ := found
        have hne : sid' ≠ sid := by
          rintro rfl
          exact hquiet len hon
        simp [hne]
  unfold Balances
  rw [hzero.1, hzero.2]
  exact hheld

/-- A datagram is accepted on the session it is identified for. -/
theorem acceptedOn_identified {g : Gateway} {sid : SessionId} {len : Nat}
    (h : acceptedOn P rng g (env, .packet packetData addr) = some (sid, len)) :
    ∃ t, (identify P rng env packetData addr g).1 = .ok t ∧ t.sessionId = sid := by
  unfold acceptedOn at h
  simp only at h
  have hlen : ¬ packetData.length < tagSize + 2 := by
    intro hshort
    rw [receivePacket_short P rng env hshort addr g] at h
    cases h
  rcases hr : receivePacket P rng env packetData addr g with ⟨e | ⟨t, plaintext⟩, g'⟩
  · rw [hr] at h
    cases h
  · rw [hr] at h
    cases h
    exact ⟨t, ((receivePacket_cases P rng env hlen hr).2 t plaintext rfl).1, rfl⟩

/-- A datagram balances the account of every session exactly if it keeps the session's bytes. -/
theorem packet_balances {g : Gateway} (h : Registered g) (sid : SessionId) (env : Env)
    (packetData : Bytes) (addr : SocketAddr) :
    Balances P rng cfg (KeepsBytes P rng sid g (env, .packet packetData addr)) sid g
      (env, .packet packetData addr) := by
  by_cases hlen : packetData.length < tagSize + 2
  · have hshort := receivePacket_short P rng env hlen addr g
    refine Balances.of_quiet (fun len => ?_) ?_
    · simp [acceptedOn, hshort, err]
    · have hstep : step P rng cfg g (env, .packet packetData addr) = g := by
        show (handlePacket P rng cfg env packetData addr g).2 = g
        rw [handlePacket, bind_of_error hshort]
      rw [hstep]
      exact ⟨Nat.le_refl _, iff_of_true rfl fun hc => absurd hlen (Nat.not_lt.2 hc)⟩
  have hlong : tagSize + 2 ≤ packetData.length := Nat.not_lt.1 hlen
  rcases hid : identify P rng env packetData addr g with ⟨r, g₁⟩
  obtain ⟨hopens, htraffic, hfor⟩ := h.identified hlen hid
  -- the datagram determines `t` and the state behind the lookup
  have hcondition : KeepsBytes P rng sid g (env, .packet packetData addr) ↔
      (sid ∈ g.sessionManager.sessions → sid ∉ g₁.sessionManager.sessions →
        g.pendingBytes sid = 0) ∧
      ∀ t padded, r = .ok t → t.sessionId = sid →
        decryptDatagram P (g₁.session sid) t packetData = .ok padded →
        DatagramKeepsBytes (g₁.session sid) t padded packetData.length := by
    simp only [KeepsBytes, hid, hlong, true_imp_iff, Prod.mk.injEq]
    constructor
    · rintro ⟨hgone, hown⟩
      exact ⟨hgone, fun t padded hr => hown t g₁ padded ⟨hr, rfl⟩⟩
    · rintro ⟨hgone, hown⟩
      refine ⟨hgone, ?_⟩
      rintro t _ padded ⟨hr, rfl⟩
      exact hown t padded hr
  rw [hcondition]
  cases r with
  | error e =>
      refine Balances.of_quiet (fun len hon => ?_) ?_
      · obtain ⟨t, ht, -⟩ := acceptedOn_identified hon
        rw [hid] at ht
        cases ht
      · have hstep : step P rng cfg g (env, .packet packetData addr) = g₁ :=
          handlePacket_of_error hlen hid
        rw [hstep]
        obtain ⟨hle, hiff⟩ := hopens.held sid
        refine ⟨hle, hiff.trans ⟨fun hgone => ⟨hgone, by simp⟩, fun hc => hc.1⟩⟩
  | ok t =>
      have hidentified := hfor t rfl
      by_cases hsid : sid = t.sessionId
      · subst hsid
        obtain ⟨hle, hiff⟩ := handlePacket_own cfg hlen hidentified
        refine ⟨hle, hiff.trans ⟨fun hown => ?_, fun hc padded => hc.2 t padded rfl rfl⟩⟩
        refine ⟨fun _ hgone => absurd (hopens.live t rfl) hgone, ?_⟩
        intro t' padded ht
        cases ht
        exact fun _ => hown padded
      · have hother := handlePacket_other cfg hlen hidentified hsid
        -- the datagram is another session's
        refine Balances.of_quiet (fun len hon => ?_) ?_
        · obtain ⟨t', ht, hsid'⟩ := acceptedOn_identified hon
          rw [hid] at ht
          cases ht
          exact hsid hsid'.symm
        · change heldBytes sid (step P rng cfg g (env, .packet packetData addr)) = _ at hother
          rw [hother]
          obtain ⟨hle, hiff⟩ := hopens.held sid
          refine ⟨hle, hiff.trans ⟨fun hgone => ⟨hgone, ?_⟩, fun hc => hc.1⟩⟩
          intro t' padded ht hsid'
          cases ht
          exact absurd hsid'.symm hsid

/-- A step that is no datagram and keeps the accounts and the session map. -/
theorem Balances.of_kept {sid : SessionId} {g : Gateway} {e : Env × Event}
    (hquiet : acceptedOn P rng g e = none)
    (hmeter : (step P rng cfg g e).meter = g.meter)
    (hsessions : ∀ sid, sid ∈ (step P rng cfg g e).sessionManager.sessions ↔
      sid ∈ g.sessionManager.sessions) : Balances P rng cfg True sid g e := by
  refine Balances.of_quiet (fun len => by simp [hquiet]) ?_
  have hpending := congrFun (congrArg Prod.snd hmeter) sid
  have hheld : heldBytes sid (step P rng cfg g e) = heldBytes sid g := by
    unfold heldBytes
    change pendingBytes _ sid = _ at hpending
    simp only [hsessions, hpending]
    rfl
  rw [hheld]
  exact ⟨Nat.le_refl _, iff_of_true rfl trivial⟩

/-- Every step balances the account of every session exactly if it keeps the session's bytes. -/
theorem step_balances {g : Gateway} (h : Registered g) (sid : SessionId) (e : Env × Event) :
    Balances P rng cfg (KeepsBytes P rng sid g e) sid g e := by
  obtain ⟨env, event⟩ := e
  cases event with
  | packet packetData addr => exact packet_balances h sid env packetData addr
  | tun packet =>
      have hmeter := keeps_meter_tunRead P cfg env packet g
      have hsessions := sessions_of_book (keeps_addressBook_tunRead P cfg env packet g)
      exact Balances.of_kept rfl hmeter fun sid' => iff_of_eq (congrArg (sid' ∈ ·) hsessions)
  | rotateMask sid' maskData =>
      have hmeter := keeps_meter_rotateMask P rng env sid' maskData g
      have hsessions := sessions_of_book (keeps_addressBook_rotateMask P rng env sid' maskData g)
      exact Balances.of_kept rfl hmeter fun sid' => iff_of_eq (congrArg (sid' ∈ ·) hsessions)
  | cleanup =>
      apply Balances.of_quiet (by simp [acceptedOn])
      have hmem : sid ∈ (step P rng cfg g (env, .cleanup)).sessionManager.sessions ↔
          sid ∈ g.sessionManager.sessions ∧ ¬ (sid ∈ g.sessionManager.sessions ∧
            ((g.session sid).isExpired env.instant || (g.session sid).isIdle env.instant) = true) := by
        show sid ∈ (g.sessionManager.cleanupExpired env.instant).sessions ↔ _
        unfold SessionManager.cleanupExpired
        rw [SessionManager.mem_removeSessions, List.mem_filter]
        rfl
      have hpending : (step P rng cfg g (env, .cleanup)).pendingBytes sid = g.pendingBytes sid := by
        show ((g.sessionManager.cleanupExpired env.instant).heap sid).pendingBytesIn = _
        unfold SessionManager.cleanupExpired
        rw [SessionManager.removeSessions_heap]
        rfl
      unfold KeepsBytes heldBytes
      simp only [hmem, hpending]
      -- a session that expires takes its pending bytes with it
      by_cases hlive : sid ∈ g.sessionManager.sessions
      · simp only [hlive, true_and, true_imp_iff, if_true]
        split_ifs with hexpired
        · exact ⟨Nat.zero_le _, fun hzero _ => hzero.symm, fun hzero => (hzero hexpired).symm⟩
        · exact ⟨Nat.le_refl _, iff_of_true rfl fun hc => absurd hc hexpired⟩
      · simp [hlive]
  | reload clients => exact Balances.of_kept rfl rfl fun _ => Iff.rfl
  | rehash sessions =>
      by_cases hperm : sessions.Perm g.sessionManager.sessions
      · have hstep : step P rng cfg g (env, .rehash sessions) =
            { g with sessionManager := { g.sessionManager with sessions := sessions } } := by
          show { g with sessionManager := if _ then _ else _ } = _
          rw [if_pos hperm]
        apply Balances.of_kept rfl
        · rw [hstep]
          rfl
        · intro sid'
          rw [hstep]
          exact hperm.mem_iff
      · have hstep : step P rng cfg g (env, .rehash sessions) = g := by
          show { g with sessionManager := if _ then _ else _ } = _
          rw [if_neg hperm]
        apply Balances.of_kept rfl
        · rw [hstep]
        · intro sid'
          rw [hstep]

/-- A datagram records only for the session on which it is accepted. -/
theorem handlePacket_traffic {g : Gateway} (h : Registered g) :
    g.traffic ≤ (handlePacket P rng cfg env packetData addr g).2.traffic ∧
      (acceptedOn P rng g (env, .packet packetData addr) = none →
        (handlePacket P rng cfg env packetData addr g).2.traffic = g.traffic) := by
  by_cases hlen : packetData.length < tagSize + 2
  · rw [handlePacket, bind_of_error (receivePacket_short P rng env hlen addr g)]
    exact ⟨Nat.le_refl _, fun _ => rfl⟩
  rcases hid : identify P rng env packetData addr g with ⟨r, g₁⟩
  obtain ⟨hopens, htraffic, hfor⟩ := h.identified hlen hid
  cases r with
  | error e =>
      rw [handlePacket_of_error hlen hid, htraffic]
      exact ⟨Nat.le_refl _, fun _ => rfl⟩
  | ok t =>
      obtain ⟨-, -, ⟨clientId, hclient⟩, ⟨clients, hdb⟩, -⟩ := hfor t rfl
      have hreceive := receivePacket_identified hlen hid
      rw [handlePacket_identified cfg hlen hid]
      cases hdec : decryptDatagram P (g₁.session t.sessionId) t packetData with
      | error e => exact ⟨Nat.le_of_eq htraffic.symm, fun _ => htraffic⟩
      | ok padded =>
          rw [hdec] at hreceive
          obtain ⟨-, htraffic', hdb', hclient', -⟩ := ratchet_account (hopens.live t rfl) hdec
          rw [htraffic] at htraffic'
          generalize (ratchet t g₁).2 = g₂ at hreceive htraffic' hdb' hclient' ⊢
          simp only at hreceive ⊢
          cases hstrip : stripPadding padded with
          | error e => exact ⟨Nat.le_of_eq htraffic'.symm, fun _ => htraffic'⟩
          | ok plaintext =>
              rw [hstrip] at hreceive
              simp only [(@afterInner_account P rng cfg env addr t plaintext _ t.sessionId).1]
              obtain ⟨-, hmark⟩ := @markReceived_account P env addr g₂ t packetData.length clientId
                clients (hclient'.trans hclient) (hdb'.trans hdb)
              -- the traffic grows by a whole batch, where the datagram comes through
              rw [← htraffic']
              refine ⟨?_, fun hnone => ?_⟩
              · omega
              · simp only [acceptedOn, hreceive] at hnone
                cases hnone

/-- All bytes handed to `record_traffic` in a step are recorded for the session on which the datagram of
the step is accepted. -/
theorem step_traffic {g : Gateway} (h : Registered g) (e : Env × Event) :
    (step P rng cfg g e).traffic = g.traffic + match acceptedOn P rng g e with
      | some (sid, _) => recordedBytes P rng cfg sid g e
      | none => 0 := by
  obtain ⟨env, event⟩ := e
  cases event with
  | packet packetData addr =>
      obtain ⟨hle, hnone⟩ := @handlePacket_traffic P rng cfg env packetData addr g h
      cases hon : acceptedOn P rng g (env, .packet packetData addr) with
      | none => exact hnone hon
      | some found =>
          simp only [recordedBytes, hon, if_true]
          exact (Nat.add_sub_of_le hle).symm
  | tun packet => exact congrArg Prod.fst (keeps_meter_tunRead P cfg env packet g)
  | rotateMask sid maskData =>
      exact congrArg Prod.fst (keeps_meter_rotateMask P rng env sid maskData g)
  | cleanup => rfl
  | reload clients => rfl
  | rehash sessions => rfl

/-- What a session holds never reaches the size of a batch, so that the sum with a datagram of less than
`2 ^ 63` bytes does not saturate. -/
theorem pendingBytes_lt_batch (serverKeys : KeyPair) (signingKey : Key)
    (clientDb : Option (List ClientConfig)) (es : List (Env × Event)) (sid : SessionId) :
    (runFrom (Gateway.step P rng cfg) (Gateway.new serverKeys signingKey clientDb) es).pendingBytes
      sid < 16 * 1024 := by
  refine session_of_change (Q := fun s => s.pendingBytesIn < 16 * 1024) (fun _ => ?_) ?_ ?_ es sid
  · show (0 : Nat) < 16 * 1024
    decide
  · rintro env m ephPub psk s ⟨addr, dh1, dh2, ip, -, -, rfl⟩
    simp [SessionManager.initialSession, Session.updateRatchetedTagWindow,
      Session.updateTagWindow, Session.new]
  · intro e s s' hs hch
    cases hch with
    | refresh =>
        rw [Session.refresh_pendingBytesIn]
        exact hs
    | recover hfind =>
        rw [Session.recoverAt_pendingBytesIn]
        exact hs
    | ratchet hkeys hopens =>
        unfold Session.completeRatchet
        -- the ratcheted keys start with an empty counter
        split
        · show (0 : Nat) < 16 * 1024
          decide
        · exact hs
    | receive counter isNewSession addr len =>
        rcases s.receive_account P e.1 counter isNewSession addr len with
          ⟨-, hzero, -⟩ | ⟨hfew, hpending, -⟩
        · rw [hzero]
          decide
        · rw [hpending]
          exact hfew
    | identify clientId hnone => exact hs
    | takeSeq => exact hs
    | send => exact hs

end Gateway

/-- In every run of a gateway with a client database the bytes recorded for a session and the bytes that
it still holds make up the lengths of the datagrams accepted on it exactly if every step of the run
keeps its bytes: when it ratchets, or is removed by a handshake or a cleanup, nothing is pending, and a
Shutdown comes in a datagram that fills the batch. -/
theorem traffic_conserved_iff (P : Primitives) (rng : Randomness) (cfg : GatewayConfig)
    (serverKeys : KeyPair) (signingKey : Key) (clients : List ClientConfig)
    (es : List (Env × Gateway.Event)) (sid : SessionId) :
    let g₀ := Gateway.new serverKeys signingKey (some clients)
    let step := Gateway.step P rng cfg
    tally step (Gateway.recordedBytes P rng cfg sid) g₀ es +
        Gateway.heldBytes sid (runFrom step g₀ es) =
      tally step (Gateway.acceptedBytes P rng sid) g₀ es ↔
    Along step (Gateway.KeepsBytes P rng sid) g₀ es := by
  intro g₀ step
  have hg₀ : Gateway.Registered g₀ := by
    refine ⟨mapInv_of_run P rng cfg serverKeys signingKey (some clients) [], ?_, clients, rfl,
      fun _ _ => trivial⟩
    intro sid hmem
    cases hmem
  have hempty : Gateway.heldBytes sid g₀ = 0 := Gateway.heldBytes_of_gone List.not_mem_nil
  have hstep : ∀ g e, Gateway.Registered g → Gateway.Registered (step g e) :=
    fun _ e h => Gateway.Registered.step h e
  have hbalance := (tally_balance_iff hstep
    (fun g e h => (@Gateway.step_balances P rng cfg g h sid e).1)
    (fun g e h => (@Gateway.step_balances P rng cfg g h sid e).2) hg₀ es).2
  rw [hempty, Nat.zero_add] at hbalance
  rw [Nat.add_comm]
  exact hbalance

/-- The sample client connects and ratchets. Both of its datagrams are accepted, and the 75 bytes of
the first one are neither recorded nor held by the session. -/
theorem ratchet_forgets_bytes :
    let g₀ := Gateway.new sampleServerKeys default (some [sampleClient])
    let step := Gateway.step samplePrimitives sampleRandomness sampleConfig
    tally step (Gateway.acceptedBytes samplePrimitives sampleRandomness 0) g₀ sampleConnect = 118 ∧
      tally step (Gateway.recordedBytes samplePrimitives sampleRandomness sampleConfig 0) g₀
        sampleConnect = 0 ∧
      Gateway.heldBytes 0 (runFrom step g₀ sampleConnect) = 43 := by
  decide +kernel

end Aivpn
