import Aivpn.Server.Stages
import Aivpn.Server.SessionMap

/-!
# The receive workers

`process_packets_concurrent`: one task receives datagrams and hands each to one of the workers by
`worker_index_for_packet`; a worker takes the datagrams of its queue one after the other and calls
`handle_packet`. Calls on different workers interleave section by section, with each other and
with the TUN read loop and the background tasks, in any order.

`milestones` is a history variable, newest first: the sections of the calls in which a session was
given its address, validated, kept by a cleanup, or credited with a datagram.
-/

set_option autoImplicit false

namespace Aivpn

open Aivpn.Lib Action

/-! ## Dispatch -/

/-- The number by which `worker_index_for_packet` shards an address. -/
def SocketAddr.shardKey (addr : SocketAddr) : Nat :=
  match addr.ip with
  | .v4 ip =>
      (((ip.a.toNat * 256 + ip.b.toNat) * 256 + ip.c.toNat) * 256 + ip.d.toNat) * 2 ^ 16 +
        addr.port.toNat
  | .v6 octets => leNat (octets.toList.take 8) ^^^ addr.port.toNat

/-- The worker for an address. -/
def workerIndex (workerCount : Nat) (addr : SocketAddr) : Nat :=
  if workerCount ≤ 1 then 0 else addr.shardKey % workerCount

namespace Gateway

/-- The session that `worker_index_for_packet` finds for a datagram. -/
def dispatchSession (g : Gateway) (packetData : Bytes) : Option SessionId :=
  if tagSize ≤ packetData.length then g.sessionManager.getSessionByTag (readArray 8 0 packetData)
  else none

/-- `Gateway::worker_index_for_packet`: the worker for the stored address of the session, when the
tag is in the tag map, and for the source address otherwise. -/
def workerIndexForPacket (g : Gateway) (packetData : Bytes) (clientAddr : SocketAddr)
    (workerCount : Nat) : Nat :=
  workerIndex workerCount (match g.dispatchSession packetData with
    | some sid => (g.session sid).clientAddr
    | none => clientAddr)

end Gateway

/-! ## The pool -/

/-- A call of `handle_packet`, queued or running: its datagram, the session it was dispatched for,
its worker, and where it stands. -/
structure Call where
  packetData : Bytes
  clientAddr : SocketAddr
  dispatchedFor : Option SessionId
  worker : Nat
  stage : Stage

/-- What the calls have done to sessions. -/
inductive Milestone where
  /-- The session was given the address, and the address mapped to the session. -/
  | address (sid : SessionId) (ip : Ipv4Addr)
  /-- The tag of the handshake was validated for the session. -/
  | valid (sid : SessionId)
  /-- The other sessions of the address were removed. -/
  | cleanup (sid : SessionId) (ip : Ipv4Addr)
  /-- The datagram of the call was accepted for the session. -/
  | accepted (sid : SessionId) (call : Nat)
deriving DecidableEq

/-- The gateway with the calls that its workers have taken or will take, numbered as they
arrived. -/
structure Pool where
  gateway : Gateway
  calls : Nat → Call
  arrived : Nat
  milestones : List Milestone

/-- What runs beside the workers. -/
inductive Task where
  | tun (packet : Bytes)
  | rotateMask (sid : SessionId) (maskData : Bytes)
  | cleanup
  | reload (clients : List ClientConfig)
  | rehash (sessions : List SessionId)

/-- The event of the gateway that a task makes. -/
def Task.event : Task → Gateway.Event
  | tun packet => .tun packet
  | rotateMask sid maskData => .rotateMask sid maskData
  | cleanup => .cleanup
  | reload clients => .reload clients
  | rehash sessions => .rehash sessions

/-- The milestone of a call's next section. -/
def Stage.milestone (P : Primitives) (env : Env) (packetData : Bytes) (call : Nat) (g : Gateway) :
    Stage → Option Milestone
  | .assignVpnIp a reusedVpnIp sid =>
      (g.sessionManager.assignVpnIp (a.client.map ClientConfig.vpnIp) reusedVpnIp).1.map (.address sid)
  | .validate _ _ sid =>
      if ((g.session sid).validateTag P env.timeWindow (readArray 8 0 packetData)).isSome then
        some (.valid sid)
      else none
  | .revalidate _ sid =>
      if ((g.session sid).validateTag P env.timeWindow (readArray 8 0 packetData)).isSome then
        some (.valid sid)
      else none
  | .cleanup _ t => (g.session t.sessionId).vpnIp.map (.cleanup t.sessionId)
  | .mark t padded => match stripPadding padded with
    | .ok _ => some (.accepted t.sessionId call)
    | .error _ => none
  | _ => none

section

variable (P : Primitives) (env : Env) (packetData : Bytes) (call : Nat) (g : Gateway)

theorem Stage.milestone_validate (a : Attempt) (client : ClientConfig) (sid : SessionId) :
    (Stage.validate a client sid).milestone P env packetData call g =
      if ((g.session sid).validateTag P env.timeWindow (readArray 8 0 packetData)).isSome then
        some (.valid sid)
      else none := rfl

theorem Stage.milestone_revalidate (client : Option ClientConfig) (sid : SessionId) :
    (Stage.revalidate client sid).milestone P env packetData call g =
      if ((g.session sid).validateTag P env.timeWindow (readArray 8 0 packetData)).isSome then
        some (.valid sid)
      else none := rfl

theorem Stage.milestone_mark (t : TagMatch) (padded : Bytes) :
    (Stage.mark t padded).milestone P env packetData call g = match stripPadding padded with
      | .ok _ => some (.accepted t.sessionId call)
      | .error _ => none := rfl

end

/-- The call has returned. -/
def Stage.isFinished : Stage → Bool
  | .finished _ => true
  | _ => false

namespace Pool

/-- No datagram has arrived yet. -/
def start (g : Gateway) : Pool where
  gateway := g
  calls := fun _ => ⟨[], default, none, 0, .finished (.ok ())⟩
  arrived := 0
  milestones := []

/-- The call has arrived, has not returned, and is the first of its worker's queue. -/
def Ready (p : Pool) (i : Nat) : Prop :=
  i < p.arrived ∧ (p.calls i).stage.isFinished = false ∧
    ∀ j < i, (p.calls j).worker = (p.calls i).worker → (p.calls j).stage.isFinished = true

instance (p : Pool) (i : Nat) : Decidable (p.Ready i) := by
  unfold Ready
  infer_instance

/-- What can happen: a datagram arrives, a call runs its next section, or a task runs. -/
inductive Event where
  | arrive (packetData : Bytes) (clientAddr : SocketAddr)
  | advance (call : Nat)
  | task (t : Task)

section

variable (P : Primitives) (rng : Randomness) (cfg : GatewayConfig) (workerCount : Nat)

/-- The next section of a call, at the time of `env`. -/
def advance (env : Env) (p : Pool) (i : Nat) : Pool :=
  let c := p.calls i
  let r := Gateway.advance P rng cfg env c.packetData c.clientAddr c.stage p.gateway
  { p with
    gateway := r.2
    calls := Function.update p.calls i { c with stage := r.1 }
    milestones := (c.stage.milestone P env c.packetData i p.gateway).toList ++ p.milestones }

/-- The call of a datagram that has just been dispatched. -/
def dispatch (p : Pool) (packetData : Bytes) (clientAddr : SocketAddr) : Call where
  packetData := packetData
  clientAddr := clientAddr
  dispatchedFor := p.gateway.dispatchSession packetData
  worker := p.gateway.workerIndexForPacket packetData clientAddr workerCount
  stage := .lookup

/-- One step of the pool, at the time of `e.1`. -/
def step (p : Pool) (e : Env × Event) : Pool :=
  match e.2 with
  | .arrive packetData clientAddr => { p with
      calls := Function.update p.calls p.arrived (p.dispatch workerCount packetData clientAddr)
      arrived := p.arrived + 1 }
  | .advance i => if p.Ready i then p.advance P rng cfg e.1 i else p
  | .task t => { p with gateway := p.gateway.step P rng cfg (e.1, t.event) }

end

/-- The section that a step runs, with the call that runs it. -/
def sectionOf (x : Pool × Env × Event) : Option (Nat × Stage) :=
  match x.2.2 with
  | .advance i => if x.1.Ready i then some (i, (x.1.calls i).stage) else none
  | _ => none

end Pool

/-- The inner packet is a Shutdown message. -/
def carriesShutdown (plaintext : Bytes) : Bool :=
  match InnerHeader.decode plaintext with
  | .ok header => header.innerType = .control && match ControlPayload.decode (plaintext.drop 4) with
      | .ok (.shutdown _) => true
      | _ => false
  | .error _ => false

/-! ## Sections that leave the sessions and their addresses alone -/

theorem Session.updateTagWindow_clientAddr (P : Primitives) (tw : Nat) (s : Session) :
    (s.updateTagWindow P tw).clientAddr = s.clientAddr := by
  unfold Session.updateTagWindow
  generalize s.windowCounters = counters
  rfl

theorem Session.updateRatchetedTagWindow_addresses {P : Primitives} {tw : Nat} {s : Session} :
    (s.updateRatchetedTagWindow P tw).vpnIp = s.vpnIp ∧
      (s.updateRatchetedTagWindow P tw).clientAddr = s.clientAddr := by
  unfold Session.updateRatchetedTagWindow
  split
  · exact ⟨rfl, rfl⟩
  · exact ⟨rfl, rfl⟩

/-- What the session manager knows of its sessions' places: which are live, which address leads to
which, and the addresses of each. -/
structure AddressBook where
  sessions : List SessionId
  nextId : SessionId
  vpnIpMap : Ipv4Addr → Option SessionId
  vpnIp : SessionId → Option Ipv4Addr
  clientAddr : SessionId → SocketAddr

namespace SessionManager

/-- The address book of a session manager. -/
def addressBook (m : SessionManager) : AddressBook where
  sessions := m.sessions
  nextId := m.nextId
  vpnIpMap := m.vpnIpMap
  vpnIp := fun sid => (m.heap sid).vpnIp
  clientAddr := fun sid => (m.heap sid).clientAddr

theorem addressBook_of_update {m m' : SessionManager} {sid : SessionId} {s : Session}
    (hsessions : m'.sessions = m.sessions) (hnext : m'.nextId = m.nextId)
    (hmap : m'.vpnIpMap = m.vpnIpMap) (hheap : m'.heap = Function.update m.heap sid s)
    (hip : s.vpnIp = (m.heap sid).vpnIp) (haddr : s.clientAddr = (m.heap sid).clientAddr) :
    m'.addressBook = m.addressBook := by
  have hvpn : (fun other => (m'.heap other).vpnIp) = fun other => (m.heap other).vpnIp := by
    rw [hheap]
    refine (Function.comp_update Session.vpnIp m.heap sid s).trans ?_
    rw [hip]
    exact Function.update_eq_self sid _
  have hclient : (fun other => (m'.heap other).clientAddr) =
      fun other => (m.heap other).clientAddr := by
    rw [hheap]
    refine (Function.comp_update Session.clientAddr m.heap sid s).trans ?_
    rw [haddr]
    exact Function.update_eq_self sid _
  simp only [addressBook, hsessions, hnext, hmap, hvpn, hclient]

theorem takeSeq_addressBook (m : SessionManager) (sid : SessionId) :
    (m.takeSeq sid).2.addressBook = m.addressBook :=
  addressBook_of_update rfl rfl rfl rfl rfl rfl

theorem sealPacket_addressBook (P : Primitives) (env : Env) (m : SessionManager) (sid : SessionId)
    (mdh padded : Bytes) : (m.sealPacket P env sid mdh padded).2.addressBook = m.addressBook :=
  addressBook_of_update rfl rfl rfl rfl rfl rfl

theorem buildPacket_addressBook (P : Primitives) (rng : Randomness) (env : Env)
    (m : SessionManager) (sid : SessionId) (inner : Bytes) :
    (m.buildPacket P rng env sid inner).2.addressBook = m.addressBook :=
  sealPacket_addressBook P env _ sid _ _

theorem refreshSession_addressBook (P : Primitives) (tw : Nat) (m : SessionManager)
    (sid : SessionId) : (m.refreshSession P tw sid).addressBook = m.addressBook := by
  have hheap : (m.refreshSession P tw sid).heap = Function.update m.heap sid
      (((m.heap sid).updateTagWindow P tw).updateRatchetedTagWindow P tw) := rfl
  refine addressBook_of_update rfl rfl rfl hheap ?_ ?_
  · rw [Session.updateRatchetedTagWindow_addresses.1, Session.updateTagWindow_vpnIp]
  · rw [Session.updateRatchetedTagWindow_addresses.2, Session.updateTagWindow_clientAddr]

theorem refreshLoop_addressBook (P : Primitives) (tw : Nat) (tag : Tag) (sids : List SessionId)
    (m : SessionManager) : (refreshLoop P tw tag sids m).2.addressBook = m.addressBook := by
  induction sids generalizing m with
  | nil => rfl
  | cons sid rest ih =>
      unfold refreshLoop
      simp only
      split
      · exact refreshSession_addressBook P tw m sid
      · rw [ih, refreshSession_addressBook]

theorem findSession_addressBook (P : Primitives) (env : Env) (m : SessionManager) (tag : Tag)
    (ip : IpAddr) : (m.findSession P env tag ip).2.addressBook = m.addressBook := by
  have hrecover : ∀ m : SessionManager,
      (m.recoverSessionByTag P env.timeWindow tag ip).2.addressBook = m.addressBook := by
    intro m
    unfold recoverSessionByTag
    split
    · rfl
    · exact addressBook_of_update rfl rfl rfl rfl rfl rfl
  have hloop := refreshLoop_addressBook P env.timeWindow tag m.sessions m
  unfold findSession refreshAndFindByTag
  split
  · split
    · rfl
    · rfl
  · split
    · next m' hm' =>
        rw [hm'] at hloop
        exact hloop
    · next m' hm' =>
        rw [hm'] at hloop
        exact (hrecover m').trans hloop

theorem refreshSessionTags_addressBook (m : SessionManager) (sid : SessionId) :
    (m.refreshSessionTags sid).addressBook = m.addressBook := by
  unfold refreshSessionTags
  split_ifs
  · rfl
  · rfl

theorem completeSessionRatchet_addressBook (m : SessionManager) (sid : SessionId) :
    (m.completeSessionRatchet sid).addressBook = m.addressBook := by
  unfold completeSessionRatchet
  split_ifs
  · refine addressBook_of_update rfl rfl rfl rfl ?_ ?_
    · unfold Session.completeRatchet
      split <;> rfl
    · unfold Session.completeRatchet
      split <;> rfl
  · rfl

end SessionManager

namespace Gateway

/-- The address book of the gateway. -/
def addressBook (g : Gateway) : AddressBook := g.sessionManager.addressBook

section

variable {g : Gateway} {book : AddressBook}

theorem sessions_of_book (h : g.addressBook = book) : g.sessionManager.sessions = book.sessions :=
  congrArg AddressBook.sessions h

theorem nextId_of_book (h : g.addressBook = book) : g.sessionManager.nextId = book.nextId :=
  congrArg AddressBook.nextId h

theorem vpnIpMap_of_book (h : g.addressBook = book) : g.sessionManager.vpnIpMap = book.vpnIpMap :=
  congrArg AddressBook.vpnIpMap h

theorem vpnIp_of_book (h : g.addressBook = book) (sid : SessionId) :
    (g.session sid).vpnIp = book.vpnIp sid :=
  congrFun (congrArg AddressBook.vpnIp h) sid

end

section

variable (P : Primitives) (rng : Randomness) (cfg : GatewayConfig) (env : Env)

theorem keeps_addressBook_sendTo (sid : SessionId) (packet : Bytes) (addr : SocketAddr) :
    Keeps addressBook (sendTo env sid packet addr) := by
  unfold sendTo
  split_ifs
  · exact fun _ => rfl
  · exact keeps_throw _

theorem keeps_addressBook_sendServerHello (sid : SessionId) (addr : SocketAddr) :
    Keeps addressBook (sendServerHello P rng env sid addr) := by
  unfold sendServerHello
  refine Keeps.bind (keeps_gets _) fun s => ?_
  split
  · refine Keeps.bind (fun g => ?_) fun packet => keeps_addressBook_sendTo env sid packet addr
    exact g.sessionManager.buildPacket_addressBook P rng env sid _
  · exact keeps_throw _

theorem keeps_addressBook_sendControlMessage (payload : ControlPayload) (sid : SessionId) :
    Keeps addressBook (sendControlMessage P rng env payload sid) := by
  unfold sendControlMessage
  refine Keeps.bind (fun g => g.sessionManager.takeSeq_addressBook sid) fun seqNum => ?_
  refine Keeps.bind (fun g => g.sessionManager.buildPacket_addressBook P rng env sid _)
    fun packet => ?_
  exact Keeps.bind (keeps_gets _) fun s => keeps_addressBook_sendTo env sid packet _

theorem keeps_addressBook_recordTraffic (flush : Option (String × Nat)) :
    Keeps addressBook (recordTraffic flush) := by
  cases flush with
  | none => exact keeps_pure _
  | some flush =>
      unfold recordTraffic
      refine Keeps.bind (keeps_gets _) fun clientDb => ?_
      split_ifs
      · exact fun _ => rfl
      · exact keeps_pure _

theorem keeps_addressBook_welcome (client : Option ClientConfig) (sid : SessionId)
    (addr : SocketAddr) : Keeps addressBook (welcome P rng env client sid addr) := by
  unfold welcome
  refine Keeps.bind (fun _ => rfl) fun _ => ?_
  refine Keeps.bind ?_ fun _ => keeps_addressBook_sendServerHello P rng env sid addr
  cases client with
  | none => exact keeps_pure _
  | some client =>
      refine Keeps.bind (fun _ => rfl) fun _ => fun g => ?_
      exact SessionManager.addressBook_of_update rfl rfl rfl rfl rfl rfl

theorem keeps_addressBook_tunRead (packet : Bytes) :
    Keeps addressBook (tunRead P cfg env packet) := by
  unfold tunRead
  split
  · exact keeps_pure _
  split
  · split
    · exact fun _ => rfl
    · exact keeps_pure _
  · refine Keeps.bind (keeps_gets _) fun session => ?_
    split
    · exact keeps_pure _
    · next sid =>
        refine Keeps.bind (keeps_gets _) fun s => ?_
        refine Keeps.bind (fun g => g.sessionManager.takeSeq_addressBook sid) fun seqNum => ?_
        refine Keeps.bind (fun g => ?_) fun aivpnPacket => ?_
        · exact g.sessionManager.sealPacket_addressBook P env sid cfg.headerTemplate _
        · split
          · exact fun _ => rfl
          · exact keeps_pure _

theorem keeps_addressBook_rotateMask (sid : SessionId) (maskData : Bytes) :
    Keeps addressBook (rotateMask P rng env sid maskData) := by
  unfold rotateMask
  refine Keeps.bind (keeps_gets _) fun g₀ => ?_
  split
  · refine Keeps.bind (fun g => ?_) fun packet => ?_
    · unfold manager
      simp only [update_apply, addressBook, SessionManager.buildMaskUpdatePacket]
      rw [SessionManager.buildPacket_addressBook]
      exact g.sessionManager.takeSeq_addressBook sid
    · split
      · exact fun _ => rfl
      · exact keeps_pure _
  · exact keeps_pure _

/-- An inner packet leaves the address book alone or, when it is a Shutdown, removes its session. -/
theorem addressBook_processInnerPayload (plaintext : Bytes) (sid : SessionId) (addr : SocketAddr)
    (g : Gateway) :
    (processInnerPayload P rng cfg env plaintext sid addr g).2.addressBook = g.addressBook ∨
      carriesShutdown plaintext = true ∧
        (processInnerPayload P rng cfg env plaintext sid addr g).2.addressBook =
          (g.sessionManager.removeSession sid).addressBook := by
  rcases processInnerPayload_cases P rng env cfg plaintext sid addr g with
    heq | ⟨payload, heq⟩ | ⟨control, heq⟩ | heq | ⟨header, reason, hdec, htype, hreason, heq⟩
  · rw [heq]
    exact Or.inl rfl
  · rw [heq]
    exact Or.inl rfl
  · rw [heq]
    exact Or.inl (keeps_addressBook_sendControlMessage P rng env control sid g)
  · rw [heq]
    exact Or.inl (keeps_addressBook_sendServerHello P rng env sid addr g)
  · rw [heq]
    refine Or.inr ⟨?_, rfl⟩
    simp [carriesShutdown, hdec, htype, hreason]

end

end Gateway

end Aivpn
