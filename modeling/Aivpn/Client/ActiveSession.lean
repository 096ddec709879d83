import Aivpn.Lib.Runs
import Mathlib.Logic.Function.Basic

/-!
# Stopping the Android tunnel

`ACTIVE_SESSION` of `android_tunnel.rs`, with the calls of `run_tunnel_android` and of
`stop_active_tunnel` that share it. A tunnel registers its `SessionRuntime` in the slot, opens its
sockets and stores their descriptors in two atomics; a stop takes the session out of the slot, swaps
the atomics and shuts down what it has found there. The slot is behind a lock, the atomics are not,
so the steps of all calls interleave.

A stop that comes between the registration and the store of the descriptor finds nothing, and the
session is no longer there for the next one. `stop_not_lost_iff` says that this is the only way to
lose a stop, and that no guard unregisters the session of another tunnel.
-/

set_option autoImplicit false

namespace Aivpn

open Aivpn.Lib

namespace ActiveSession

/-- The two sockets of a tunnel. -/
inductive SocketKind where
  | udp
  | tcp
deriving DecidableEq, Repr

/-- `SessionRuntime`: the atomics `udp_fd` and `tcp_fd`, which are −1 while they hold nothing. -/
structure SessionRuntime where
  fd : SocketKind → Int

/-- `SessionRuntime::new`. -/
def SessionRuntime.new : SessionRuntime := ⟨fun _ => -1⟩

/-- The place a call of `run_tunnel_android` has reached: it is registered, its UDP socket is created,
`udp_fd` is stored, `tcp_fd` is stored; then the sockets are closed, and the guard is dropped. -/
inductive Place where
  | outside
  | activated
  | created
  | connected
  | tls
  | closed
  | finished
deriving DecidableEq, Repr

/-- A call of `run_tunnel_android` with its local variables. `stopped` is a history variable: a stop
has run since the session was activated. -/
structure Tunnel where
  useTls : Bool
  place : Place
  rawFd : SocketKind → Int
  session : SessionRuntime
  stopped : Bool

/-- The place a call of `stop_active_tunnel` has reached. -/
inductive Phase where
  | idle
  | taken
  | udpSwapped
  | swapped
  | udpShut
  | done
deriving DecidableEq, Repr

/-- A call of `stop_active_tunnel`: the session it has taken, and its local variables `udp_fd` and
`tcp_fd`. -/
structure StopCall where
  phase : Phase
  session : Option Nat
  fd : SocketKind → Int

/-- An open socket. -/
structure Socket where
  owner : Nat
  kind : SocketKind
  shut : Bool
deriving DecidableEq, Repr

/-- The slot with its lock, which only a stop holds for more than one step, the calls, and the
descriptor table of the process. -/
structure World where
  activeSession : Option Nat
  lock : Option Nat
  tunnels : Nat → Tunnel
  stops : Nat → StopCall
  sockets : Int → Option Socket

/-- Nothing has been called yet. -/
def World.start : World where
  activeSession := none
  lock := none
  tunnels _ := ⟨false, .outside, fun _ => -1, .new, false⟩
  stops _ := ⟨.idle, none, fun _ => -1⟩
  sockets _ := none

namespace Tunnel

/-- The session is activated and its guard is not dropped. -/
def Active (t : Tunnel) : Prop := t.place ≠ .outside ∧ t.place ≠ .finished

instance (t : Tunnel) : Decidable t.Active :=
  inferInstanceAs (Decidable (t.place ≠ .outside ∧ t.place ≠ .finished))

/-- The socket that carries the tunnel. -/
def transport (t : Tunnel) : SocketKind := if t.useTls then .tcp else .udp

/-- The descriptor of the transport socket is stored, and the socket is open. -/
def Stored (t : Tunnel) : Prop := t.place = if t.useTls then .tls else .connected

/-- The descriptor of a kind is not stored yet. -/
def Unpublished (t : Tunnel) : SocketKind → Prop
  | .udp => t.place = .activated ∨ t.place = .created
  | .tcp => t.place = .activated ∨ t.place = .created ∨ t.place = .connected

/-- The socket of a kind is open. -/
def Opened (t : Tunnel) : SocketKind → Prop
  | .udp => t.place = .created ∨ t.place = .connected ∨ t.place = .tls
  | .tcp => t.useTls = true ∧ 0 ≤ t.rawFd .tcp ∧
      (t.place = .activated ∨ t.place = .created ∨ t.place = .connected ∨ t.place = .tls)

/-- The descriptor of a kind in the atomic. -/
def setFd (t : Tunnel) (kind : SocketKind) (fd : Int) : Tunnel :=
  { t with session := ⟨Function.update t.session.fd kind fd⟩ }

/-- A tunnel that is about to store the descriptor of a kind, and `next` is its place after that. -/
structure AboutToStore (t : Tunnel) (kind : SocketKind) (next : Place) : Prop where
  active : t.Active
  isOpen : t.Opened kind
  unpublished : t.Unpublished kind
  active_next : next ≠ .outside ∧ next ≠ .finished
  tls_next : next = .tls → t.useTls = true ∧ 0 ≤ t.rawFd .tcp
  opened_next : ∀ other, ({ t with place := next } : Tunnel).Opened other → t.Opened other
  unpublished_next : ∀ other, ({ t with place := next } : Tunnel).Unpublished other →
    other ≠ kind ∧ t.Unpublished other
  stored_next : ({ t with place := next } : Tunnel).Stored ↔ t.transport = kind

theorem transport_eq_udp {t : Tunnel} : t.transport = .udp ↔ t.useTls = false := by
  unfold transport
  cases t.useTls <;> simp

theorem transport_eq_tcp {t : Tunnel} : t.transport = .tcp ↔ t.useTls = true := by
  unfold transport
  cases t.useTls <;> simp

theorem not_stored {t : Tunnel} (hudp : t.place ≠ .connected) (htcp : t.place ≠ .tls) :
    ¬ t.Stored := by
  unfold Stored
  split_ifs
  · exact htcp
  · exact hudp

end Tunnel

namespace Phase

/-- The atomic of a kind is still to be swapped. -/
def BeforeSwap : SocketKind → Phase → Prop
  | .udp, phase => phase = .taken
  | .tcp, phase => phase = .taken ∨ phase = .udpSwapped

/-- The atomic of a kind is swapped, and what was in it is still to be shut down. -/
def BeforeShutdown : SocketKind → Phase → Prop
  | .udp, phase => phase = .udpSwapped ∨ phase = .swapped
  | .tcp, phase => phase = .swapped ∨ phase = .udpShut

theorem beforeSwap_taken (kind : SocketKind) : taken.BeforeSwap kind := by
  cases kind with
  | udp => rfl
  | tcp => exact Or.inl rfl

theorem BeforeSwap.ne_idle {kind : SocketKind} {phase : Phase} (h : phase.BeforeSwap kind) :
    phase ≠ .idle := by
  rintro rfl
  cases kind <;> simp [BeforeSwap] at h

theorem BeforeShutdown.ne_idle {kind : SocketKind} {phase : Phase} (h : phase.BeforeShutdown kind) :
    phase ≠ .idle := by
  rintro rfl
  cases kind <;> simp [BeforeShutdown] at h

theorem BeforeSwap.not_beforeShutdown {kind : SocketKind} {phase : Phase}
    (h : phase.BeforeSwap kind) : ¬ phase.BeforeShutdown kind := by
  cases kind <;> cases phase <;> simp_all [BeforeSwap, BeforeShutdown]

/-- Two places that differ for one kind of socket only. -/
def SameBeside (kind : SocketKind) (phase next : Phase) : Prop :=
  ∀ other, other ≠ kind → (next.BeforeSwap other ↔ phase.BeforeSwap other) ∧
    (next.BeforeShutdown other ↔ phase.BeforeShutdown other)

theorem sameBeside_udp : SameBeside .udp taken udpSwapped ∧ SameBeside .udp swapped udpShut := by
  constructor <;> intro other hne <;> cases other <;> simp_all [BeforeSwap, BeforeShutdown]

theorem sameBeside_tcp : SameBeside .tcp udpSwapped swapped ∧ SameBeside .tcp udpShut done := by
  constructor <;> intro other hne <;> cases other <;> simp_all [BeforeSwap, BeforeShutdown]

/-- Once both atomics are swapped, none is left to swap. -/
theorem not_beforeSwap {phase : Phase} (h : phase = .swapped ∨ phase = .udpShut)
    (kind : SocketKind) : ¬ phase.BeforeSwap kind := by
  cases kind <;> rcases h with rfl | rfl <;> simp [BeforeSwap]

end Phase

namespace World

/-! ## The steps of a tunnel -/

/-- The call with its session registered by `activate_session`, or ended where another one is. The
TCP socket of a TLS tunnel is opened by the caller. -/
def activateSession (i : Nat) (useTls : Bool) (tcpFd : Int) (w : World) : World :=
  if (w.tunnels i).place = .outside ∧ w.lock = none ∧ w.sockets tcpFd = none then
    let t : Tunnel := ⟨useTls, .activated, fun kind => if kind = .tcp then tcpFd else -1, .new, false⟩
    match w.activeSession with
    | some _ => { w with tunnels := Function.update w.tunnels i { t with place := .finished } }
    | none => { w with
        activeSession := some i
        tunnels := Function.update w.tunnels i t
        sockets := if useTls = true ∧ 0 ≤ tcpFd then
            Function.update w.sockets tcpFd (some ⟨i, .tcp, false⟩)
          else w.sockets }
  else w

/-- `create_protected_udp_socket` up to the store: a new descriptor. -/
def createUdp (i : Nat) (fd : Int) (w : World) : World :=
  if (w.tunnels i).place = .activated ∧ 0 ≤ fd ∧ w.sockets fd = none then { w with
    tunnels := Function.update w.tunnels i { w.tunnels i with
      place := .created, rawFd := Function.update (w.tunnels i).rawFd .udp fd }
    sockets := Function.update w.sockets fd (some ⟨i, .udp, false⟩) }
  else w

/-- `session.udp_fd.store`. -/
def storeUdp (i : Nat) (w : World) : World :=
  if (w.tunnels i).place = .created then { w with
    tunnels := Function.update w.tunnels i
      { (w.tunnels i).setFd .udp ((w.tunnels i).rawFd .udp) with place := .connected } }
  else w

/-- `session.tcp_fd.store` of `run_tls_tunnel`. -/
def storeTcp (i : Nat) (w : World) : World :=
  if (w.tunnels i).place = .connected ∧ (w.tunnels i).useTls = true ∧ 0 ≤ (w.tunnels i).rawFd .tcp
  then { w with
    tunnels := Function.update w.tunnels i
      { (w.tunnels i).setFd .tcp ((w.tunnels i).rawFd .tcp) with place := .tls } }
  else w

/-- The end of the call, for whatever reason: the sockets are dropped before the guard. -/
def close (i : Nat) (w : World) : World :=
  if (w.tunnels i).Active ∧ (w.tunnels i).place ≠ .closed then { w with
    tunnels := Function.update w.tunnels i { w.tunnels i with place := .closed }
    sockets := fun fd => (w.sockets fd).filter fun socket => socket.owner ≠ i }
  else w

/-- The drop of `ActiveSessionGuard`. -/
def dropGuard (i : Nat) (w : World) : World :=
  if (w.tunnels i).place = .closed ∧ w.lock = none then { w with
    activeSession := if w.activeSession = some i then none else w.activeSession
    tunnels := Function.update w.tunnels i { w.tunnels i with place := .finished } }
  else w

/-! ## The steps of a stop -/

/-- The lock and `guard.take()`; without a session the lock is free again. -/
def take (j : Nat) (w : World) : World :=
  if w.lock = none then
    let tunnels := fun i =>
      if (w.tunnels i).Active then { w.tunnels i with stopped := true } else w.tunnels i
    match w.activeSession with
    | none => { w with
        tunnels := tunnels
        stops := Function.update w.stops j ⟨.swapped, none, fun _ => -1⟩ }
    | some i => { w with
        activeSession := none
        lock := some j
        tunnels := tunnels
        stops := Function.update w.stops j ⟨.taken, some i, fun _ => -1⟩ }
  else w

/-- `swap(-1)` on one atomic of the session that was taken. -/
def swap (j : Nat) (kind : SocketKind) (next : Phase) (w : World) : World :=
  match (w.stops j).session with
  | none => w
  | some i => { w with
      tunnels := Function.update w.tunnels i ((w.tunnels i).setFd kind (-1))
      stops := Function.update w.stops j { w.stops j with
        phase := next
        fd := Function.update (w.stops j).fd kind ((w.tunnels i).session.fd kind) } }

/-- `libc::shutdown` on a descriptor that was found. -/
def shutdown (j : Nat) (kind : SocketKind) (next : Phase) (w : World) : World :=
  { w with
    stops := Function.update w.stops j { w.stops j with phase := next }
    sockets := if 0 ≤ (w.stops j).fd kind then
        Function.update w.sockets ((w.stops j).fd kind)
          ((w.sockets ((w.stops j).fd kind)).map fun socket => { socket with shut := true })
      else w.sockets }

/-- The next step of a call of `stop_active_tunnel`. -/
def stopActiveTunnel (j : Nat) (w : World) : World :=
  match (w.stops j).phase with
  | .idle => take j w
  | .taken => swap j .udp .udpSwapped w
  | .udpSwapped => { swap j .tcp .swapped w with lock := none }
  | .swapped => shutdown j .udp .udpShut w
  | .udpShut => shutdown j .tcp .done w
  | .done => w

/-- What can happen: the next step of a tunnel or of a stop. -/
inductive Event where
  | activateSession (i : Nat) (useTls : Bool) (tcpFd : Int)
  | createUdp (i : Nat) (fd : Int)
  | storeUdp (i : Nat)
  | storeTcp (i : Nat)
  | close (i : Nat)
  | dropGuard (i : Nat)
  | stopActiveTunnel (j : Nat)
deriving DecidableEq, Repr

/-- One step. Steps that are not due are ignored. -/
def step (w : World) : Event → World
  | .activateSession i useTls tcpFd => w.activateSession i useTls tcpFd
  | .createUdp i fd => w.createUdp i fd
  | .storeUdp i => w.storeUdp i
  | .storeTcp i => w.storeTcp i
  | .close i => w.close i
  | .dropGuard i => w.dropGuard i
  | .stopActiveTunnel j => w.stopActiveTunnel j

/-! ## Lost stops -/

/-- The descriptor of the transport socket of a tunnel. -/
def transportFd (w : World) (i : Nat) : Int := (w.tunnels i).rawFd (w.tunnels i).transport

/-- The transport socket of a tunnel is shut down. -/
def ShutDown (w : World) (i : Nat) : Prop :=
  w.sockets (w.transportFd i) = some ⟨i, (w.tunnels i).transport, true⟩

/-- A stop has taken the session and has yet to swap the atomic of the transport socket. -/
def AboutToSwap (w : World) (i : Nat) : Prop :=
  ∃ j, (w.stops j).session = some i ∧ (w.stops j).phase.BeforeSwap (w.tunnels i).transport

/-- A stop has the descriptor of the transport socket and has yet to shut it down. -/
def AboutToShutDown (w : World) (i : Nat) : Prop :=
  ∃ j, (w.stops j).session = some i ∧ (w.stops j).phase.BeforeShutdown (w.tunnels i).transport ∧
    (w.stops j).fd (w.tunnels i).transport = w.transportFd i

/-- Where a stop has run since the session was activated, its transport socket is shut down once it
is stored, or a stop that is under way will find it. -/
def TakenAt (w : World) (i : Nat) : Prop :=
  (w.tunnels i).Stored → (w.tunnels i).stopped = true →
    w.ShutDown i ∨
    (w.AboutToSwap i ∧ (w.tunnels i).session.fd (w.tunnels i).transport = w.transportFd i) ∨
    w.AboutToShutDown i

/-- No session has lost a stop. -/
def StopsTaken (w : World) : Prop := ∀ i, w.TakenAt i

/-- No stop is lost by a step, and a guard leaves the session of another tunnel in the slot. -/
def StopNotLost (w : World) (e : Event) : Prop :=
  (w.step e).StopsTaken ∧
    ∀ i k, e = .dropGuard i → w.activeSession = some k → k ≠ i → (w.step e).activeSession = some k

/-- The event stores the descriptor of the transport socket. -/
def StoresTransport (w : World) (i : Nat) : Event → Prop
  | .storeUdp k => k = i ∧ (w.tunnels i).useTls = false ∧ (w.tunnels i).place = .created
  | .storeTcp k => k = i ∧ (w.tunnels i).useTls = true ∧ (w.tunnels i).place = .connected ∧
      0 ≤ (w.tunnels i).rawFd .tcp
  | _ => False

/-- A session that stores the descriptor of its transport socket is still registered, or the stop
that has taken it has yet to look; or the socket is shut down already. -/
def StoredInTime (w : World) (e : Event) : Prop :=
  ∀ i, w.StoresTransport i e → w.activeSession = some i ∨ w.AboutToSwap i ∨ w.ShutDown i

/-! ## The invariant -/

/-- What holds of one tunnel. It is registered while it is active and no stop has taken it; its open
sockets are its own; an atomic holds the descriptor from the store to the swap; and a stop that has
taken the session before the store has found nothing. -/
structure InvAt (w : World) (i : Nat) : Prop where
  registered : w.activeSession = some i ↔ (w.tunnels i).Active ∧ (w.tunnels i).stopped = false
  tls : (w.tunnels i).place = .tls → (w.tunnels i).useTls = true ∧ 0 ≤ (w.tunnels i).rawFd .tcp
  opened : ∀ kind, (w.tunnels i).Opened kind → 0 ≤ (w.tunnels i).rawFd kind ∧
    ∃ shut, w.sockets ((w.tunnels i).rawFd kind) = some ⟨i, kind, shut⟩
  published : (w.tunnels i).Stored → (w.tunnels i).stopped = false →
    (w.tunnels i).session.fd (w.tunnels i).transport = w.transportFd i
  unpublished : ∀ kind, (w.tunnels i).Unpublished kind → (w.tunnels i).session.fd kind = -1 ∧
    ∀ j, (w.stops j).session = some i → (w.stops j).fd kind = -1
  target : ∀ j, (w.stops j).session = some i →
    (w.tunnels i).place ≠ .outside ∧ (w.tunnels i).stopped = true

/-- The invariant of all tunnels. -/
def Inv (w : World) : Prop := ∀ i, w.InvAt i

/-- A step leaves a tunnel alone: its variables, its registration, its sockets up to a shutdown, and
the stops that have taken it. -/
structure Frame (w w' : World) (i : Nat) : Prop where
  tunnel : w'.tunnels i = w.tunnels i
  registered : w'.activeSession = some i ↔ w.activeSession = some i
  sockets : ∀ fd kind shut, w.sockets fd = some ⟨i, kind, shut⟩ →
    ∃ shut', w'.sockets fd = some ⟨i, kind, shut'⟩ ∧ (shut = true → shut' = true)
  stops : ∀ j, (w'.stops j).session = some i ∨ (w.stops j).session = some i →
    w'.stops j = w.stops j

variable {w w' : World} {i : Nat}

theorem inv_start : start.Inv := by
  intro i
  refine ⟨iff_of_false ?_ ?_, ?_, ?_, ?_, ?_, ?_⟩
  · simp [start]
  · simp [start, Tunnel.Active]
  · simp [start]
  · intro kind h
    cases kind <;> simp [start, Tunnel.Opened] at h
  · intro h
    simp [start, Tunnel.Stored] at h
  · intro kind h
    cases kind <;> simp [start, Tunnel.Unpublished] at h
  · intro j h
    simp [start] at h

theorem stopsTaken_start : start.StopsTaken := by
  intro i h
  simp [start, Tunnel.Stored] at h

/-- The transport socket of a tunnel that has stored its descriptor is open. -/
theorem InvAt.opened_of_stored (h : w.InvAt i) (hstored : (w.tunnels i).Stored) :
    (w.tunnels i).Opened (w.tunnels i).transport := by
  unfold Tunnel.Stored at hstored
  unfold Tunnel.transport
  cases htls : (w.tunnels i).useTls with
  | false =>
      rw [htls] at hstored
      exact Or.inr (Or.inl hstored)
  | true =>
      rw [htls] at hstored
      exact ⟨htls, (h.tls hstored).2, Or.inr (Or.inr (Or.inr hstored))⟩

theorem InvAt.frame (h : w.InvAt i) (hframe : Frame w w' i) : w'.InvAt i := by
  obtain ⟨htunnel, hregistered, hsockets, hstops⟩ := hframe
  refine ⟨?_, ?_, ?_, ?_, ?_, ?_⟩
  · rw [hregistered, htunnel]
    exact h.registered
  · rw [htunnel]
    exact h.tls
  · intro kind hopened
    rw [htunnel] at hopened ⊢
    obtain ⟨hfd, shut, hsocket⟩ := h.opened kind hopened
    obtain ⟨shut', hsocket', -⟩ := hsockets _ _ _ hsocket
    exact ⟨hfd, shut', hsocket'⟩
  · unfold transportFd
    rw [htunnel]
    exact h.published
  · intro kind hunpublished
    rw [htunnel] at hunpublished ⊢
    obtain ⟨hfd, hfound⟩ := h.unpublished kind hunpublished
    refine ⟨hfd, fun j hj => ?_⟩
    have heq := hstops j (Or.inl hj)
    rw [heq] at hj ⊢
    exact hfound j hj
  · intro j hj
    have heq := hstops j (Or.inl hj)
    rw [heq] at hj
    rw [htunnel]
    exact h.target j hj

theorem TakenAt.frame (h : w.TakenAt i) (hframe : Frame w w' i) : w'.TakenAt i := by
  obtain ⟨htunnel, -, hsockets, hstops⟩ := hframe
  have hfd : w'.transportFd i = w.transportFd i := by
    unfold transportFd
    rw [htunnel]
  intro hstored hstopped
  rw [htunnel] at hstored hstopped
  unfold ShutDown AboutToSwap AboutToShutDown
  rw [htunnel, hfd]
  rcases h hstored hstopped with hshut | ⟨⟨j, hj, hphase⟩, hatomic⟩ | ⟨j, hj, hphase, hfound⟩
  · obtain ⟨shut', hsocket', hmono⟩ := hsockets _ _ _ hshut
    rw [hmono rfl] at hsocket'
    exact Or.inl hsocket'
  · refine Or.inr (Or.inl ⟨⟨j, ?_⟩, hatomic⟩)
    rw [hstops j (Or.inr hj)]
    exact ⟨hj, hphase⟩
  · refine Or.inr (Or.inr ⟨j, ?_⟩)
    rw [hstops j (Or.inr hj)]
    exact ⟨hj, hphase, hfound⟩

/-- A tunnel that has no open transport socket has none to shut down. -/
theorem takenAt_of_not_stored (h : ¬ (w.tunnels i).Stored) : w.TakenAt i :=
  fun hstored => absurd hstored h

/-- A tunnel whose sockets are closed has no descriptor to answer for. Its registration is left, and
the stops that have taken it. -/
theorem invAt_of_closed
    (hplace : (w.tunnels i).place = .closed ∨ (w.tunnels i).place = .finished)
    (hregistered : w.activeSession = some i ↔ (w.tunnels i).Active ∧ (w.tunnels i).stopped = false)
    (htarget : ∀ j, (w.stops j).session = some i → (w.tunnels i).stopped = true) :
    w.InvAt i ∧ w.TakenAt i := by
  have hudp : (w.tunnels i).place ≠ .connected := by
    rcases hplace with hplace | hplace <;> simp [hplace]
  have htcp : (w.tunnels i).place ≠ .tls := by
    rcases hplace with hplace | hplace <;> simp [hplace]
  refine ⟨⟨hregistered, fun h => absurd h htcp, ?_, ?_, ?_, ?_⟩, ?_⟩
  · intro kind hopened
    cases kind <;> rcases hplace with hplace | hplace <;> simp [Tunnel.Opened, hplace] at hopened
  · intro hstored
    exact absurd hstored (Tunnel.not_stored hudp htcp)
  · intro kind hunpublished
    cases kind <;> rcases hplace with hplace | hplace <;>
      simp [Tunnel.Unpublished, hplace] at hunpublished
  · intro j hj
    refine ⟨?_, htarget j hj⟩
    rcases hplace with hplace | hplace <;> simp [hplace]
  · exact takenAt_of_not_stored (Tunnel.not_stored hudp htcp)

/-! ## The steps of a tunnel -/

variable {k : Nat}

/-- A step of one tunnel leaves the others alone where their registration and their sockets stay. -/
theorem frame_of_other {t : Tunnel} {slot : Option Nat} {sockets : Int → Option Socket}
    (hslot : ∀ k, k ≠ i → (slot = some k ↔ w.activeSession = some k))
    (hsockets : ∀ k, k ≠ i → ∀ fd kind shut, w.sockets fd = some ⟨k, kind, shut⟩ →
      sockets fd = some ⟨k, kind, shut⟩) :
    ∀ k, k ≠ i →
      Frame w ⟨slot, w.lock, Function.update w.tunnels i t, w.stops, sockets⟩ k := by
  intro k hki
  refine ⟨Function.update_of_ne hki _ _, hslot k hki, fun fd kind shut hsocket => ?_, fun _ _ => rfl⟩
  exact ⟨shut, hsockets k hki fd kind shut hsocket, id⟩

/-- It is enough to look at the tunnel that takes the step. -/
theorem keeps_of_frame (h : w.Inv) (hsafe : w.StopsTaken) (hframe : ∀ k, k ≠ i → Frame w w' k)
    (hat : w'.InvAt i ∧ w'.TakenAt i) : w'.Inv ∧ w'.StopsTaken := by
  constructor
  · intro k
    by_cases hki : k = i
    · exact hki ▸ hat.1
    · exact (h k).frame (hframe k hki)
  · intro k
    by_cases hki : k = i
    · exact hki ▸ hat.2
    · exact (hsafe k).frame (hframe k hki)

/-- A new socket leaves those of the others alone. -/
theorem sockets_update {fd : Int} (hfree : w.sockets fd = none) (socket : Socket) {fd' : Int}
    {socket' : Socket} (h : w.sockets fd' = some socket') :
    Function.update w.sockets fd (some socket) fd' = some socket' := by
  rw [Function.update_of_ne, h]
  rintro rfl
  cases hfree.symm.trans h

theorem keeps_activateSession (h : w.Inv) (hsafe : w.StopsTaken) (i : Nat) (useTls : Bool)
    (tcpFd : Int) :
    (w.activateSession i useTls tcpFd).Inv ∧ (w.activateSession i useTls tcpFd).StopsTaken := by
  unfold World.activateSession
  by_cases hdue : (w.tunnels i).place = .outside ∧ w.lock = none ∧ w.sockets tcpFd = none
  · rw [if_pos hdue]
    obtain ⟨hplace, -, hfree⟩ := hdue
    have hnew : ∀ j, (w.stops j).session ≠ some i := fun j hj => ((h i).target j hj).1 hplace
    cases hactive : w.activeSession with
    | some r =>
        -- another session is registered: the call ends without a socket
        dsimp only
        have hri : r ≠ i := by
          rintro rfl
          exact ((h r).registered.1 hactive).1.1 hplace
        refine keeps_of_frame h hsafe (frame_of_other (fun k _ => by rw [hactive])
          fun _ _ _ _ _ hs => hs) (invAt_of_closed ?_ ?_ ?_)
        · simp
        · simp [Tunnel.Active, hri]
        · intro j hj
          exact absurd hj (hnew j)
    | none =>
        dsimp only
        have hnone : ∀ t : Tunnel, t.place = .activated → ¬ t.Stored := by
          intro t ht
          apply Tunnel.not_stored <;> simp [ht]
        refine keeps_of_frame h hsafe (frame_of_other ?_ ?_) ⟨⟨?_, ?_, ?_, ?_, ?_, ?_⟩, ?_⟩
        · intro k hki
          simp [hactive, hki.symm]
        · intro k _ fd kind shut hs
          split_ifs
          · exact sockets_update hfree _ hs
          · exact hs
        · simp [Tunnel.Active]
        · simp
        · intro kind
          cases kind with
          | udp => simp [Tunnel.Opened]
          -- the caller has opened the TCP socket already
          | tcp =>
              intro hopened
              simp only [Function.update_self] at hopened ⊢
              have htls : useTls = true := hopened.1
              have hfd : 0 ≤ tcpFd := hopened.2.1
              refine ⟨hfd, false, ?_⟩
              simp [htls, hfd]
        · intro hstored
          exact absurd hstored (hnone _ (by simp))
        · intro kind _
          simp only [Function.update_self]
          exact ⟨rfl, fun j hj => absurd hj (hnew j)⟩
        · intro j hj
          exact absurd hj (hnew j)
        · exact takenAt_of_not_stored (hnone _ (by simp))
  · rw [if_neg hdue]
    exact ⟨h, hsafe⟩

theorem keeps_createUdp (h : w.Inv) (hsafe : w.StopsTaken) (i : Nat) (fd : Int) :
    (w.createUdp i fd).Inv ∧ (w.createUdp i fd).StopsTaken := by
  unfold World.createUdp
  by_cases hdue : (w.tunnels i).place = .activated ∧ 0 ≤ fd ∧ w.sockets fd = none
  · rw [if_pos hdue]
    obtain ⟨hplace, hfd, hfree⟩ := hdue
    have hnone : ∀ t : Tunnel, t.place = .created → ¬ t.Stored := by
      intro t ht
      apply Tunnel.not_stored <;> simp [ht]
    refine keeps_of_frame h hsafe (frame_of_other (fun _ _ => Iff.rfl)
      fun _ _ _ _ _ hs => sockets_update hfree _ hs) ⟨⟨?_, ?_, ?_, ?_, ?_, ?_⟩, ?_⟩
    · have hregistered := (h i).registered
      simp only [Function.update_self, Tunnel.Active, hplace] at hregistered ⊢
      simpa using hregistered
    · simp
    · intro kind hopened
      simp only [Function.update_self] at hopened ⊢
      cases kind with
      | udp =>
          rw [Function.update_self]
          exact ⟨hfd, false, Function.update_self _ _ _⟩
      | tcp =>
          obtain ⟨htls, htcp, -⟩ := hopened
          -- the TCP socket is none of the step's
          have htcp : 0 ≤ Function.update (w.tunnels i).rawFd .udp fd .tcp := htcp
          have hnot : SocketKind.tcp ≠ .udp := by decide
          rw [Function.update_of_ne hnot] at htcp ⊢
          obtain ⟨-, shut, hs⟩ := (h i).opened .tcp ⟨htls, htcp, Or.inl hplace⟩
          exact ⟨htcp, shut, sockets_update hfree _ hs⟩
    · intro hstored
      exact absurd hstored (hnone _ (by simp))
    · intro kind _
      have hbefore : (w.tunnels i).Unpublished kind := by
        cases kind <;> exact Or.inl hplace
      simp only [Function.update_self]
      exact (h i).unpublished kind hbefore
    · intro j hj
      simp only [Function.update_self]
      exact ⟨by simp, ((h i).target j hj).2⟩
    · exact takenAt_of_not_stored (hnone _ (by simp))
  · rw [if_neg hdue]
    exact ⟨h, hsafe⟩

/-- The store of a descriptor, whichever it is. -/
def storeFd (i : Nat) (kind : SocketKind) (next : Place) (w : World) : World := { w with
  tunnels := Function.update w.tunnels i
    { (w.tunnels i).setFd kind ((w.tunnels i).rawFd kind) with place := next } }

theorem storeFd_tunnel (i : Nat) (kind : SocketKind) (next : Place) :
    (w.storeFd i kind next).tunnels i =
      { (w.tunnels i).setFd kind ((w.tunnels i).rawFd kind) with place := next } :=
  Function.update_self _ _ _

theorem storeFd_transportFd (i : Nat) (kind : SocketKind) (next : Place) :
    (w.storeFd i kind next).transportFd i = w.transportFd i := by
  unfold transportFd
  rw [storeFd_tunnel]
  rfl

/-- The atomic of the transport socket holds its descriptor then. -/
theorem setFd_transport {kind : SocketKind} (hkind : (w.tunnels i).transport = kind) :
    ((w.tunnels i).setFd kind ((w.tunnels i).rawFd kind)).session.fd (w.tunnels i).transport =
      w.transportFd i := by
  unfold transportFd
  rw [hkind]
  exact Function.update_self _ _ _

theorem InvAt.storeFd (h : w.InvAt i) {kind : SocketKind} {next : Place}
    (hstore : (w.tunnels i).AboutToStore kind next) : (w.storeFd i kind next).InvAt i := by
  have ht := storeFd_tunnel (w := w) i kind next
  refine ⟨?_, ?_, ?_, ?_, ?_, ?_⟩
  · refine h.registered.trans ?_
    rw [ht]
    exact and_congr_left fun _ => iff_of_true hstore.active hstore.active_next
  · rw [ht]
    exact hstore.tls_next
  · rw [ht]
    exact fun other hopened => h.opened other (hstore.opened_next other hopened)
  · rw [storeFd_transportFd, ht]
    exact fun hstored _ => setFd_transport (hstore.stored_next.1 hstored)
  · rw [ht]
    intro other hother
    obtain ⟨hne, hbefore⟩ := hstore.unpublished_next other hother
    obtain ⟨hsession, hfound⟩ := h.unpublished other hbefore
    exact ⟨(Function.update_of_ne hne _ _).trans hsession, hfound⟩
  · rw [ht]
    exact fun j hj => ⟨hstore.active_next.1, (h.target j hj).2⟩

/-- A stop that has run before the store of the transport descriptor finds it exactly if it has yet to
look, or the socket is shut down. -/
theorem takenAt_storeFd_iff (h : w.InvAt i) {kind : SocketKind} {next : Place}
    (hstore : (w.tunnels i).AboutToStore kind next) :
    (w.storeFd i kind next).TakenAt i ↔ ((w.tunnels i).transport = kind →
      w.activeSession = some i ∨ w.AboutToSwap i ∨ w.ShutDown i) := by
  have ht := storeFd_tunnel (w := w) i kind next
  unfold TakenAt ShutDown AboutToSwap AboutToShutDown
  rw [storeFd_transportFd, ht]
  constructor
  · intro htaken hkind
    by_cases hstopped : (w.tunnels i).stopped = true
    · rcases htaken (hstore.stored_next.2 hkind) hstopped with
        hshut | ⟨hswap, -⟩ | ⟨j, hj, -, hfound⟩
      · exact Or.inr (Or.inr hshut)
      · exact Or.inr (Or.inl hswap)
      · -- what a stop has found before the store is no descriptor
        have hnothing := (h.unpublished kind hstore.unpublished).2 j hj
        have hpos := (h.opened kind hstore.isOpen).1
        have hfound' : (w.stops j).fd (w.tunnels i).transport =
          (w.tunnels i).rawFd (w.tunnels i).transport := hfound
        rw [hkind, hnothing] at hfound'
        omega
    · exact Or.inl (h.registered.2 ⟨hstore.active, Bool.eq_false_iff.2 hstopped⟩)
  · intro hintime hstored hstopped
    have hkind : (w.tunnels i).transport = kind := hstore.stored_next.1 hstored
    rcases hintime hkind with hregistered | hswap | hshut
    · cases (h.registered.1 hregistered).2.symm.trans hstopped
    · exact Or.inr (Or.inl ⟨hswap, setFd_transport hkind⟩)
    · exact Or.inl hshut

/-- Where the descriptor is that of the transport socket, no stop is lost exactly if the session is
still registered, the stop that has taken it has yet to look, or the socket is shut down. -/
theorem keeps_storeFd (h : w.Inv) (hsafe : w.StopsTaken) {kind : SocketKind} {next : Place}
    (hstore : (w.tunnels i).AboutToStore kind next) :
    (w.storeFd i kind next).Inv ∧
      ((w.storeFd i kind next).StopsTaken ↔ ((w.tunnels i).transport = kind →
        w.activeSession = some i ∨ w.AboutToSwap i ∨ w.ShutDown i)) := by
  have hframe : ∀ k, k ≠ i → Frame w (w.storeFd i kind next) k :=
    frame_of_other (fun _ _ => Iff.rfl) fun _ _ _ _ _ hs => hs
  have hinv := (h i).storeFd hstore
  refine ⟨fun k => ?_, ?_, ?_⟩
  · by_cases hki : k = i
    · exact hki ▸ hinv
    · exact (h k).frame (hframe k hki)
  · intro hsafe'
    exact (takenAt_storeFd_iff (h i) hstore).1 (hsafe' i)
  · intro hintime
    have htaken := (takenAt_storeFd_iff (h i) hstore).2 hintime
    exact (keeps_of_frame h hsafe hframe ⟨hinv, htaken⟩).2

theorem keeps_storeUdp (h : w.Inv) (hsafe : w.StopsTaken) (i : Nat) :
    (w.storeUdp i).Inv ∧ ((w.storeUdp i).StopsTaken ↔ w.StoredInTime (.storeUdp i)) := by
  unfold World.storeUdp
  by_cases hdue : (w.tunnels i).place = .created
  · rw [if_pos hdue]
    -- after the store only the TCP descriptor may still be unpublished
    have hopened : ∀ kind, ({ w.tunnels i with place := .connected } : Tunnel).Opened kind →
        (w.tunnels i).Opened kind := by
      intro kind
      cases kind <;> simp [Tunnel.Opened, hdue]
    have hlater : ∀ kind, ({ w.tunnels i with place := .connected } : Tunnel).Unpublished kind →
        kind ≠ .udp ∧ (w.tunnels i).Unpublished kind := by
      intro kind
      cases kind <;> simp [Tunnel.Unpublished, hdue]
    have hstored : ({ w.tunnels i with place := .connected } : Tunnel).Stored ↔
        (w.tunnels i).transport = .udp := by
      rw [Tunnel.transport_eq_udp]
      unfold Tunnel.Stored
      cases (w.tunnels i).useTls <;> simp
    have hstore : (w.tunnels i).AboutToStore .udp .connected := {
      active := by simp [Tunnel.Active, hdue]
      isOpen := Or.inl hdue
      unpublished := Or.inr hdue
      active_next := by simp
      tls_next := by simp
      opened_next := hopened
      unpublished_next := hlater
      stored_next := hstored }
    obtain ⟨hinv, hiff⟩ := keeps_storeFd h hsafe hstore
    refine ⟨hinv, hiff.trans ⟨?_, ?_⟩⟩
    · rintro htime k ⟨rfl, htls, -⟩
      exact htime (Tunnel.transport_eq_udp.2 htls)
    · intro htime hkind
      exact htime i ⟨rfl, Tunnel.transport_eq_udp.1 hkind, hdue⟩
  · rw [if_neg hdue]
    refine ⟨h, iff_of_true hsafe ?_⟩
    rintro k ⟨rfl, -, hplace⟩
    exact absurd hplace hdue

theorem keeps_storeTcp (h : w.Inv) (hsafe : w.StopsTaken) (i : Nat) :
    (w.storeTcp i).Inv ∧ ((w.storeTcp i).StopsTaken ↔ w.StoredInTime (.storeTcp i)) := by
  unfold World.storeTcp
  by_cases hdue : (w.tunnels i).place = .connected ∧ (w.tunnels i).useTls = true ∧
      0 ≤ (w.tunnels i).rawFd .tcp
  · rw [if_pos hdue]
    obtain ⟨hplace, htls, hfd⟩ := hdue
    have hopened : ∀ kind, ({ w.tunnels i with place := .tls } : Tunnel).Opened kind →
        (w.tunnels i).Opened kind := by
      intro kind
      cases kind <;> simp [Tunnel.Opened, hplace]
    have hlater : ∀ kind, ({ w.tunnels i with place := .tls } : Tunnel).Unpublished kind →
        kind ≠ .tcp ∧ (w.tunnels i).Unpublished kind := by
      intro kind
      cases kind <;> simp [Tunnel.Unpublished]
    have hstored : ({ w.tunnels i with place := .tls } : Tunnel).Stored ↔
        (w.tunnels i).transport = .tcp := by
      rw [Tunnel.transport_eq_tcp]
      unfold Tunnel.Stored
      cases (w.tunnels i).useTls <;> simp
    have hstore : (w.tunnels i).AboutToStore .tcp .tls := {
      active := by simp [Tunnel.Active, hplace]
      isOpen := ⟨htls, hfd, Or.inr (Or.inr (Or.inl hplace))⟩
      unpublished := Or.inr (Or.inr hplace)
      active_next := by simp
      tls_next := fun _ => ⟨htls, hfd⟩
      opened_next := hopened
      unpublished_next := hlater
      stored_next := hstored }
    obtain ⟨hinv, hiff⟩ := keeps_storeFd h hsafe hstore
    refine ⟨hinv, hiff.trans ⟨?_, ?_⟩⟩
    · rintro htime k ⟨rfl, -⟩
      exact htime (Tunnel.transport_eq_tcp.2 htls)
    · intro htime hkind
      exact htime i ⟨rfl, htls, hplace, hfd⟩
  · rw [if_neg hdue]
    refine ⟨h, iff_of_true hsafe ?_⟩
    rintro k ⟨rfl, htls, hplace, hfd⟩
    exact absurd ⟨hplace, htls, hfd⟩ hdue

theorem keeps_close (h : w.Inv) (hsafe : w.StopsTaken) (i : Nat) :
    (w.close i).Inv ∧ (w.close i).StopsTaken := by
  unfold World.close
  by_cases hdue : (w.tunnels i).Active ∧ (w.tunnels i).place ≠ .closed
  · rw [if_pos hdue]
    refine keeps_of_frame h hsafe (frame_of_other (fun _ _ => Iff.rfl) ?_)
      (invAt_of_closed ?_ ?_ ?_)
    · intro k hki fd kind shut hs
      rw [hs]
      simp [Option.filter, hki]
    · simp
    · simp only [Function.update_self]
      rw [(h i).registered]
      exact and_congr_left fun _ => iff_of_true hdue.1 (by simp [Tunnel.Active])
    · intro j hj
      simp only [Function.update_self]
      exact ((h i).target j hj).2
  · rw [if_neg hdue]
    exact ⟨h, hsafe⟩

/-- A guard clears the slot only where it finds its own session. -/
theorem keeps_dropGuard (h : w.Inv) (hsafe : w.StopsTaken) (i : Nat) :
    (w.dropGuard i).Inv ∧ (w.dropGuard i).StopsTaken ∧
      ∀ k, w.activeSession = some k → k ≠ i → (w.dropGuard i).activeSession = some k := by
  unfold World.dropGuard
  by_cases hdue : (w.tunnels i).place = .closed ∧ w.lock = none
  · rw [if_pos hdue]
    have hslot : ∀ k, k ≠ i →
        ((if w.activeSession = some i then none else w.activeSession) = some k ↔
          w.activeSession = some k) := by
      intro k hki
      split_ifs with hown
      · simp [hown, hki.symm]
      · exact Iff.rfl
    rw [← and_assoc]
    refine ⟨keeps_of_frame h hsafe (frame_of_other hslot fun _ _ _ _ _ hs => hs)
      (invAt_of_closed ?_ ?_ ?_), fun k hk hki => (hslot k hki).2 hk⟩
    · simp
    · -- the slot holds another session or none
      refine iff_of_false ?_ ?_
      · simp only
        split_ifs with hown
        · simp
        · exact hown
      · simp [Tunnel.Active]
    · intro j hj
      simp only [Function.update_self]
      exact ((h i).target j hj).2
  · rw [if_neg hdue]
    exact ⟨h, hsafe, fun k hk _ => hk⟩

/-! ## The steps of a stop -/

/-- A stop that runs: every active session has been stopped, and the one in the slot, if there is one,
is the session of the call. -/
theorem keeps_stopped (h : w.Inv) (hsafe : w.StopsTaken) {j : Nat} {phase : Phase}
    (hidle : (w.stops j).phase = .idle) (hphase : w.activeSession ≠ none → phase = .taken)
    (hslot : w'.activeSession = none) (hsockets : w'.sockets = w.sockets)
    (htunnels : w'.tunnels = fun i =>
      if (w.tunnels i).Active then { w.tunnels i with stopped := true } else w.tunnels i)
    (hstops : w'.stops = Function.update w.stops j ⟨phase, w.activeSession, fun _ => -1⟩) :
    w'.Inv ∧ w'.StopsTaken := by
  have hown : w'.stops j = ⟨phase, w.activeSession, fun _ => -1⟩ := by
    rw [hstops]
    exact Function.update_self _ _ _
  have hother : ∀ j', j' ≠ j → w'.stops j' = w.stops j' := by
    intro j' hne
    rw [hstops]
    exact Function.update_of_ne hne _ _
  -- only `stopped` changes, and only where the session is active
  have htunnel : ∀ i, ∃ stopped, w'.tunnels i = { w.tunnels i with stopped := stopped } ∧
      (stopped = true ↔ (w.tunnels i).Active ∨ (w.tunnels i).stopped = true) := by
    intro i
    rw [htunnels]
    by_cases hactive : (w.tunnels i).Active
    · exact ⟨true, if_pos hactive, iff_of_true rfl (Or.inl hactive)⟩
    · exact ⟨(w.tunnels i).stopped, if_neg hactive, by simp [hactive]⟩
  constructor
  · intro i
    obtain ⟨stopped, ht, hiff⟩ := htunnel i
    refine ⟨?_, ?_, ?_, ?_, ?_, ?_⟩
    · rw [hslot, ht]
      refine iff_of_false (by simp) ?_
      rintro ⟨hactive, hstopped⟩
      cases hstopped.symm.trans (hiff.2 (Or.inl hactive))
    · rw [ht]
      exact (h i).tls
    · rw [ht, hsockets]
      exact (h i).opened
    · unfold transportFd
      rw [ht]
      intro hstored hstopped
      refine (h i).published hstored ?_
      by_contra hbefore
      rw [Bool.not_eq_false] at hbefore
      cases hstopped.symm.trans (hiff.2 (Or.inr hbefore))
    · rw [ht]
      intro kind hunpublished
      obtain ⟨hfd, hfound⟩ := (h i).unpublished kind hunpublished
      refine ⟨hfd, fun j' hj' => ?_⟩
      by_cases hne : j' = j
      · rw [hne, hown]
      · rw [hother j' hne] at hj' ⊢
        exact hfound j' hj'
    · intro j' hj'
      rw [ht]
      by_cases hne : j' = j
      · rw [hne, hown] at hj'
        obtain ⟨hactive, -⟩ := (h i).registered.1 hj'
        exact ⟨hactive.1, hiff.2 (Or.inl hactive)⟩
      · rw [hother j' hne] at hj'
        obtain ⟨hplace, hstopped⟩ := (h i).target j' hj'
        exact ⟨hplace, hiff.2 (Or.inr hstopped)⟩
  · intro i
    obtain ⟨stopped, ht, hiff⟩ := htunnel i
    have hbusy : ∀ j', (w.stops j').phase ≠ .idle → w'.stops j' = w.stops j' := by
      intro j' hne
      apply hother
      rintro rfl
      exact hne hidle
    unfold TakenAt ShutDown AboutToSwap AboutToShutDown transportFd
    rw [hsockets, ht]
    intro hstored hstopped
    by_cases hbefore : (w.tunnels i).stopped = true
    · rcases hsafe i hstored hbefore with hshut | ⟨⟨j', hj', hswap⟩, hatomic⟩ | ⟨j', hj', hshut⟩
      · exact Or.inl hshut
      · refine Or.inr (Or.inl ⟨⟨j', ?_⟩, hatomic⟩)
        rw [hbusy j' hswap.ne_idle]
        exact ⟨hj', hswap⟩
      · refine Or.inr (Or.inr ⟨j', ?_⟩)
        rw [hbusy j' hshut.1.ne_idle]
        exact ⟨hj', hshut⟩
    · -- the session was registered, so the call has taken it
      have hactive := (hiff.1 hstopped).resolve_right hbefore
      have hstill := Bool.eq_false_iff.2 hbefore
      have hregistered := (h i).registered.2 ⟨hactive, hstill⟩
      refine Or.inr (Or.inl ⟨⟨j, ?_⟩, (h i).published hstored hstill⟩)
      rw [hown, hphase (by simp [hregistered])]
      exact ⟨hregistered, Phase.beforeSwap_taken _⟩

theorem keeps_take (h : w.Inv) (hsafe : w.StopsTaken) {j : Nat} (hidle : (w.stops j).phase = .idle) :
    (w.take j).Inv ∧ (w.take j).StopsTaken := by
  unfold World.take
  by_cases hlock : w.lock = none
  · rw [if_pos hlock]
    dsimp only
    cases hactive : w.activeSession with
    | none => exact keeps_stopped h hsafe hidle (absurd hactive) rfl rfl rfl (by rw [hactive])
    | some r => exact keeps_stopped h hsafe hidle (fun _ => rfl) rfl rfl rfl (by rw [hactive])
  · rw [if_neg hlock]
    exact ⟨h, hsafe⟩

/-- The lock is no part of the invariant. -/
theorem keeps_lock (h : w.Inv ∧ w.StopsTaken) (lock : Option Nat) :
    ({ w with lock := lock } : World).Inv ∧ ({ w with lock := lock } : World).StopsTaken := by
  have hframe : ∀ i, Frame w { w with lock := lock } i := fun i =>
    ⟨rfl, Iff.rfl, fun _ _ shut hs => ⟨shut, hs, id⟩, fun _ _ => rfl⟩
  exact ⟨fun i => (h.1 i).frame (hframe i), fun i => (h.2 i).frame (hframe i)⟩

/-! A swap changes the atomic of one session and the call that takes what was in it. -/

theorem swap_frame {j : Nat} {kind : SocketKind} {next : Phase}
    (hsession : (w.stops j).session = some i) :
    ∀ k, k ≠ i → Frame w (w.swap j kind next) k := by
  intro k hki
  unfold World.swap
  rw [hsession]
  refine ⟨Function.update_of_ne hki _ _, Iff.rfl, fun _ _ shut hs => ⟨shut, hs, id⟩, ?_⟩
  intro j' hj'
  apply Function.update_of_ne
  rintro rfl
  simp only [Function.update_self, hsession, Option.some.injEq, or_self] at hj'
  exact hki hj'.symm

theorem swap_tunnel {j : Nat} (hsession : (w.stops j).session = some i) (kind : SocketKind)
    (next : Phase) :
    (w.swap j kind next).tunnels i = (w.tunnels i).setFd kind (-1) := by
  unfold World.swap
  rw [hsession]
  exact Function.update_self _ _ _

theorem swap_stop {j : Nat} (hsession : (w.stops j).session = some i) (kind : SocketKind)
    (next : Phase) :
    (w.swap j kind next).stops j = { w.stops j with
      phase := next
      fd := Function.update (w.stops j).fd kind ((w.tunnels i).session.fd kind) } := by
  unfold World.swap
  rw [hsession]
  exact Function.update_self _ _ _

theorem swap_stops {j j' : Nat} (hne : j' ≠ j) (kind : SocketKind) (next : Phase) :
    (w.swap j kind next).stops j' = w.stops j' := by
  unfold World.swap
  cases (w.stops j).session with
  | none => rfl
  | some i => exact Function.update_of_ne hne _ _

theorem swap_activeSession (j : Nat) (kind : SocketKind) (next : Phase) :
    (w.swap j kind next).activeSession = w.activeSession := by
  unfold World.swap
  cases (w.stops j).session <;> rfl

theorem swap_sockets (j : Nat) (kind : SocketKind) (next : Phase) :
    (w.swap j kind next).sockets = w.sockets := by
  unfold World.swap
  cases (w.stops j).session <;> rfl

theorem InvAt.swap (h : w.InvAt i) {j : Nat} {kind : SocketKind} {next : Phase}
    (hsession : (w.stops j).session = some i) : (w.swap j kind next).InvAt i := by
  have ht := swap_tunnel hsession kind next
  have hj := swap_stop hsession kind next
  obtain ⟨hplace, hstopped⟩ := h.target j hsession
  refine ⟨?_, ?_, ?_, ?_, ?_, ?_⟩
  · rw [swap_activeSession, ht]
    exact h.registered
  · rw [ht]
    exact h.tls
  · rw [ht, swap_sockets]
    exact h.opened
  · rw [ht]
    intro _ hstill
    cases hstill.symm.trans hstopped
  · rw [ht]
    intro kind' hunpublished
    obtain ⟨hfd, hfound⟩ := h.unpublished kind' hunpublished
    constructor
    · show Function.update (w.tunnels i).session.fd kind (-1) kind' = -1
      rw [Function.update_apply]
      split_ifs
      · rfl
      · exact hfd
    · intro j' hj'
      by_cases hne : j' = j
      · -- what the call has swapped out is what was there
        rw [hne, hj]
        show Function.update (w.stops j).fd kind ((w.tunnels i).session.fd kind) kind' = -1
        rw [Function.update_apply]
        split_ifs with hkind
        · exact hkind ▸ hfd
        · exact hfound j hsession
      · rw [swap_stops hne] at hj' ⊢
        exact hfound j' hj'
  · rw [ht]
    exact fun _ _ => ⟨hplace, hstopped⟩

/-- What a swap takes out of the atomic of the transport socket is shut down by the same stop. -/
theorem TakenAt.swap (h : w.InvAt i) (hsafe : w.TakenAt i) {j : Nat} {kind : SocketKind}
    {next : Phase} (hsession : (w.stops j).session = some i)
    (hphase : (w.stops j).phase.BeforeSwap kind) (hnext : next.BeforeShutdown kind)
    (hbeside : Phase.SameBeside kind (w.stops j).phase next) : (w.swap j kind next).TakenAt i := by
  have ht := swap_tunnel hsession kind next
  have hj := swap_stop hsession kind next
  have htransport : ((w.tunnels i).setFd kind (-1)).transport = (w.tunnels i).transport := rfl
  have hfd : (w.swap j kind next).transportFd i = w.transportFd i := by
    unfold transportFd
    rw [ht]
    rfl
  unfold TakenAt ShutDown AboutToSwap AboutToShutDown
  rw [swap_sockets, hfd, ht, htransport]
  intro hstored _
  rcases hsafe hstored (h.target j hsession).2 with
    hshut | ⟨⟨j', hj', hswap⟩, hatomic⟩ | ⟨j', hj', hshut, hfound⟩
  · exact Or.inl hshut
  · by_cases hkind : (w.tunnels i).transport = kind
    · -- this call takes the descriptor, whichever was about to
      refine Or.inr (Or.inr ⟨j, ?_⟩)
      rw [hj, ← hatomic, hkind]
      exact ⟨hsession, hnext, Function.update_self _ _ _⟩
    · refine Or.inr (Or.inl ⟨⟨j', ?_⟩, (Function.update_of_ne hkind _ _).trans hatomic⟩)
      by_cases hne : j' = j
      · rw [hne] at hswap ⊢
        rw [hj]
        exact ⟨hsession, (hbeside _ hkind).1.2 hswap⟩
      · rw [swap_stops hne]
        exact ⟨hj', hswap⟩
  · refine Or.inr (Or.inr ⟨j', ?_⟩)
    by_cases hne : j' = j
    · rw [hne] at hshut hfound ⊢
      have hkind : (w.tunnels i).transport ≠ kind := by
        rintro hkind
        rw [hkind] at hshut
        exact hphase.not_beforeShutdown hshut
      rw [hj]
      exact ⟨hsession, (hbeside _ hkind).2.2 hshut, (Function.update_of_ne hkind _ _).trans hfound⟩
    · rw [swap_stops hne]
      exact ⟨hj', hshut, hfound⟩

theorem keeps_swap (h : w.Inv) (hsafe : w.StopsTaken) {j : Nat} {kind : SocketKind} {next : Phase}
    (hphase : (w.stops j).phase.BeforeSwap kind) (hnext : next.BeforeShutdown kind)
    (hbeside : Phase.SameBeside kind (w.stops j).phase next) :
    (w.swap j kind next).Inv ∧ (w.swap j kind next).StopsTaken := by
  cases hsession : (w.stops j).session with
  | none =>
      have heq : w.swap j kind next = w := by
        unfold World.swap
        rw [hsession]
      rw [heq]
      exact ⟨h, hsafe⟩
  | some i =>
      apply keeps_of_frame h hsafe (swap_frame hsession)
      exact ⟨(h i).swap hsession, TakenAt.swap (h i) (hsafe i) hsession hphase hnext hbeside⟩

/-! A shutdown changes the place of its own call and the socket it shuts. -/

theorem shutdown_sockets {j : Nat} {kind : SocketKind} (next : Phase) {fd : Int} {socket : Socket}
    (hsocket : w.sockets fd = some socket) : ∃ shut,
      (w.shutdown j kind next).sockets fd = some { socket with shut := shut } ∧
        (socket.shut = true → shut = true) ∧ ((w.stops j).fd kind = fd → 0 ≤ fd → shut = true) := by
  unfold World.shutdown
  dsimp only
  by_cases hfound : 0 ≤ (w.stops j).fd kind
  · rw [if_pos hfound]
    by_cases heq : fd = (w.stops j).fd kind
    · subst heq
      rw [Function.update_self, hsocket]
      exact ⟨true, rfl, fun _ => rfl, fun _ _ => rfl⟩
    · rw [Function.update_of_ne heq]
      exact ⟨socket.shut, hsocket, id, fun h => absurd h.symm heq⟩
  · rw [if_neg hfound]
    exact ⟨socket.shut, hsocket, id, fun h hfd => absurd (h ▸ hfd) hfound⟩

theorem shutdown_phase (j : Nat) (kind : SocketKind) (next : Phase) :
    ((w.shutdown j kind next).stops j).phase = next := by
  unfold World.shutdown
  simp only [Function.update_self]

theorem shutdown_stops {j j' : Nat} (hne : j' ≠ j) (kind : SocketKind) (next : Phase) :
    (w.shutdown j kind next).stops j' = w.stops j' :=
  Function.update_of_ne hne _ _

theorem shutdown_call (j : Nat) (kind : SocketKind) (next : Phase) (j' : Nat) :
    ((w.shutdown j kind next).stops j').session = (w.stops j').session ∧
      ((w.shutdown j kind next).stops j').fd = (w.stops j').fd := by
  unfold World.shutdown
  dsimp only
  rw [Function.update_apply]
  split_ifs with hj
  · exact ⟨by rw [hj], by rw [hj]⟩
  · exact ⟨rfl, rfl⟩

theorem InvAt.shutdown (h : w.InvAt i) (j : Nat) (kind : SocketKind) (next : Phase) :
    (w.shutdown j kind next).InvAt i := by
  refine ⟨h.registered, h.tls, ?_, h.published, ?_, ?_⟩
  · intro kind' hopened
    obtain ⟨hfd, shut, hsocket⟩ := h.opened kind' hopened
    obtain ⟨shut', hsocket', -⟩ := shutdown_sockets next hsocket
    exact ⟨hfd, shut', hsocket'⟩
  · intro kind' hunpublished
    obtain ⟨hfd, hfound⟩ := h.unpublished kind' hunpublished
    refine ⟨hfd, fun j' hj' => ?_⟩
    obtain ⟨hsession, hfd'⟩ := shutdown_call (w := w) j kind next j'
    rw [hsession] at hj'
    rw [hfd']
    exact hfound j' hj'
  · intro j' hj'
    rw [(shutdown_call j kind next j').1] at hj'
    exact h.target j' hj'

/-- A shutdown shuts the transport socket whose descriptor the stop has found. -/
theorem TakenAt.shutdown (h : w.InvAt i) (hsafe : w.TakenAt i) {j : Nat} {kind : SocketKind}
    {next : Phase} (hswapped : ∀ kind', ¬ (w.stops j).phase.BeforeSwap kind')
    (hbeside : Phase.SameBeside kind (w.stops j).phase next) :
    (w.shutdown j kind next).TakenAt i := by
  have hcall := shutdown_call (w := w) j kind next
  intro hstored hstopped
  rcases hsafe hstored hstopped with
    hshut | ⟨⟨j', hj', hswap⟩, hatomic⟩ | ⟨j', hj', hshut, hfound⟩
  · obtain ⟨shut', hsocket', hmono, -⟩ := shutdown_sockets next hshut
    rw [hmono rfl] at hsocket'
    exact Or.inl hsocket'
  · have hne : j' ≠ j := by
      rintro rfl
      exact hswapped _ hswap
    refine Or.inr (Or.inl ⟨⟨j', ?_⟩, hatomic⟩)
    rw [shutdown_stops hne]
    exact ⟨hj', hswap⟩
  · by_cases hne : j' = j
    · rw [hne] at hj' hshut hfound
      by_cases hkind : (w.tunnels i).transport = kind
      · -- the socket is still open, and this is the call that has found it
        obtain ⟨hfd, shut, hsocket⟩ := h.opened _ (h.opened_of_stored hstored)
        obtain ⟨shut', hsocket', -, hnow⟩ := shutdown_sockets next hsocket
        rw [hnow (hkind ▸ hfound) hfd] at hsocket'
        exact Or.inl hsocket'
      · refine Or.inr (Or.inr ⟨j, (hcall j).1.trans hj', ?_, ?_⟩)
        · rw [shutdown_phase]
          exact (hbeside _ hkind).2.2 hshut
        · rw [(hcall j).2]
          exact hfound
    · refine Or.inr (Or.inr ⟨j', ?_⟩)
      rw [shutdown_stops hne]
      exact ⟨hj', hshut, hfound⟩

theorem keeps_shutdown (h : w.Inv) (hsafe : w.StopsTaken) {j : Nat} {kind : SocketKind}
    {next : Phase} (hswapped : ∀ kind', ¬ (w.stops j).phase.BeforeSwap kind')
    (hbeside : Phase.SameBeside kind (w.stops j).phase next) :
    (w.shutdown j kind next).Inv ∧ (w.shutdown j kind next).StopsTaken :=
  ⟨fun i => (h i).shutdown j kind next,
    fun i => TakenAt.shutdown (h i) (hsafe i) hswapped hbeside⟩

theorem keeps_stopActiveTunnel (h : w.Inv) (hsafe : w.StopsTaken) (j : Nat) :
    (w.stopActiveTunnel j).Inv ∧ (w.stopActiveTunnel j).StopsTaken := by
  unfold World.stopActiveTunnel
  cases hphase : (w.stops j).phase with
  | idle => exact keeps_take h hsafe hphase
  | taken =>
      apply keeps_swap h hsafe
      · exact hphase
      · exact Or.inl rfl
      · rw [hphase]
        exact Phase.sameBeside_udp.1
  | udpSwapped =>
      -- the lock is given back with the second swap
      apply keeps_lock
      apply keeps_swap h hsafe
      · exact Or.inr hphase
      · exact Or.inl rfl
      · rw [hphase]
        exact Phase.sameBeside_tcp.1
  | swapped =>
      apply keeps_shutdown h hsafe
      · exact Phase.not_beforeSwap (Or.inl hphase)
      · rw [hphase]
        exact Phase.sameBeside_udp.2
  | udpShut =>
      apply keeps_shutdown h hsafe
      · exact Phase.not_beforeSwap (Or.inr hphase)
      · rw [hphase]
        exact Phase.sameBeside_tcp.2
  | done => exact ⟨h, hsafe⟩

/-! ## Runs -/

/-- Where no stop is under way, a stopped session with a stored transport is shut down. -/
theorem StopsTaken.shutDown (h : w.StopsTaken)
    (hquiet : ∀ j, (w.stops j).phase = .idle ∨ (w.stops j).phase = .done) (hstored :
      (w.tunnels i).Stored) (hstopped : (w.tunnels i).stopped = true) : w.ShutDown i := by
  rcases h i hstored hstopped with hshut | ⟨⟨j, -, hswap⟩, -⟩ | ⟨j, -, hshut, -⟩
  · exact hshut
  · cases hkind : (w.tunnels i).transport <;> rcases hquiet j with hj | hj <;>
      simp [hkind, hj, Phase.BeforeSwap] at hswap
  · cases hkind : (w.tunnels i).transport <;> rcases hquiet j with hj | hj <;>
      simp [hkind, hj, Phase.BeforeShutdown] at hshut

/-- Only the store of a transport descriptor can lose a stop. -/
theorem keeps_step (h : w.Inv) (hsafe : w.StopsTaken) (e : Event) :
    (w.step e).Inv ∧ (w.StopNotLost e ↔ w.StoredInTime e) := by
  have hother : (w.step e).Inv ∧ (w.step e).StopsTaken → (∀ i, ¬ w.StoresTransport i e) →
      (∀ i, e ≠ .dropGuard i) → (w.step e).Inv ∧ (w.StopNotLost e ↔ w.StoredInTime e) := by
    rintro ⟨hinv, htaken⟩ hstore hguard
    refine ⟨hinv, iff_of_true ⟨htaken, fun i _ hi => absurd hi (hguard i)⟩ ?_⟩
    exact fun i hi => absurd hi (hstore i)
  cases e with
  | activateSession i useTls tcpFd =>
      exact hother (keeps_activateSession h hsafe i useTls tcpFd) (fun _ => id) (by simp)
  | createUdp i fd => exact hother (keeps_createUdp h hsafe i fd) (fun _ => id) (by simp)
  | storeUdp i =>
      obtain ⟨hinv, hiff⟩ := keeps_storeUdp h hsafe i
      exact ⟨hinv, Iff.trans (and_iff_left (by simp)) hiff⟩
  | storeTcp i =>
      obtain ⟨hinv, hiff⟩ := keeps_storeTcp h hsafe i
      exact ⟨hinv, Iff.trans (and_iff_left (by simp)) hiff⟩
  | close i => exact hother (keeps_close h hsafe i) (fun _ => id) (by simp)
  | dropGuard i =>
      obtain ⟨hinv, htaken, hslot⟩ := keeps_dropGuard h hsafe i
      refine ⟨hinv, iff_of_true ⟨htaken, ?_⟩ fun _ hstore => absurd hstore id⟩
      rintro k r hk hr hne
      cases hk
      exact hslot r hr hne
  | stopActiveTunnel j => exact hother (keeps_stopActiveTunnel h hsafe j) (fun _ => id) (by simp)

/-- Whatever the calls and their order, no stop is lost exactly if every session stores the descriptor
of its transport socket in time. -/
theorem stop_not_lost_iff (es : List Event) :
    Along step StopNotLost start es ↔ Along step StoredInTime start es := by
  have hkeep : ∀ (w : World) (e : Event), w.Inv ∧ w.StopsTaken → True → w.StoredInTime e →
      (w.step e).Inv ∧ (w.step e).StopsTaken := by
    rintro w e ⟨h, hsafe⟩ - hintime
    obtain ⟨hinv, hiff⟩ := keeps_step h hsafe e
    exact ⟨hinv, (hiff.2 hintime).1⟩
  have hiff : ∀ (w : World) (e : Event), w.Inv ∧ w.StopsTaken → True →
      (w.StopNotLost e ↔ w.StoredInTime e) := by
    rintro w e ⟨h, hsafe⟩ -
    exact (keeps_step h hsafe e).2
  exact along_iff_of_invariant hkeep hiff ⟨inv_start, stopsTaken_start⟩
    (along_of_forall fun _ _ => trivial)

/-- A call of `stop_active_tunnel` is changed by its own steps only. -/
theorem step_stops {e : Event} {j : Nat} (hne : e ≠ .stopActiveTunnel j) :
    (w.step e).stops j = w.stops j := by
  cases e with
  | activateSession i useTls tcpFd =>
      simp only [step, activateSession]
      split
      · split <;> rfl
      · rfl
  | createUdp i fd =>
      simp only [step, createUdp]
      split <;> rfl
  | storeUdp i =>
      simp only [step, storeUdp]
      split <;> rfl
  | storeTcp i =>
      simp only [step, storeTcp]
      split <;> rfl
  | close i =>
      simp only [step, close]
      split <;> rfl
  | dropGuard i =>
      simp only [step, dropGuard]
      split <;> rfl
  | stopActiveTunnel j' =>
      have hj : j ≠ j' := by
        rintro rfl
        exact hne rfl
      simp only [step, stopActiveTunnel]
      cases (w.stops j').phase with
      | idle =>
          simp only [take]
          split
          · split <;> exact Function.update_of_ne hj _ _
          · rfl
      | taken => exact swap_stops hj _ _
      | udpSwapped => exact swap_stops hj _ _
      | swapped => exact shutdown_stops hj _ _
      | udpShut => exact shutdown_stops hj _ _
      | done => rfl

/-- A tunnel registers, a stop runs from its first step to its last, and only then the tunnel creates
its socket and stores the descriptor. -/
def earlyStop : List Event :=
  [.activateSession 0 false (-1), .stopActiveTunnel 0, .stopActiveTunnel 0, .stopActiveTunnel 0,
    .stopActiveTunnel 0, .stopActiveTunnel 0, .createUdp 0 5]

/-- Nobody shuts the socket of that tunnel down. -/
theorem stop_lost : ¬ Along step StopNotLost start (earlyStop ++ [.storeUdp 0]) := by
  rw [along_append]
  rintro ⟨-, ⟨htaken, -⟩, -⟩
  have hlast : (runFrom step start earlyStop).step (.storeUdp 0) =
      runFrom step start (earlyStop ++ [.storeUdp 0]) := by
    rw [runFrom_append]
    rfl
  rw [hlast] at htaken
  have hothers : ∀ j, j ≠ 0 →
      (runFrom step start (earlyStop ++ [.storeUdp 0])).stops j = start.stops j := by
    intro j hj
    refine runFrom_invariant_of_along (C := fun _ e => e ≠ .stopActiveTunnel j)
      (fun (w : World) e (hw : w.stops j = start.stops j) he => (step_stops he).trans hw) rfl
      (along_of_forall ?_)
    simp [earlyStop, hj.symm]
  have hquiet : ∀ j, ((runFrom step start (earlyStop ++ [.storeUdp 0])).stops j).phase = .idle ∨
      ((runFrom step start (earlyStop ++ [.storeUdp 0])).stops j).phase = .done := by
    intro j
    by_cases hj : j = 0
    · subst hj
      exact Or.inr rfl
    · rw [hothers j hj]
      exact Or.inl rfl
  have hshut := htaken.shutDown hquiet (i := 0) rfl rfl
  unfold ShutDown at hshut
  revert hshut
  decide

end World

end ActiveSession

end Aivpn
