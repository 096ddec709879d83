import Aivpn.Client.Mimicry
import Aivpn.Lib.FixedWindow
import Aivpn.Server.Recovery
import Aivpn.Server.WorkerSteps

/-!
# The rate limit of the receive task

The loop of `process_packets_concurrent`: each datagram is counted for its source IP address, and only
one that the limit lets pass is handed to a worker. The entries of `rate_limits` are never removed.

The pool behind the limit is a pool that receives the datagrams which pass (`ReceiveLoop.pool_eq`). No
address gets more than twice the limit through in one second, whatever the addresses send, an address
that keeps to the limit loses nothing, and no address is charged for the datagrams of another
(`rate_limit`).
-/

set_option autoImplicit false

namespace Aivpn

open Aivpn.Lib FixedWindow

/-- `Duration::from_secs(1)`, in nanoseconds. -/
def rateLimitPeriod : Nat := 1000000000

/-- The receive task: `rate_limits`, with the datagrams it has decided on, and the workers. -/
structure ReceiveLoop where
  rateLimits : Limiter IpAddr
  pool : Pool

namespace ReceiveLoop

/-- What can happen: the socket receives a datagram, the clock being read as `now` before the entry is
looked up and as `later` by `elapsed`; it fails; or the pool goes on without the receive task. -/
inductive Event where
  | recv (packetData : Bytes) (clientAddr : SocketAddr) (now later : Nat)
  | recvError
  | advance (call : Nat)
  | task (t : Task)

/-- Nothing has been received. -/
def start (g : Gateway) : ReceiveLoop := ⟨FixedWindow.start, Pool.start g⟩

/-- The datagram as the rate limit sees it. -/
def Event.arrival : Event → Option (Lib.Arrival IpAddr)
  | .recv _ clientAddr now later => some ⟨clientAddr.ip, now, later⟩
  | .recvError => none
  | .advance _ => none
  | .task _ => none

/-- The datagrams of a run, as the rate limit sees them. -/
def arrivals (es : List (Env × Event)) : List (Lib.Arrival IpAddr) :=
  es.filterMap fun e => e.2.arrival

/-- The datagrams of the address alone, with all that happens in the pool. -/
def onlyFrom (ip : IpAddr) (es : List (Env × Event)) : List (Env × Event) :=
  es.filter fun e => match e.2.arrival with
    | some a => a.key = ip
    | none => true

/-- The calls of `handle_packet` for datagrams of the address. -/
def callsFrom (p : Pool) (ip : IpAddr) : List Nat :=
  (List.range p.arrived).filter fun i => (p.calls i).clientAddr.ip = ip

section

variable (P : Primitives) (rng : Randomness) (cfg : GatewayConfig) (workerCount : Nat)
  (perIpPpsLimit : Nat)

/-- The datagram passes the rate limit: `rate_limits` is updated, and the count is not over the
limit. -/
def passes (s : ReceiveLoop) (a : Lib.Arrival IpAddr) : Bool :=
  decide ((enter rateLimitPeriod (s.rateLimits.entries a.key) a).1 ≤ perIpPpsLimit)

/-- What the event is for the pool; a datagram beyond the size of the buffer is cut. -/
def poolEvent (s : ReceiveLoop) : Event → Option Pool.Event
  | .recv packetData clientAddr now later =>
      if s.passes perIpPpsLimit ⟨clientAddr.ip, now, later⟩ then
        some (.arrive (packetData.take maxPacketSize) clientAddr)
      else none
  | .recvError => none
  | .advance i => some (.advance i)
  | .task t => some (.task t)

/-- One step of the receive task or of the pool. -/
def step (s : ReceiveLoop) (e : Env × Event) : ReceiveLoop where
  rateLimits := match e.2.arrival with
    | some a => FixedWindow.step rateLimitPeriod perIpPpsLimit s.rateLimits a
    | none => s.rateLimits
  pool := match s.poolEvent perIpPpsLimit e.2 with
    | some event => s.pool.step P rng cfg workerCount (e.1, event)
    | none => s.pool

/-- The state after the events. -/
def run (g : Gateway) (es : List (Env × Event)) : ReceiveLoop :=
  runFrom (step P rng cfg workerCount perIpPpsLimit) (start g) es

/-- What the pool gets of a run. -/
def poolEvents : ReceiveLoop → List (Env × Event) → List (Env × Pool.Event)
  | _, [] => []
  | s, e :: es =>
      ((s.poolEvent perIpPpsLimit e.2).map (Prod.mk e.1)).toList ++
        poolEvents (s.step P rng cfg workerCount perIpPpsLimit e) es

end

section

variable {P : Primitives} {rng : Randomness} {cfg : GatewayConfig} {workerCount perIpPpsLimit : Nat}

/-- The pool behind the limit is a pool that receives what passes. -/
theorem pool_eq (s : ReceiveLoop) (es : List (Env × Event)) :
    (runFrom (step P rng cfg workerCount perIpPpsLimit) s es).pool =
      runFrom (Pool.step P rng cfg workerCount) s.pool
        (poolEvents P rng cfg workerCount perIpPpsLimit s es) := by
  induction es generalizing s with
  | nil => rfl
  | cons e es ih =>
      rw [runFrom, ih, poolEvents, runFrom_append]
      congr 1
      rw [step]
      cases s.poolEvent perIpPpsLimit e.2 with
      | none => rfl
      | some event => rfl

/-- The limiter of a run is the limiter of its datagrams. -/
theorem rateLimits_eq (s : ReceiveLoop) (es : List (Env × Event)) :
    (runFrom (step P rng cfg workerCount perIpPpsLimit) s es).rateLimits =
      runFrom (FixedWindow.step rateLimitPeriod perIpPpsLimit) s.rateLimits (arrivals es) := by
  induction es generalizing s with
  | nil => rfl
  | cons e es ih =>
      rw [runFrom, ih, step, arrivals, arrivals, List.filterMap_cons]
      cases e.2.arrival with
      | none => rfl
      | some a => rfl

theorem arrivals_onlyFrom (ip : IpAddr) (es : List (Env × Event)) :
    arrivals (onlyFrom ip es) = (arrivals es).filter fun a => a.key = ip := by
  induction es with
  | nil => rfl
  | cons e es ih =>
      rw [arrivals, onlyFrom] at ih ⊢
      rw [arrivals, List.filterMap_cons]
      cases harrival : e.2.arrival with
      | none =>
          rw [List.filter_cons_of_pos (by rw [harrival]), List.filterMap_cons, harrival]
          exact ih
      | some a =>
          by_cases hkey : a.key = ip
          · rw [List.filter_cons_of_pos (by rw [harrival]; simpa using hkey), List.filterMap_cons,
              harrival, List.filter_cons_of_pos (by simpa using hkey)]
            exact congrArg (List.cons a) ih
          · rw [List.filter_cons_of_neg (by rw [harrival]; simpa using hkey),
              List.filter_cons_of_neg (by simpa using hkey)]
            exact ih

theorem pool_recv (s : ReceiveLoop) (env : Env) (packetData : Bytes) (addr : SocketAddr)
    (now later : Nat) :
    (s.step P rng cfg workerCount perIpPpsLimit (env, .recv packetData addr now later)).pool =
      if s.passes perIpPpsLimit ⟨addr.ip, now, later⟩ then
        s.pool.step P rng cfg workerCount (env, .arrive (packetData.take maxPacketSize) addr)
      else s.pool := by
  simp only [step, poolEvent]
  split_ifs with hpasses
  · rfl
  · rfl

theorem callsFrom_arrive (p : Pool) (env : Env) (packetData : Bytes) (addr : SocketAddr)
    (ip : IpAddr) :
    callsFrom (p.step P rng cfg workerCount (env, .arrive packetData addr)) ip =
      callsFrom p ip ++ if addr.ip = ip then [p.arrived] else [] := by
  have hold : ∀ i ∈ List.range p.arrived,
      decide ((Function.update p.calls p.arrived (p.dispatch workerCount packetData addr) i).clientAddr.ip
        = ip) = decide ((p.calls i).clientAddr.ip = ip) := by
    intro i hi
    rw [Function.update_of_ne (Nat.ne_of_lt (List.mem_range.1 hi))]
  show (List.range (p.arrived + 1)).filter (fun i => decide ((Function.update p.calls p.arrived
    (p.dispatch workerCount packetData addr) i).clientAddr.ip = ip)) = _
  rw [List.range_succ, List.filter_append, List.filter_congr hold]
  congr 1
  simp only [List.filter_singleton, Function.update_self]
  by_cases hip : addr.ip = ip
  · simp [Pool.dispatch, hip]
  · simp [Pool.dispatch, hip]

theorem callsFrom_other (p : Pool) (e : Env × Pool.Event) (ip : IpAddr)
    (he : ∀ packetData addr, e.2 ≠ .arrive packetData addr) :
    callsFrom (p.step P rng cfg workerCount e) ip = callsFrom p ip := by
  rcases Pool.step_cases P rng cfg workerCount p e with
    ⟨packetData, addr, hevent, -⟩ | ⟨i, st, g, ms, -, -, -, hstep, -⟩ | ⟨t, -, hstep⟩ | ⟨-, hstep⟩
  · exact absurd hevent (he packetData addr)
  · rw [hstep]
    apply List.filter_congr
    intro j _
    by_cases hj : j = i
    · subst hj
      simp [Pool.move]
    · simp [Pool.move, hj]
  · rw [hstep]
    rfl
  · rw [hstep]

/-- One step keeps the calls for an address as many as its datagrams that passed. -/
theorem callsFrom_step {s : ReceiveLoop} {ip : IpAddr}
    (h : (callsFrom s.pool ip).length = (seenFor s.rateLimits ip).countP Prod.snd)
    (e : Env × Event) :
    (callsFrom (s.step P rng cfg workerCount perIpPpsLimit e).pool ip).length =
      (seenFor (s.step P rng cfg workerCount perIpPpsLimit e).rateLimits ip).countP Prod.snd := by
  rcases e with ⟨env, ⟨packetData, addr, now, later⟩ | _ | i | t⟩
  · show _ = (seenFor (FixedWindow.step _ _ _ _) ip).countP _
    rw [pool_recv, seenFor_step]
    by_cases hpasses : s.passes perIpPpsLimit ⟨addr.ip, now, later⟩ = true
    · rw [if_pos hpasses, callsFrom_arrive, List.length_append, h]
      by_cases hip : addr.ip = ip
      · subst hip
        rw [if_pos rfl, if_pos rfl, decide_eq_true (of_decide_eq_true hpasses),
          List.countP_cons_of_pos rfl]
        rfl
      · rw [if_neg hip, if_neg hip]
        rfl
    · rw [if_neg hpasses, h]
      by_cases hip : addr.ip = ip
      · subst hip
        rw [if_pos rfl, decide_eq_false (of_decide_eq_false (Bool.eq_false_iff.2 hpasses)),
          List.countP_cons_of_neg Bool.false_ne_true]
      · rw [if_neg hip]
  · exact h
  · show (callsFrom (s.pool.step P rng cfg workerCount (env, .advance i)) ip).length = _
    rw [callsFrom_other _ _ _ fun _ _ he => by cases he]
    exact h
  · show (callsFrom (s.pool.step P rng cfg workerCount (env, .task t)) ip).length = _
    rw [callsFrom_other _ _ _ fun _ _ he => by cases he]
    exact h

end

end ReceiveLoop

/-- The receive task with a clock that does not go back, for every address and every interval of one
second. At most twice the limit of an address passes. A datagram is dropped only when as many as the
limit have passed from its address within the last second, so an address that keeps to the limit loses
none. The datagrams of other addresses change nothing. The workers get what passes and nothing else.
`rate_limits` keeps an entry for every address ever seen. -/
theorem rate_limit (P : Primitives) (rng : Randomness) (cfg : GatewayConfig)
    (workerCount perIpPpsLimit : Nat) (g : Gateway) (es : List (Env × ReceiveLoop.Event))
    (hclock : Monotone (ReceiveLoop.arrivals es)) (ip : IpAddr) :
    let s := ReceiveLoop.run P rng cfg workerCount perIpPpsLimit g es
    (∀ t, admittedIn rateLimitPeriod (seenFor s.rateLimits ip) t ≤ 2 * perIpPpsLimit) ∧
    (∀ newer d older, seenFor s.rateLimits ip = newer ++ d :: older → d.2 = false →
      perIpPpsLimit ≤ admittedIn rateLimitPeriod older (d.1.later - rateLimitPeriod)) ∧
    ((∀ t, offeredIn rateLimitPeriod (seenFor s.rateLimits ip) t ≤ perIpPpsLimit) →
      ∀ d ∈ seenFor s.rateLimits ip, d.2 = true) ∧
    seenFor s.rateLimits ip = seenFor (ReceiveLoop.run P rng cfg workerCount perIpPpsLimit g
      (ReceiveLoop.onlyFrom ip es)).rateLimits ip ∧
    s.pool = runFrom (Pool.step P rng cfg workerCount) (Pool.start g)
      (ReceiveLoop.poolEvents P rng cfg workerCount perIpPpsLimit (ReceiveLoop.start g) es) ∧
    (ReceiveLoop.callsFrom s.pool ip).length = (seenFor s.rateLimits ip).countP Prod.snd ∧
    (s.rateLimits.entries ip = none ↔ ∀ a ∈ ReceiveLoop.arrivals es, a.key ≠ ip) := by
  intro s
  have hlimits : s.rateLimits =
      FixedWindow.run rateLimitPeriod perIpPpsLimit (ReceiveLoop.arrivals es) :=
    ReceiveLoop.rateLimits_eq (ReceiveLoop.start g) es
  have honly : (ReceiveLoop.run P rng cfg workerCount perIpPpsLimit g
      (ReceiveLoop.onlyFrom ip es)).rateLimits = FixedWindow.run rateLimitPeriod perIpPpsLimit
        ((ReceiveLoop.arrivals es).filter fun a => a.key = ip) := by
    rw [← ReceiveLoop.arrivals_onlyFrom]
    exact ReceiveLoop.rateLimits_eq (ReceiveLoop.start g) (ReceiveLoop.onlyFrom ip es)
  have hcalls : (ReceiveLoop.callsFrom s.pool ip).length =
      (seenFor s.rateLimits ip).countP Prod.snd :=
    @runFrom_invariant _ _ _ (fun s : ReceiveLoop => (ReceiveLoop.callsFrom s.pool ip).length =
      (seenFor s.rateLimits ip).countP Prod.snd) (fun _ e h => ReceiveLoop.callsFrom_step h e)
      (ReceiveLoop.start g) rfl es
  have hpool : s.pool = runFrom (Pool.step P rng cfg workerCount) (Pool.start g)
      (ReceiveLoop.poolEvents P rng cfg workerCount perIpPpsLimit (ReceiveLoop.start g) es) :=
    ReceiveLoop.pool_eq (ReceiveLoop.start g) es
  rw [honly]
  refine ⟨?_, ?_, ?_, ?_, hpool, hcalls, ?_⟩
  · intro t
    rw [hlimits]
    exact admittedIn_le hclock ip t
  · intro newer d older hsplit hd
    rw [hlimits] at hsplit
    exact limit_le_of_refused hclock hsplit hd
  · intro hoffered
    rw [hlimits] at hoffered ⊢
    exact admitted_of_offeredIn_le hclock hoffered
  · rw [hlimits]
    exact seenFor_filter ip _
  · rw [hlimits]
    exact entries_run_eq_none hclock ip

/-- Three datagrams of an address at a limit of one in a second: the second begins a new window just
after the first has passed, and the third is dropped. -/
def sampleRecv : List (Env × ReceiveLoop.Event) :=
  [(sampleEnv 100, .recv [] sampleAddr 0 1000000000),
    (sampleEnv 100, .recv [] sampleAddr 1000000000 1000000001),
    (sampleEnv 100, .recv [] sampleAddr 1000000001 1000000001)]

/-- The two that pass come within a second, so the bound is reached. -/
theorem sampleRecv_limited :
    let s := ReceiveLoop.run samplePrimitives sampleRandomness sampleConfig 16 1
      (Gateway.new sampleServerKeys default none) sampleRecv
    admittedIn rateLimitPeriod (seenFor s.rateLimits sampleAddr.ip) 1000000000 = 2 * 1 ∧
      ∀ t, admittedIn rateLimitPeriod (seenFor s.rateLimits sampleAddr.ip) t ≤ 2 * 1 :=
  ⟨by decide, (rate_limit samplePrimitives sampleRandomness sampleConfig 16 1
    (Gateway.new sampleServerKeys default none) sampleRecv (by decide) sampleAddr.ip).1⟩

end Aivpn
