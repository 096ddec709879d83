import Aivpn.Server.WorkerSteps
import Aivpn.Server.LateInit

/-!
# Dispatch of datagrams to workers

`worker_index_for_packet` shards a datagram by the stored address of its session when the tag is
in the tag map, and by its source address otherwise; an accepted datagram from another endpoint
rewrites the stored address. A session may move to an address of another worker as long as no
datagram that the tag map knows arrives before it is back: along every such run whose other accepted
datagrams come from addresses of the first worker, the datagrams accepted for one session all go
through one worker, in the order in which they arrived (`affine_of_keepsWorker`). A client that moves
to a port of another worker and goes on from there changes the worker of its session
(`migration_changes_worker`).
-/

set_option autoImplicit false

namespace Aivpn

open Aivpn.Lib

namespace Pool

/-- The datagrams accepted for one session went through one worker, in the order of arrival;
`milestones` has the latest first. -/
structure Affine (p : Pool) : Prop where
  worker : ∀ sid i j, .accepted sid i ∈ p.milestones → .accepted sid j ∈ p.milestones →
    (p.calls i).worker = (p.calls j).worker
  order : p.milestones.Pairwise fun m m' => ∀ sid i j, m = .accepted sid i →
    m' = .accepted sid j → j < i

/-- The session that the tag map has for the datagram that arrives. -/
def arrivesFor (x : Pool × Env × Event) : Option SessionId :=
  match x.2.2 with
  | .arrive packetData _ => x.1.gateway.dispatchSession packetData
  | _ => none

/-- The call whose datagram is accepted, with its session. -/
def accepts (x : Pool × Env × Event) : Option (Nat × SessionId) :=
  match sectionOf x with
  | some (i, .mark t padded) => if (stripPadding padded).isOk then some (i, t.sessionId) else none
  | _ => none

/-- The client address with which the session is inserted. -/
def opens (sid : SessionId) (x : Pool × Env × Event) : Option SocketAddr :=
  match sectionOf x with
  | some (_, .insertSession _ _ s) => if s.sessionId = sid then some s.clientAddr else none
  | _ => none

/-- The worker of the client address with which the session was inserted. -/
def homeWorker (workerCount : Nat) (past : List (Pool × Env × Event)) (sid : SessionId) :
    Option Nat :=
  (past.filterMap (opens sid)).getLast?.map (workerIndex workerCount)

/-- When a datagram arrives whose tag is in the tag map, the stored address of the session is one of
its home worker. A datagram that is accepted was dispatched for its session, or by a source address
of the home worker. -/
def KeepsWorker (workerCount : Nat) (past : List (Pool × Env × Event)) (p : Pool)
    (e : Env × Event) : Prop :=
  (∀ sid ∈ arrivesFor (p, e), homeWorker workerCount past sid =
    some (workerIndex workerCount (p.gateway.session sid).clientAddr)) ∧
  ∀ new ∈ accepts (p, e), (p.calls new.1).dispatchedFor = some new.2 ∨
    (p.calls new.1).worker = workerIndex workerCount (p.calls new.1).clientAddr ∧
      homeWorker workerCount past new.2 = some (workerIndex workerCount (p.calls new.1).clientAddr)

instance (workerCount : Nat) (past : List (Pool × Env × Event)) (p : Pool) (e : Env × Event) :
    Decidable (p.KeepsWorker workerCount past e) :=
  inferInstanceAs (Decidable (_ ∧ _))

/-- A session keeps its home worker. -/
theorem homeWorker_cons {workerCount : Nat} {past : List (Pool × Env × Event)} {sid : SessionId}
    {w : Nat} (h : homeWorker workerCount past sid = some w) (x : Pool × Env × Event) :
    homeWorker workerCount (x :: past) sid = some w := by
  obtain ⟨addr, hlast, rfl⟩ := Option.map_eq_some_iff.1 h
  refine Option.map_eq_some_iff.2 ⟨addr, ?_, rfl⟩
  rw [List.filterMap_cons]
  cases opens sid x with
  | none => exact hlast
  | some first => rw [List.getLast?_cons, hlast, Option.getD_some]

/-- The calls that were dispatched for a session, and those accepted for it, are on its home
worker. -/
structure Sharded (workerCount : Nat) (past : List (Pool × Env × Event)) (p : Pool) : Prop where
  dispatched : ∀ i sid, (p.calls i).dispatchedFor = some sid →
    homeWorker workerCount past sid = some (p.calls i).worker
  accepted : ∀ i sid, .accepted sid i ∈ p.milestones → i < p.arrived ∧
    homeWorker workerCount past sid = some (p.calls i).worker ∧
    (p.calls i).stage.isServed = true ∧
    ∀ j < i, (p.calls j).worker = (p.calls i).worker → (p.calls j).stage.isFinished = true
  order : p.milestones.Pairwise fun m m' => ∀ sid i j, m = .accepted sid i →
    m' = .accepted sid j → j < i

theorem Sharded.affine {workerCount : Nat} {past : List (Pool × Env × Event)} {p : Pool}
    (h : p.Sharded workerCount past) : p.Affine where
  worker := by
    intro sid i j hi hj
    have hsame := (h.accepted i sid hi).2.1.symm.trans (h.accepted j sid hj).2.1
    exact Option.some.inj hsame
  order := h.order

/-- A step that leaves the calls and what they have accepted as they are. -/
theorem Sharded.congr {workerCount : Nat} {past : List (Pool × Env × Event)} {p q : Pool}
    (h : p.Sharded workerCount past) (x : Pool × Env × Event) (hcalls : q.calls = p.calls)
    (harrived : q.arrived = p.arrived) (hmilestones : q.milestones = p.milestones) :
    q.Sharded workerCount (x :: past) := by
  refine ⟨fun i sid hi => ?_, fun i sid hi => ?_, hmilestones ▸ h.order⟩
  · rw [hcalls] at hi ⊢
    exact homeWorker_cons (h.dispatched i sid hi) x
  · rw [hmilestones] at hi
    rw [hcalls, harrived]
    obtain ⟨hlt, hw, hrest⟩ := h.accepted i sid hi
    exact ⟨hlt, homeWorker_cons hw x, hrest⟩

end Pool

namespace LockSection

variable {addr : SocketAddr} {call : Nat} {st st' : Stage} {g g' : Gateway} {ms : Option Milestone}

/-- A datagram is accepted by the section that marks its counter. -/
theorem accepted_cases (h : LockSection addr call st g st' g' ms) {sid : SessionId} {i : Nat}
    (hms : ms = some (.accepted sid i)) : i = call ∧ st'.isServed = true ∧
      ∃ t padded plaintext, st = .mark t padded ∧ stripPadding padded = .ok plaintext ∧
        t.sessionId = sid := by
  cases h with
  | quiet => cases hms
  | validated => cases hms
  | offered => cases hms
  | drawn => cases hms
  | inserted => cases hms
  | assigned a ip sid' =>
      obtain ⟨vpnIp, -, h⟩ := Option.map_eq_some_iff.1 hms
      cases h
  | rolledBack => cases hms
  | cleaned client t =>
      obtain ⟨vpnIp, -, h⟩ := Option.map_eq_some_iff.1 hms
      cases h
  | marked t padded plaintext hstrip hbook =>
      cases hms
      exact ⟨rfl, rfl, t, padded, plaintext, rfl, hstrip, rfl⟩
  | removed => cases hms

/-- A call whose datagram was accepted only returns. -/
theorem served (h : LockSection addr call st g st' g' ms) (hst : st.isServed = true) :
    st'.isServed = true := by
  cases h with
  | quiet hbook hquiet => exact hquiet.served hst
  | validated => cases hst
  | offered => cases hst
  | drawn => cases hst
  | inserted => cases hst
  | assigned => cases hst
  | rolledBack g hst' => rcases hst' with ⟨a, rfl⟩ | ⟨client, rfl⟩ <;> cases hst
  | cleaned => cases hst
  | marked => cases hst
  | removed => rfl

end LockSection

namespace Pool

section

variable {P : Primitives} {rng : Randomness} {cfg : GatewayConfig} {workerCount : Nat}

/-- What a section accepts, it accepts on the home worker of the session. -/
theorem Sharded.accepts_section {past : List (Pool × Env × Event)} {p : Pool}
    (hp : p.Sharded workerCount past) {e : Env × Event} (hkeeps : p.KeepsWorker workerCount past e)
    {i : Nat} {st : Stage} {g : Gateway} {ms : Option Milestone} (he : e.2 = .advance i)
    (hready : p.Ready i)
    (h : LockSection (p.calls i).clientAddr i (p.calls i).stage p.gateway st g ms) {sid : SessionId}
    {j : Nat} (hms : ms = some (.accepted sid j)) :
    j = i ∧ st.isServed = true ∧ (p.calls i).stage.isServed = false ∧
      homeWorker workerCount past sid = some (p.calls i).worker := by
  obtain ⟨rfl, hserved, t, padded, plaintext, hst, hstrip, rfl⟩ := h.accepted_cases hms
  have haccepts : accepts (p, e) = some (j, t.sessionId) := by
    simp only [accepts, sectionOf, he, if_pos hready, hst, hstrip]
    rfl
  refine ⟨rfl, hserved, by rw [hst]; rfl, ?_⟩
  rcases hkeeps.2 _ haccepts with hfor | ⟨hworker, hhome⟩
  · exact hp.dispatched j _ hfor
  · exact hhome.trans (congrArg some hworker.symm)

theorem Sharded.move {past : List (Pool × Env × Event)} {p : Pool}
    (hp : p.Sharded workerCount past) {e : Env × Event} (hkeeps : p.KeepsWorker workerCount past e)
    {i : Nat} {st : Stage} {g : Gateway} {ms : Option Milestone} (he : e.2 = .advance i)
    (hready : p.Ready i)
    (h : LockSection (p.calls i).clientAddr i (p.calls i).stage p.gateway st g ms) :
    (p.move i st g ms).Sharded workerCount ((p, e) :: past) := by
  have hworker : ∀ j, ((p.move i st g ms).calls j).worker = (p.calls j).worker := by
    intro j
    unfold Pool.move
    by_cases hj : j = i
    · subst hj
      simp
    · simp [hj]
  have hfinished : ∀ j, (p.calls j).stage.isFinished = true →
      ((p.move i st g ms).calls j).stage.isFinished = true := by
    intro j hj
    have hne : j ≠ i := by
      rintro rfl
      rw [hready.2.1] at hj
      cases hj
    rw [move_stage, if_neg hne]
    exact hj
  have hnew {sid : SessionId} {j : Nat} (hms : ms = some (.accepted sid j)) :=
    hp.accepts_section hkeeps he hready h hms
  refine ⟨?_, ?_, ?_⟩
  · intro j sid hj
    rw [move_dispatchedFor] at hj
    rw [hworker]
    exact homeWorker_cons (hp.dispatched j sid hj) _
  · intro j sid hj
    rcases List.mem_append.1 hj with hms | hold
    · obtain ⟨rfl, hserved, -, hhome⟩ := hnew (Option.mem_toList.1 hms)
      refine ⟨hready.1, ?_, ?_, ?_⟩
      · rw [hworker]
        exact homeWorker_cons hhome _
      · rw [move_stage, if_pos rfl]
        exact hserved
      · intro k hk hsame
        rw [hworker, hworker] at hsame
        exact hfinished k (hready.2.2 k hk hsame)
    · obtain ⟨harrived, hhome, hserved, hbefore⟩ := hp.accepted j sid hold
      refine ⟨harrived, ?_, ?_, ?_⟩
      · rw [hworker]
        exact homeWorker_cons hhome _
      · rw [move_stage]
        split_ifs with hji
        · subst hji
          exact h.served hserved
        · exact hserved
      · intro k hk hsame
        rw [hworker, hworker] at hsame
        exact hfinished k (hbefore k hk hsame)
  · refine List.pairwise_append.2 ⟨?_, hp.order, ?_⟩
    · cases ms with
      | none => exact List.Pairwise.nil
      | some m => exact List.pairwise_singleton _ m
    · rintro m hm m' hm' sid j k rfl rfl
      obtain ⟨rfl, -, hunserved, hhome⟩ := hnew (Option.mem_toList.1 hm)
      obtain ⟨-, hhome', hserved, hbefore⟩ := hp.accepted k sid hm'
      -- a later call of the worker would have waited for this one
      rcases Nat.lt_trichotomy k j with hlt | rfl | hgt
      · exact hlt
      · rw [hunserved] at hserved
        cases hserved
      · have hdone := hbefore j hgt (Option.some.inj (hhome.symm.trans hhome'))
        rw [hready.2.1] at hdone
        cases hdone

theorem Sharded.arrive {past : List (Pool × Env × Event)} {p : Pool}
    (hp : p.Sharded workerCount past) {e : Env × Event} (hkeeps : p.KeepsWorker workerCount past e)
    {packetData : Bytes} {addr : SocketAddr} (he : e.2 = .arrive packetData addr) :
    ({ p with
      calls := Function.update p.calls p.arrived (p.dispatch workerCount packetData addr)
      arrived := p.arrived + 1 } : Pool).Sharded workerCount ((p, e) :: past) := by
  -- the calls that have arrived before keep their slots
  have hold : ∀ {j}, j < p.arrived → Function.update p.calls p.arrived
      (p.dispatch workerCount packetData addr) j = p.calls j := fun hj =>
    Function.update_of_ne (Nat.ne_of_lt hj) _ _
  refine ⟨?_, ?_, hp.order⟩
  · intro j sid hj
    by_cases hja : j = p.arrived
    · subst hja
      simp only [Function.update_self] at hj ⊢
      have harrives : arrivesFor (p, e) = some sid := by
        simp only [arrivesFor, he]
        exact hj
      have hindex : (p.dispatch workerCount packetData addr).worker =
          workerIndex workerCount (p.gateway.session sid).clientAddr := by
        unfold dispatch Gateway.workerIndexForPacket at *
        simp only at hj ⊢
        rw [hj]
      rw [hindex]
      exact homeWorker_cons (hkeeps.1 sid harrives) _
    · simp only [Function.update_of_ne hja] at hj ⊢
      exact homeWorker_cons (hp.dispatched j sid hj) _
  · intro j sid hj
    obtain ⟨harrived, hhome, hserved, hbefore⟩ := hp.accepted j sid hj
    refine ⟨Nat.lt_succ_of_lt harrived, ?_, ?_, ?_⟩
    · simp only [hold harrived]
      exact homeWorker_cons hhome _
    · simp only [hold harrived]
      exact hserved
    · intro k hk hsame
      simp only [hold harrived, hold (hk.trans harrived)] at hsame ⊢
      exact hbefore k hk hsame

theorem Sharded.step {past : List (Pool × Env × Event)} {p : Pool}
    (hp : p.Sharded workerCount past) {e : Env × Event}
    (hkeeps : p.KeepsWorker workerCount past e) :
    (p.step P rng cfg workerCount e).Sharded workerCount ((p, e) :: past) := by
  rcases step_cases P rng cfg workerCount p e with
    ⟨packetData, addr, he, hstep⟩ | ⟨i, st, g, ms, he, hready, hsec, hstep, -⟩ | ⟨t, -, hstep⟩ |
    ⟨-, hstep⟩
  · rw [hstep]
    exact hp.arrive hkeeps he
  · rw [hstep]
    exact hp.move hkeeps he hready hsec
  · rw [hstep]
    exact hp.congr _ rfl rfl rfl
  · rw [hstep]
    exact hp.congr _ rfl rfl rfl

end

end Pool

/-- Along a run in which no datagram arrives for a session while its stored address is one of
another worker, and none is accepted that was dispatched by a source address of another one, the
datagrams accepted for one session go through one worker, in the order in which they arrived. -/
theorem affine_of_keepsWorker (P : Primitives) (rng : Randomness) (cfg : GatewayConfig)
    (workerCount : Nat) (serverKeys : KeyPair) (signingKey : Key)
    (clientDb : Option (List ClientConfig)) (es : List (Env × Pool.Event))
    (h : AlongPast (Pool.step P rng cfg workerCount)
      (fun past p e => p.KeepsWorker workerCount past e)
      (Pool.start (Gateway.new serverKeys signingKey clientDb)) es) :
    (runFrom (Pool.step P rng cfg workerCount)
      (Pool.start (Gateway.new serverKeys signingKey clientDb)) es).Affine := by
  have hstart : (Pool.start (Gateway.new serverKeys signingKey clientDb)).Sharded workerCount [] := by
    refine ⟨fun i sid hi => ?_, fun i sid hi => ?_, List.Pairwise.nil⟩
    · cases hi
    · cases hi
  obtain ⟨past, hsharded⟩ := @AlongPast.invariant _ _ _
    (fun past p => Pool.Sharded workerCount past p) _
    (fun _ _ _ hp hkeeps => hp.step hkeeps) _ _ hstart h
  exact hsharded.affine

/-- A keepalive of the sample client under its first keys. -/
def sampleEarlyKeepalive (psk : Option Key) (counter : Nat) : Bytes :=
  (buildZeroMdhPacket samplePrimitives 100 sampleDraw (sampleInitialKeys psk) counter
    (buildInnerPacket .control 0 ControlPayload.keepalive.encode) none).1

/-- The sample client connects, and its keepalives with the counters 1 and 2 arrive from the given
ports. -/
def sampleMoving (first second : UInt16) : List (Env × Pool.Event) :=
  (sampleEnv 100, .arrive (sampleInit (some sampleClient.psk) 100) sampleAddr) ::
    List.replicate 15 (sampleEnv 100, .advance 0) ++
  (sampleEnv 100, .arrive (sampleEarlyKeepalive (some sampleClient.psk) 1)
      { sampleAddr with port := first }) ::
    List.replicate 4 (sampleEnv 100, .advance 1) ++
  (sampleEnv 100, .arrive (sampleEarlyKeepalive (some sampleClient.psk) 2)
      { sampleAddr with port := second }) ::
    List.replicate 4 (sampleEnv 100, .advance 2)

/-- The pool after that. -/
def sampleMoved (first second : UInt16) : Pool :=
  runFrom (Pool.step samplePrimitives sampleRandomness sampleConfig 16)
    (Pool.start (Gateway.new sampleServerKeys default (some [sampleClient])))
    (sampleMoving first second)

/-- After its keepalive from another port, the next one from there goes through another worker. -/
theorem migration_changes_worker : ¬ (sampleMoved 4001 4001).Affine := by
  have hfacts : .accepted 0 1 ∈ (sampleMoved 4001 4001).milestones ∧
      .accepted 0 2 ∈ (sampleMoved 4001 4001).milestones ∧
      ((sampleMoved 4001 4001).calls 1).worker ≠ ((sampleMoved 4001 4001).calls 2).worker := by
    decide +kernel
  intro h
  exact hfacts.2.2 (h.worker 0 1 2 hfacts.1 hfacts.2.1)

/-- A keepalive from the old port and one from another port both go through the worker of the
session. -/
theorem sampleMoved_affine : (sampleMoved 4000 4001).Affine :=
  affine_of_keepsWorker samplePrimitives sampleRandomness sampleConfig 16 sampleServerKeys default
    (some [sampleClient]) (sampleMoving 4000 4001) (by decide +kernel)

end Aivpn
