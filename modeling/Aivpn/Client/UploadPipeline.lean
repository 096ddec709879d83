import Aivpn.Client.AndroidTunnel

/-!
# The upload pipeline

`run_upload_loop` of `upload_pipeline.rs`, the loop that both clients run over their encryptors, and
`ZeroMdhEncryptor`. The loop is a state machine: other tasks put payloads into the channel or close
it, the keepalive timer comes due, and one run of the loop takes it from one `recv`, `try_recv` or
`tick` to the next, with the result of the send in between. `data_packet_count`, which nothing reads,
is left out.

The datagrams are handed to the sender in the order of the channel, with consecutive counters and
sequence numbers (`Inv.run`). `on_data_sent` is also called for a datagram that a transient error has
dropped, so that it counts the successful ones exactly as long as no data datagram meets such an error
(`accounts_iff`).
-/

set_option autoImplicit false

namespace Aivpn

open Aivpn.Lib

/-- The kinds of an `io::Error` that the pipeline tells apart. -/
inductive ErrorKind where
  | networkUnreachable
  | hostUnreachable
  | networkDown
  | addrNotAvailable
  | interrupted
  | other
deriving DecidableEq, Repr

/-- The result of `send_packet`. -/
abbrev SendResult := Except ErrorKind Unit

namespace UploadPipeline

/-- `is_transient_send_error`. -/
def isTransientSendError : ErrorKind → Bool
  | .networkUnreachable | .hostUnreachable | .networkDown | .addrNotAvailable | .interrupted => true
  | .other => false

/-- `send_tolerant`, from the result of `send_packet`. -/
def sendTolerant : SendResult → Except Error Unit
  | .ok _ => .ok ()
  | .error e => if isTransientSendError e then .ok () else .error .io

/-- The clock and the randomness of one encryption. -/
structure EncryptEnv where
  timeWindow : Nat
  draw : PacketRandomness

/-- The trait `PacketEncryptor`. -/
structure PacketEncryptor (σ : Type) where
  encryptData : EncryptEnv → Bytes → Action σ Error Bytes
  encryptKeepalive : EncryptEnv → Action σ Error Bytes
  onDataSent : Nat → σ → σ

/-- What a datagram carries. -/
inductive Job where
  | data (payload : Bytes)
  | keepalive
deriving DecidableEq, Repr

/-- A datagram that was handed to the sender, with what it carries and the result. -/
structure Handed where
  job : Job
  env : EncryptEnv
  datagram : Bytes
  result : SendResult

/-- Where the loop is: at the `select!`, in the burst with `left` turns to go, or back at the
caller. -/
inductive Place where
  | select
  | burst (left : Nat)
  | returned (e : Fault Error)
deriving DecidableEq, Repr

/-- The loop with its encryptor and channel. The last four fields are history: the payloads put into
the channel, the times the timer came due, the datagrams handed to the sender and the arguments of
`on_data_sent`, oldest first. -/
structure UploadLoop (σ : Type) where
  enc : σ
  queue : List Bytes
  closed : Bool
  due : Nat
  place : Place
  delivered : List Bytes
  ticks : Nat
  handed : List Handed
  reported : List Nat

/-- What happens: another task puts a payload into the channel or drops the last sender, the timer
comes due, or the loop runs to its next waiting point. -/
inductive Event where
  | deliver (payload : Bytes)
  | close
  | tick
  | run (env : EncryptEnv) (result : SendResult)

/-- The loop as it is entered, behind the first tick. -/
def start {σ : Type} (enc : σ) : UploadLoop σ := ⟨enc, [], false, 0, .select, [], 0, [], []⟩

section

variable {σ : Type} (E : PacketEncryptor σ) (burstSize : Nat)

/-- The return from the loop. -/
def UploadLoop.leave (e : Fault Error) (s : UploadLoop σ) : UploadLoop σ :=
  { s with place := .returned e }

/-- The datagram is handed to the sender. -/
def UploadLoop.hand (h : Handed) (s : UploadLoop σ) : UploadLoop σ :=
  { s with handed := s.handed ++ [h] }

/-- `encrypt_data`, the send, and `on_data_sent`; then the loop is at `next`. -/
def sendData (env : EncryptEnv) (result : SendResult) (payload : Bytes) (next : Place)
    (s : UploadLoop σ) : UploadLoop σ :=
  match E.encryptData env payload s.enc with
  | (.error e, enc) => { s with enc := enc }.leave e
  | (.ok encrypted, enc) =>
      let s := { s with enc := enc }.hand ⟨.data payload, env, encrypted, result⟩
      match sendTolerant result with
      | .error e => s.leave (.error e)
      | .ok _ => { s with
          enc := E.onDataSent payload.length s.enc
          reported := s.reported ++ [payload.length]
          place := next }

/-- The keepalive branch. -/
def sendKeepalive (env : EncryptEnv) (result : SendResult) (s : UploadLoop σ) : UploadLoop σ :=
  match E.encryptKeepalive env s.enc with
  | (.error e, enc) => { s with enc := enc }.leave e
  | (.ok encrypted, enc) =>
      let s := { s with enc := enc }.hand ⟨.keepalive, env, encrypted, result⟩
      match sendTolerant result with
      | .error e => s.leave (.error e)
      | .ok _ => s

/-- The error of a closed channel. -/
def channelClosed : Fault Error := .error (.channel "TUN->upload channel closed")

/-- The loop runs to its next waiting point. The `select!` is biased: a payload goes first, then the
end of the channel, then a tick. -/
def runLoop (env : EncryptEnv) (result : SendResult) (s : UploadLoop σ) : UploadLoop σ :=
  match s.place, s.queue with
  | .returned _, _ => s
  | .select, payload :: queue =>
      sendData E env result payload (.burst burstSize) { s with queue := queue }
  | .select, [] =>
      if s.closed then s.leave channelClosed
      else if 0 < s.due then sendKeepalive E env result { s with due := s.due - 1 }
      else s
  | .burst 0, _ => { s with place := .select }
  | .burst (left + 1), payload :: queue =>
      sendData E env result payload (.burst left) { s with queue := queue }
  | .burst (_ + 1), [] =>
      if s.closed then s.leave channelClosed else { s with place := .select }

/-- One step of the loop and the tasks around it. -/
def step (s : UploadLoop σ) : Event → UploadLoop σ
  | .deliver payload =>
      if s.closed then s
      else { s with queue := s.queue ++ [payload], delivered := s.delivered ++ [payload] }
  | .close => { s with closed := true }
  | .tick => { s with due := s.due + 1, ticks := s.ticks + 1 }
  | .run env result => runLoop E burstSize env result s

end

/-! ## The encryptor of the Android client -/

section

variable (P : Primitives)

/-- The inner packet of a job. -/
def Job.inner (seq : UInt16) : Job → Bytes
  | data payload => buildInnerPacket .data seq payload
  | keepalive => buildInnerPacket .control seq ControlPayload.keepalive.encode

/-- `ZeroMdhEncryptor::encrypt_data` and `encrypt_keepalive`. -/
def encryptZeroMdh (env : EncryptEnv) (job : Job) :
    Action AndroidTunnel.ZeroMdhEncryptor Error Bytes := Action.update fun enc =>
  let (packet, counter) :=
    buildZeroMdhPacket P env.timeWindow env.draw enc.keys enc.counter (job.inner enc.seq) none
  (packet, { enc with seq := enc.seq + 1, counter := counter })

/-- `impl PacketEncryptor for ZeroMdhEncryptor`. -/
def zeroMdhEncryptor : PacketEncryptor AndroidTunnel.ZeroMdhEncryptor where
  encryptData env payload := encryptZeroMdh P env (.data payload)
  encryptKeepalive env := encryptZeroMdh P env .keepalive
  onDataSent _ enc := enc

end

/-! ## What the loop is for -/

section

variable (P : Primitives)

/-- The payload of a data datagram. -/
def Handed.payload? (h : Handed) : Option Bytes :=
  match h.job with
  | .data payload => some payload
  | .keepalive => none

/-- The send of the datagram succeeded. -/
def Handed.succeeded (h : Handed) : Bool :=
  match h.result with
  | .ok _ => true
  | .error _ => false

/-- The counter of datagram number `i`. -/
def counterAt (counter : Nat) : Nat → Nat
  | 0 => counter
  | i + 1 => wrappingAdd (counterAt counter i) 1

/-- The sequence number of datagram number `i`. -/
def seqAt (seq : UInt16) : Nat → UInt16
  | 0 => seq
  | i + 1 => seqAt seq i + 1

/-- The datagram of a job that is number `i` of an encryptor. -/
def encryption (enc : AndroidTunnel.ZeroMdhEncryptor) (i : Nat) (env : EncryptEnv) (job : Job) :
    Bytes :=
  (buildZeroMdhPacket P env.timeWindow env.draw enc.keys (counterAt enc.counter i)
    (job.inner (seqAt enc.seq i)) none).1

/-- The datagrams handed to the sender are the encryptions, under consecutive counters and sequence
numbers, of the payloads taken from the channel and of the keepalives, each one once and in order. -/
structure InOrder (enc : AndroidTunnel.ZeroMdhEncryptor)
    (s : UploadLoop AndroidTunnel.ZeroMdhEncryptor) : Prop where
  datagrams : ∀ i h, s.handed[i]? = some h → h.datagram = encryption P enc i h.env h.job
  payloads : s.delivered = s.handed.filterMap Handed.payload? ++ s.queue
  keepalives : s.ticks = s.handed.countP (·.job = .keepalive) + s.due

/-- `on_data_sent` was called for the data datagrams whose send succeeded, and for no other one. -/
def Accounted {σ : Type} (s : UploadLoop σ) : Prop :=
  s.reported = ((s.handed.filter Handed.succeeded).filterMap Handed.payload?).map List.length

instance {σ : Type} (s : UploadLoop σ) : Decidable (Accounted s) :=
  inferInstanceAs (Decidable (_ = _))

/-- The loop is about to send a data datagram. -/
def SendsData {σ : Type} (s : UploadLoop σ) : Prop :=
  s.queue ≠ [] ∧ (s.place = .select ∨ ∃ left, s.place = .burst (left + 1))

/-- The step does not drop a data datagram for a transient error. -/
def KeepsData {σ : Type} (s : UploadLoop σ) : Event → Prop
  | .run _ (.error e) => isTransientSendError e = true → ¬ SendsData s
  | _ => True

end

/-! ## Steps -/

section

variable (P : Primitives) (burstSize : Nat)

/-- The loop goes on behind the send. -/
def tolerated (result : SendResult) : Bool := (sendTolerant result).isOk

/-- The encryptor behind one datagram. -/
def advanced (enc : AndroidTunnel.ZeroMdhEncryptor) : AndroidTunnel.ZeroMdhEncryptor :=
  { enc with seq := enc.seq + 1, counter := wrappingAdd enc.counter 1 }

/-- The loop with one more datagram, that of `job`. -/
def sealed (env : EncryptEnv) (result : SendResult) (job : Job)
    (s : UploadLoop AndroidTunnel.ZeroMdhEncryptor) : UploadLoop AndroidTunnel.ZeroMdhEncryptor :=
  { s with enc := advanced s.enc }.hand ⟨job, env, encryption P s.enc 0 env job, result⟩

variable {P burstSize} {env : EncryptEnv} {result : SendResult}
  {s : UploadLoop AndroidTunnel.ZeroMdhEncryptor}

theorem not_sendsData_of_nil (h : s.queue = []) : ¬ SendsData s := fun hsends => hsends.1 h

/-- A data datagram is handed on, and `on_data_sent` called if the loop goes on. -/
theorem sendData_zeroMdh (payload : Bytes) (next : Place) :
    ∃ place, sendData (zeroMdhEncryptor P) env result payload next s =
      { sealed P env result (.data payload) s with
        reported := if tolerated result then s.reported ++ [payload.length] else s.reported
        place := place } := by
  unfold sendData tolerated
  cases hsend : sendTolerant result with
  | ok u => exact ⟨next, rfl⟩
  | error e => exact ⟨.returned (.error e), rfl⟩

theorem sendKeepalive_zeroMdh :
    ∃ place, sendKeepalive (zeroMdhEncryptor P) env result s =
      { sealed P env result .keepalive s with place := place } := by
  unfold sendKeepalive
  cases hsend : sendTolerant result with
  | ok u => exact ⟨s.place, rfl⟩
  | error e => exact ⟨.returned (.error e), rfl⟩

/-- What a run of the loop does: it only moves, it sends a keepalive when no payload waits, or it
sends the first payload of the channel. -/
theorem runLoop_cases (env : EncryptEnv) (result : SendResult)
    (s : UploadLoop AndroidTunnel.ZeroMdhEncryptor) :
    (¬ SendsData s ∧ ∃ place,
      runLoop (zeroMdhEncryptor P) burstSize env result s = { s with place := place }) ∨
    (¬ SendsData s ∧ 0 < s.due ∧ ∃ place,
      runLoop (zeroMdhEncryptor P) burstSize env result s =
        { sealed P env result .keepalive s with due := s.due - 1, place := place }) ∨
    (SendsData s ∧ ∃ payload queue place, s.queue = payload :: queue ∧
      runLoop (zeroMdhEncryptor P) burstSize env result s =
        { sealed P env result (.data payload) s with
          queue := queue
          reported := if tolerated result then s.reported ++ [payload.length] else s.reported
          place := place }) := by
  obtain ⟨enc, queue, closed, due, place, delivered, ticks, handed, reported⟩ := s
  cases place with
  | returned e =>
      refine Or.inl ⟨?_, .returned e, rfl⟩
      rintro ⟨-, hplace | ⟨left, hplace⟩⟩ <;> cases hplace
  | select =>
      cases queue with
      | nil =>
          by_cases hclosed : closed = true
          · exact Or.inl ⟨not_sendsData_of_nil rfl, .returned channelClosed, if_pos hclosed⟩
          by_cases hdue : 0 < due
          · obtain ⟨place, hplace⟩ := @sendKeepalive_zeroMdh P env result
              ⟨enc, [], closed, due - 1, .select, delivered, ticks, handed, reported⟩
            refine Or.inr (Or.inl ⟨not_sendsData_of_nil rfl, hdue, place, ?_⟩)
            exact ((if_neg hclosed).trans (if_pos hdue)).trans hplace
          · refine Or.inl ⟨not_sendsData_of_nil rfl, .select, ?_⟩
            exact (if_neg hclosed).trans (if_neg hdue)
      | cons payload queue =>
          obtain ⟨place, hplace⟩ := @sendData_zeroMdh P env result
            ⟨enc, queue, closed, due, .select, delivered, ticks, handed, reported⟩ payload
            (.burst burstSize)
          exact Or.inr (Or.inr ⟨⟨by simp, Or.inl rfl⟩, payload, queue, place, rfl, hplace⟩)
  | burst left =>
      cases left with
      | zero =>
          refine Or.inl ⟨?_, .select, rfl⟩
          rintro ⟨-, hplace | ⟨left, hplace⟩⟩ <;> cases hplace
      | succ left =>
          cases queue with
          | nil =>
              by_cases hclosed : closed = true
              · exact Or.inl ⟨not_sendsData_of_nil rfl, .returned channelClosed, if_pos hclosed⟩
              · exact Or.inl ⟨not_sendsData_of_nil rfl, .select, if_neg hclosed⟩
          | cons payload queue =>
              obtain ⟨place, hplace⟩ := @sendData_zeroMdh P env result
                ⟨enc, queue, closed, due, .burst (left + 1), delivered, ticks, handed, reported⟩
                payload (.burst left)
              exact Or.inr (Or.inr ⟨⟨by simp, Or.inr ⟨left, rfl⟩⟩, payload, queue, place, rfl,
                hplace⟩)

/-! ## Runs -/

/-- A data datagram that was dropped for a transient error. -/
def DroppedData (h : Handed) : Prop :=
  h.payload?.isSome ∧ tolerated h.result = true ∧ h.succeeded = false

variable {enc : AndroidTunnel.ZeroMdhEncryptor}

/-- The state of the loop: what was handed on is in order, the encryptor has come as far, and
`on_data_sent` was called wherever the loop went on. -/
structure Inv (P : Primitives) (enc : AndroidTunnel.ZeroMdhEncryptor)
    (s : UploadLoop AndroidTunnel.ZeroMdhEncryptor) : Prop extends InOrder P enc s where
  encryptor : s.enc = ⟨enc.keys, counterAt enc.counter s.handed.length,
    seqAt enc.seq s.handed.length⟩
  reported : s.reported =
    ((s.handed.filter fun h => tolerated h.result).filterMap Handed.payload?).map List.length

theorem inv_start (P : Primitives) (enc : AndroidTunnel.ZeroMdhEncryptor) :
    Inv P enc (start enc) where
  datagrams i h hi := by simp [start] at hi
  payloads := rfl
  keepalives := rfl
  encryptor := rfl
  reported := rfl

/-- The datagram of the current encryptor is the one that is due. -/
theorem Inv.encryption_zero (h : Inv P enc s) (env : EncryptEnv) (job : Job) :
    encryption P s.enc 0 env job = encryption P enc s.handed.length env job := by
  rw [h.encryptor]
  rfl

/-- One more datagram keeps the order and the encryptor. -/
theorem Inv.sealed_datagrams (h : Inv P enc s) (env : EncryptEnv) (result : SendResult) (job : Job)
    (i : Nat) (h' : Handed) (hi : (sealed P env result job s).handed[i]? = some h') :
    h'.datagram = encryption P enc i h'.env h'.job := by
  change (s.handed ++ [_])[i]? = some h' at hi
  by_cases hlt : i < s.handed.length
  · rw [List.getElem?_append_left hlt] at hi
    exact h.datagrams i h' hi
  · rw [List.getElem?_append_right (not_lt.1 hlt), List.getElem?_singleton] at hi
    split_ifs at hi with hzero
    obtain rfl : i = s.handed.length := by omega
    cases hi
    exact h.encryption_zero env job

theorem Inv.sealed_encryptor (h : Inv P enc s) (env : EncryptEnv) (result : SendResult)
    (job : Job) : (sealed P env result job s).enc =
      ⟨enc.keys, counterAt enc.counter (sealed P env result job s).handed.length,
        seqAt enc.seq (sealed P env result job s).handed.length⟩ := by
  have hlen : (sealed P env result job s).handed.length = s.handed.length + 1 := by
    simp [sealed, UploadLoop.hand]
  have henc : (sealed P env result job s).enc = advanced s.enc := rfl
  rw [hlen, henc, h.encryptor]
  rfl

/-- A run of the loop keeps the state. -/
theorem Inv.runLoop (h : Inv P enc s) (env : EncryptEnv) (result : SendResult) :
    Inv P enc (runLoop (zeroMdhEncryptor P) burstSize env result s) := by
  rcases @runLoop_cases P burstSize env result s with
    ⟨-, place, heq⟩ | ⟨-, hdue, place, heq⟩ | ⟨-, payload, queue, place, hqueue, heq⟩
  · rw [heq]
    exact ⟨⟨h.datagrams, h.payloads, h.keepalives⟩, h.encryptor, h.reported⟩
  · rw [heq]
    refine ⟨⟨h.sealed_datagrams env result .keepalive, ?_, ?_⟩,
      h.sealed_encryptor env result .keepalive, ?_⟩
    · simp [sealed, UploadLoop.hand, h.payloads, Handed.payload?]
    · have hticks := h.keepalives
      simp only [sealed, UploadLoop.hand, List.countP_append, List.countP_singleton, decide_true,
        if_true]
      omega
    · simp only [sealed, UploadLoop.hand, h.reported, List.filter_append, List.filterMap_append,
        List.map_append]
      cases htolerated : tolerated result <;> simp [htolerated, Handed.payload?]
  · rw [heq]
    refine ⟨⟨h.sealed_datagrams env result (.data payload), ?_, ?_⟩,
      h.sealed_encryptor env result (.data payload), ?_⟩
    · simp [sealed, UploadLoop.hand, h.payloads, hqueue, Handed.payload?]
    · have hticks := h.keepalives
      simp [sealed, UploadLoop.hand, hticks]
    · simp only [sealed, UploadLoop.hand, h.reported, List.filter_append, List.filterMap_append,
        List.map_append]
      split_ifs with htolerated <;> simp [htolerated, Handed.payload?]

/-- One step keeps the state. -/
theorem Inv.step (h : Inv P enc s) (e : Event) :
    Inv P enc (step (zeroMdhEncryptor P) burstSize s e) := by
  cases e with
  | deliver payload =>
      unfold UploadPipeline.step
      simp only
      split_ifs
      · exact h
      · refine ⟨⟨h.datagrams, ?_, h.keepalives⟩, h.encryptor, h.reported⟩
        simp [h.payloads]
  | close => exact ⟨⟨h.datagrams, h.payloads, h.keepalives⟩, h.encryptor, h.reported⟩
  | tick =>
      refine ⟨⟨h.datagrams, h.payloads, ?_⟩, h.encryptor, h.reported⟩
      have hticks := h.keepalives
      simp only [UploadPipeline.step]
      omega
  | run env result => exact h.runLoop env result

theorem inv_run (P : Primitives) (burstSize : Nat) (enc : AndroidTunnel.ZeroMdhEncryptor)
    (es : List Event) :
    Inv P enc (runFrom (UploadPipeline.step (zeroMdhEncryptor P) burstSize) (start enc) es) :=
  runFrom_invariant (fun _ e h => h.step e) (inv_start P enc) es

/-! ## The calls of `on_data_sent` -/

theorem tolerated_of_succeeded {h : Handed} (hs : h.succeeded = true) :
    tolerated h.result = true := by
  obtain ⟨job, env, datagram, result⟩ := h
  cases result with
  | ok u => rfl
  | error e => cases hs

/-- A stronger condition counts as much only where it agrees. -/
theorem imp_of_countP_eq {α : Type} {p q : α → Bool} (hqp : ∀ a, q a = true → p a = true)
    {l : List α} (h : l.countP p = l.countP q) : ∀ a ∈ l, p a = true → q a = true := by
  induction l with
  | nil => exact fun a ha => absurd ha List.not_mem_nil
  | cons b l ih =>
      have hle : l.countP q ≤ l.countP p := List.countP_mono_left fun a _ => hqp a
      rw [List.countP_cons, List.countP_cons] at h
      cases hp : p b with
      | false =>
          have hq : q b = false := by
            cases hq : q b with
            | false => rfl
            | true =>
                rw [hqp b hq] at hp
                cases hp
          simp only [hp, hq, Bool.false_eq_true, if_false, Nat.add_zero] at h
          intro a ha hpa
          rcases List.mem_cons.1 ha with rfl | hmem
          · rw [hp] at hpa
            cases hpa
          · exact ih h a hmem hpa
      | true =>
          cases hq : q b with
          | false =>
              simp only [hp, hq, Bool.false_eq_true, if_false, if_true] at h
              omega
          | true =>
              simp only [hp, hq, if_true, Nat.add_right_cancel_iff] at h
              intro a ha hpa
              rcases List.mem_cons.1 ha with rfl | hmem
              · exact hq
              · exact ih h a hmem hpa

/-- The calls are those of the successful sends exactly when no data datagram was dropped. -/
theorem Inv.accounted_iff (h : Inv P enc s) : Accounted s ↔ ∀ d ∈ s.handed, ¬ DroppedData d := by
  have hcount : ∀ p : Handed → Bool,
      (((s.handed.filter p).filterMap Handed.payload?).map List.length).length =
        s.handed.countP fun d => d.payload?.isSome && p d := by
    intro p
    rw [List.length_map, List.length_filterMap_eq_countP, List.countP_filter]
  unfold Accounted
  rw [h.reported]
  constructor
  · intro heq d hd hdropped
    have hlen := congrArg List.length heq
    rw [hcount, hcount] at hlen
    have hsucceeded := imp_of_countP_eq (fun a ha => by
      simp only [Bool.and_eq_true] at ha ⊢
      exact ⟨ha.1, tolerated_of_succeeded ha.2⟩) hlen d hd (by simp [hdropped.1, hdropped.2.1])
    simp [hdropped.2.2] at hsucceeded
  · intro hnone
    rw [List.filterMap_filter, List.filterMap_filter]
    congr 1
    apply List.filterMap_congr
    intro d hd
    -- a datagram that carries data and was tolerated was a success
    cases hp : d.payload? with
    | none => simp
    | some payload =>
        have hiff : tolerated d.result = d.succeeded := by
          have hd' := hnone d hd
          simp only [DroppedData, hp, Option.isSome_some, true_and, not_and,
            Bool.not_eq_false] at hd'
          exact Bool.eq_iff_iff.2 ⟨hd', tolerated_of_succeeded⟩
        rw [hiff]

theorem forall_mem_concat {α : Type} {p : α → Prop} {l : List α} {a : α} :
    (∀ x ∈ l ++ [a], p x) ↔ (∀ x ∈ l, p x) ∧ p a := by
  simp [or_imp, forall_and]

/-- A send with this result drops the datagram. -/
theorem droppedData_iff (payload : Bytes) (env : EncryptEnv) (datagram : Bytes)
    (result : SendResult) : DroppedData ⟨.data payload, env, datagram, result⟩ ↔
      ∃ e, result = .error e ∧ isTransientSendError e = true := by
  unfold DroppedData tolerated sendTolerant Handed.succeeded
  cases result with
  | ok u => simp
  | error e =>
      cases htransient : isTransientSendError e <;>
        simp [htransient, Handed.payload?, Except.isOk, Except.toBool]

/-- One step drops a data datagram exactly when it does not keep the data. -/
theorem dropped_step (s : UploadLoop AndroidTunnel.ZeroMdhEncryptor) (e : Event) :
    (∀ d ∈ (UploadPipeline.step (zeroMdhEncryptor P) burstSize s e).handed, ¬ DroppedData d) ↔
      (∀ d ∈ s.handed, ¬ DroppedData d) ∧ KeepsData s e := by
  cases e with
  | deliver payload =>
      unfold UploadPipeline.step
      simp only
      split_ifs <;> exact (and_iff_left trivial).symm
  | close => exact (and_iff_left trivial).symm
  | tick => exact (and_iff_left trivial).symm
  | run env result =>
      have hkeeps : KeepsData s (.run env result) ↔
          ∀ e, result = .error e → isTransientSendError e = true → ¬ SendsData s := by
        cases result with
        | ok u => exact ⟨fun _ => nofun, fun _ => trivial⟩
        | error e => exact ⟨fun h e' he => by cases he; exact h, fun h => h e rfl⟩
      show (∀ d ∈ (runLoop (zeroMdhEncryptor P) burstSize env result s).handed, _) ↔ _
      rw [hkeeps]
      rcases @runLoop_cases P burstSize env result s with
        ⟨hnot, place, heq⟩ | ⟨hnot, -, place, heq⟩ | ⟨hsends, payload, queue, place, -, heq⟩
      · rw [heq]
        exact (and_iff_left fun _ _ _ => hnot).symm
      · rw [heq]
        show (∀ d ∈ s.handed ++ [_], ¬ DroppedData d) ↔ _
        rw [forall_mem_concat]
        have hkeepalive : ¬ DroppedData ⟨.keepalive, env, encryption P s.enc 0 env .keepalive,
            result⟩ := fun h => by simp [DroppedData, Handed.payload?] at h
        exact ⟨fun h => ⟨h.1, fun _ _ _ => hnot⟩, fun h => ⟨h.1, hkeepalive⟩⟩
      · rw [heq]
        show (∀ d ∈ s.handed ++ [_], ¬ DroppedData d) ↔ _
        rw [forall_mem_concat, droppedData_iff]
        refine and_congr_right fun _ => ⟨?_, ?_⟩
        · exact fun hnone e he htransient => absurd ⟨e, he, htransient⟩ hnone
        · rintro hkeep ⟨e, he, htransient⟩
          exact hkeep e he htransient hsends

theorem dropped_run (s : UploadLoop AndroidTunnel.ZeroMdhEncryptor) (es : List Event) :
    (∀ d ∈ (runFrom (UploadPipeline.step (zeroMdhEncryptor P) burstSize) s es).handed,
        ¬ DroppedData d) ↔
      (∀ d ∈ s.handed, ¬ DroppedData d) ∧
        Along (UploadPipeline.step (zeroMdhEncryptor P) burstSize) KeepsData s es := by
  induction es generalizing s with
  | nil => exact (and_iff_left trivial).symm
  | cons e es ih =>
      show (∀ d ∈ (runFrom _ (UploadPipeline.step _ burstSize s e) es).handed, _) ↔ _
      rw [ih, dropped_step, and_assoc]
      rfl

end

/-- In every run the datagrams go out in order, and `on_data_sent` is called for the data datagrams
whose send succeeded exactly when no data datagram is dropped for a transient error. -/
theorem accounts_iff (P : Primitives) (burstSize : Nat) (enc : AndroidTunnel.ZeroMdhEncryptor)
    (es : List Event) :
    let s := runFrom (step (zeroMdhEncryptor P) burstSize) (start enc) es
    (InOrder P enc s ∧ Accounted s) ↔
      Along (step (zeroMdhEncryptor P) burstSize) KeepsData (start enc) es := by
  intro s
  have hinv : Inv P enc s := inv_run P burstSize enc es
  have hnone : ∀ d ∈ (start enc).handed, ¬ DroppedData d := fun d hd => absurd hd List.not_mem_nil
  rw [and_iff_right hinv.toInOrder, hinv.accounted_iff]
  exact (dropped_run (start enc) es).trans (and_iff_right hnone)

/-- An encryptor for a run. -/
def sampleEncryptor : AndroidTunnel.ZeroMdhEncryptor :=
  ⟨⟨ByteArr.replicate 32 1, ByteArr.replicate 32 2, ByteArr.replicate 32 3⟩, 0, 0⟩

/-- The clock and the randomness of the run. -/
def sampleEncryptEnv : EncryptEnv := ⟨100, ⟨0, 0, fun _ => 0⟩⟩

/-- The network goes away while a payload is sent: it is lost, and counted as sent. -/
theorem not_accounts_dropped :
    ¬ (let s := runFrom (step (zeroMdhEncryptor samplePrimitives) 255) (start sampleEncryptor)
        [.deliver [0x45], .run sampleEncryptEnv (.error .networkUnreachable)]
      InOrder samplePrimitives sampleEncryptor s ∧ Accounted s) := by
  rintro ⟨-, haccounted⟩
  exact absurd haccounted (by decide)

end UploadPipeline

end Aivpn
