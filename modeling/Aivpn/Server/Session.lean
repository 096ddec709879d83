import Aivpn.Common.Protocol
import Aivpn.Lib.WideBits

/-!
# A server session

`Session` of `session.rs` with the operations on it: the receive bitmap, the precomputed tag
windows, tag validation, and the completion of the key ratchet. Wall-clock time enters as the
time window `tw` that `compute_time_window(current_timestamp_ms(), DEFAULT_WINDOW_MS)` returns
at the call; monotonic time is in milliseconds.

The traffic-shaping fields (mask, state machine) are left out: no operation modelled here reads
them. `accepted` and `recoveredFrom` are history variables: the counters passed to
`mark_tag_received` since the session was created or last ratcheted, and the counters the session
had when a recovery moved it. The source does not store them and no operation reads them.
-/

set_option autoImplicit false

namespace Aivpn

open Aivpn.Lib

/-! ## Addresses -/

/-- `Ipv4Addr`. -/
structure Ipv4Addr where
  a : UInt8
  b : UInt8
  c : UInt8
  d : UInt8
deriving DecidableEq, Repr, Inhabited

/-- `IpAddr`. -/
inductive IpAddr where
  | v4 (ip : Ipv4Addr)
  | v6 (octets : ByteArr 16)
deriving DecidableEq, Repr, Inhabited

/-- `SocketAddr`. -/
structure SocketAddr where
  ip : IpAddr
  port : UInt16
deriving DecidableEq, Repr, Inhabited

/-! ## The receive bitmap -/

/-- `u256`: a bitmap of 256 bits in two 128-bit words. -/
abbrev U256 := WideBits 128

namespace U256

/-- `u256::set_bit`. -/
def setBit (b : U256) (bit : Nat) : U256 :=
  if bit < 128 then { b with lo := b.lo ||| (1#128 <<< bit) }
  else { b with hi := b.hi ||| (1#128 <<< (bit - 128)) }

/-- `u256::clear`. -/
def clear : U256 := ⟨0#128, 0#128⟩

/-- `u256::shift_left`. -/
def shiftLeft (b : U256) (shift : Nat) : U256 :=
  if shift = 0 then b
  else if 256 ≤ shift then clear
  else if 128 ≤ shift then { lo := 0#128, hi := b.lo <<< (shift - 128) }
  else { lo := b.lo <<< shift, hi := (b.hi <<< shift) ||| (b.lo >>> (128 - shift)) }

/-- `u256::get_bit`. -/
def getBit (b : U256) (bit : Nat) : Bool :=
  if bit < 128 then b.lo &&& (1#128 <<< bit) != 0#128
  else b.hi &&& (1#128 <<< (bit - 128)) != 0#128

theorem and_one_shiftLeft_ne_zero (x : BitVec 128) {i : Nat} (hi : i < 128) :
    (x &&& (1#128 <<< i) != 0#128) = x.getLsbD i := by
  rw [← BitVec.twoPow_eq, BitVec.and_twoPow]
  cases hx : x.getLsbD i with
  | false => simp
  | true =>
      have hne : BitVec.twoPow 128 i ≠ 0#128 := by
        intro h0
        have hbit := BitVec.getLsbD_twoPow (w := 128) i i
        rw [h0] at hbit
        simp [hi] at hbit
      simp [hne]

theorem getBit_eq_test (b : U256) {i : Nat} (hi : i < 256) : getBit b i = b.test i := by
  by_cases h : i < 128
  · simp only [getBit, WideBits.test, h, if_true, and_one_shiftLeft_ne_zero _ h]
  · simp only [getBit, WideBits.test, h, if_false,
      and_one_shiftLeft_ne_zero _ (show i - 128 < 128 by omega)]

theorem setBit_eq_setAt (b : U256) (i : Nat) : setBit b i = b.setAt i := rfl

theorem shiftLeft_eq_shl (b : U256) (k : Nat) : shiftLeft b k = b.shl k := by
  unfold shiftLeft WideBits.shl
  by_cases h0 : k = 0
  · subst h0
    have hlo : b.lo >>> 128 = 0#128 := by
      apply BitVec.eq_of_getLsbD_eq
      intro i hi
      simp
    simp [hlo]
  · simp only [h0, if_false]
    rfl

end U256

/-! ## Sessions -/

/-- `MAX_SESSIONS`. -/
def maxSessions : Nat := 500

/-- `IDLE_TIMEOUT` in milliseconds. -/
def idleTimeout : Nat := 300 * 1000

/-- `HARD_TIMEOUT` in milliseconds. -/
def hardTimeout : Nat := 24 * 3600 * 1000

/-- `TAG_WINDOW_SIZE`. -/
def tagWindowSize : Nat := 256

/-- A session id. The source draws 16 random bytes; here the sessions ever created are numbered,
so that no two of them share an id. -/
abbrev SessionId := Nat

/-- `Session`. -/
structure Session where
  sessionId : SessionId
  clientAddr : SocketAddr
  keys : SessionKeys
  ephPub : Key
  counter : Nat
  lastSeen : Nat
  createdAt : Nat
  sendSeq : Nat
  sendCounter : Nat
  expectedTags : List (Nat × Tag)
  tagWindowBase : Nat
  receivedBitmap : U256
  pendingBytesIn : Nat
  serverEphPub : Option Key
  serverHelloSignature : Option (ByteArr 64)
  ratchetedKeys : Option SessionKeys
  ratchetedExpectedTags : List (Nat × Tag)
  isRatcheted : Bool
  vpnIp : Option Ipv4Addr
  clientId : Option String
  accepted : List Nat
  recoveredFrom : List Nat

namespace Session

/-- `Session::new`. -/
def new (now : Nat) (sessionId : SessionId) (clientAddr : SocketAddr) (keys : SessionKeys)
    (ephPub : Key) : Session where
  sessionId := sessionId
  clientAddr := clientAddr
  keys := keys
  ephPub := ephPub
  counter := 0
  lastSeen := now
  createdAt := now
  sendSeq := 0
  sendCounter := 0
  expectedTags := []
  tagWindowBase := 0
  receivedBitmap := U256.clear
  pendingBytesIn := 0
  serverEphPub := none
  serverHelloSignature := none
  ratchetedKeys := none
  ratchetedExpectedTags := []
  isRatcheted := false
  vpnIp := none
  clientId := none
  accepted := []
  recoveredFrom := []

instance : Inhabited Session := ⟨new 0 0 default default default⟩

/-- `Session::next_send_nonce`: the nonce and counter for the next packet. -/
def nextSendNonce (s : Session) : Nonce × Nat × Session :=
  (counterToNonce s.sendCounter, s.sendCounter,
    { s with sendCounter := wrappingAdd s.sendCounter 1 })

/-- `Session::next_seq`. -/
def nextSeq (s : Session) : Nat × Session :=
  (s.sendSeq, { s with sendSeq := (s.sendSeq + 1) % 2 ^ 32 })

/-- The counters `window_start..=window_end` around the highest received counter. -/
def windowCounters (s : Session) : List Nat :=
  let windowStart := s.counter - (tagWindowSize - 1)
  let windowEnd := saturatingAdd s.counter (tagWindowSize - 1)
  List.range' windowStart (windowEnd + 1 - windowStart)

section

variable (P : Primitives)

/-- `Session::update_tag_window` in time window `tw`. -/
def updateTagWindow (tw : Nat) (s : Session) : Session :=
  { s with
    tagWindowBase := s.counter
    expectedTags := s.windowCounters.map fun counterVal =>
      (counterVal, P.generateResonanceTag s.keys.tagSecret counterVal tw) }

/-- `Session::update_ratcheted_tag_window` in time window `tw`. -/
def updateRatchetedTagWindow (tw : Nat) (s : Session) : Session :=
  match s.ratchetedKeys with
  | some ratchetedKeys =>
      { s with
        ratchetedExpectedTags := (List.range tagWindowSize).map fun i =>
          (i, P.generateResonanceTag ratchetedKeys.tagSecret i tw) }
  | none => s

/-- The closure `is_replay` of `validate_tag`. -/
def isReplay (s : Session) (counterVal : Nat) : Bool :=
  if counterVal > s.counter then false
  else decide (s.counter - counterVal < tagWindowSize) &&
    s.receivedBitmap.getBit (s.counter - counterVal)

/-- The first counter of `counters` whose tag in a window adjacent to `tw` is `tag`. -/
def adjacentMatch (tagSecret : Key) (tw : Nat) (counters : List Nat) (tag : Tag) : Option Nat :=
  (adjacentWindows tw).findSome? fun twOffset =>
    counters.find? fun counterVal => P.generateResonanceTag tagSecret counterVal twOffset = tag

/-- The part of `validate_tag` that looks at the ratcheted keys. -/
def validateRatchetedTag (tw : Nat) (s : Session) (tag : Tag) : Option (Nat × Bool) :=
  if s.isRatcheted then none
  else match s.ratchetedExpectedTags.find? fun e => e.2 = tag with
    | some (counter, _) => some (counter, true)
    | none => match s.ratchetedKeys with
      | none => none
      | some ratchetedKeys =>
          (adjacentMatch P ratchetedKeys.tagSecret tw (List.range tagWindowSize) tag).map
            fun i => (i, true)

/-- `Session::validate_tag` in time window `tw`. -/
def validateTag (tw : Nat) (s : Session) (tag : Tag) : Option (Nat × Bool) :=
  match s.expectedTags.find? fun e => e.2 = tag with
  | some (counter, _) => if s.isReplay counter then none else some (counter, false)
  | none => match adjacentMatch P s.keys.tagSecret tw s.windowCounters tag with
    | some counterVal => if s.isReplay counterVal then none else some (counterVal, false)
    | none => validateRatchetedTag P tw s tag

end

/-- `Session::mark_tag_received`. -/
def markTagReceived (s : Session) (counter : Nat) : Session :=
  let s := { s with accepted := counter :: s.accepted }
  if counter > s.counter then
    { s with
      receivedBitmap := (s.receivedBitmap.shiftLeft (counter - s.counter)).setBit 0
      counter := counter }
  else if s.counter - counter < 256 then
    { s with receivedBitmap := s.receivedBitmap.setBit (s.counter - counter) }
  else s

/-- `Session::complete_ratchet`. -/
def completeRatchet (s : Session) : Session :=
  match s.ratchetedKeys with
  | some ratchetedKeys =>
      { s with
        ratchetedKeys := none
        keys := ratchetedKeys
        counter := 0
        sendCounter := 0
        tagWindowBase := 0
        expectedTags := s.ratchetedExpectedTags
        ratchetedExpectedTags := []
        receivedBitmap := U256.clear
        pendingBytesIn := 0
        isRatcheted := true
        serverEphPub := none
        serverHelloSignature := none
        accepted := [] }
  | none => s

/-- The test with which `handle_packet` decides to rebuild the tag window after accepting
`counter`. -/
def needsRefresh (s : Session) (counter : Nat) : Bool := decide (64 ≤ counter - s.tagWindowBase)

/-- The receive state after `handle_packet` accepts `counter`: the counter is marked, and the tag
window is rebuilt when the counter has moved far enough. -/
def acceptCounter (P : Primitives) (tw : Nat) (s : Session) (counter : Nat) : Session :=
  let s := s.markTagReceived counter
  if s.needsRefresh counter then s.updateTagWindow P tw else s

/-- `Session::is_idle`. -/
def isIdle (now : Nat) (s : Session) : Bool := decide (idleTimeout < now - s.lastSeen)

/-- `Session::is_expired`. -/
def isExpired (now : Nat) (s : Session) : Bool := decide (hardTimeout < now - s.createdAt)

/-! ## Counter recovery -/

/-- `RECOVERY_RANGE`. -/
def recoveryRange : Nat := 65536

/-- The search of `recover_session_by_tag` in one session: the counters from the session's own
counter on, in the current time window and then in the two adjacent ones. -/
def recoverySearch (P : Primitives) (tw : Nat) (s : Session) (tag : Tag) : Option Nat :=
  [tw, wrappingPred tw, wrappingAdd tw 1].findSome? fun twOffset =>
    ((List.range' 0 recoveryRange).find? fun i =>
      P.generateResonanceTag s.keys.tagSecret (wrappingAdd s.counter i) twOffset = tag).map
        fun i => wrappingAdd s.counter i

/-- What `recover_session_by_tag` does to the session it recovers. -/
def recoverAt (P : Primitives) (tw : Nat) (s : Session) (counter : Nat) : Session :=
  ({ s with counter := counter, recoveredFrom := s.counter :: s.recoveredFrom } :
    Session).updateTagWindow P tw

end Session

end Aivpn
