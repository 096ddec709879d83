import Aivpn.Lib.Runs
import Mathlib.Data.Rat.Defs
import Mathlib.Algebra.Order.Ring.Rat
import Mathlib.Algebra.Field.Rat
import Mathlib.Tactic.Linarith
import Mathlib.Tactic.Ring

/-!
# Traffic accounting of the admin panel

Every ten seconds `traffic_collector` reads the counters of a client and adds what has come on top
since the last poll to `data_usage` in the database. The last reading is kept in the process and
moves on before the commit, so that the increment of a poll whose commit fails is forgotten.

Once a later poll commits, the usage is short of it: the usage telescopes along exactly those runs in
which nothing was read on a poll that failed before one that committed (`usage_telescopes_iff`).
-/

set_option autoImplicit false

namespace Aivpn

open Aivpn.Lib

/-- The counters of a client, in bytes: `in` and `out` of the collector. -/
structure Reading where
  bytesIn : ℚ
  bytesOut : ℚ
  nonneg_in : 0 ≤ bytesIn
  nonneg_out : 0 ≤ bytesOut

/-- Both counters together. -/
def Reading.total (r : Reading) : ℚ := r.bytesIn + r.bytesOut

/-- A poll that reaches the row of the client, and whether its commit succeeds. -/
structure Poll where
  reading : Reading
  commits : Bool

/-- What the process and the database know about one registered client. The usage is in gigabytes; the
database holds what has been committed. -/
structure Collector where
  lastTrafficState : Option Reading
  liveClientTraffic : Option ℚ
  dataUsage : ℚ
  snapshots : List (ℚ × ℚ)

namespace Collector

/-- The bytes of a gigabyte. -/
def gigabyte : ℚ := 1024 ^ 3

/-- The difference to the previous counter, or the counter itself when it has restarted. -/
def delta (prev cur : ℚ) : ℚ := if cur - prev < 0 then cur else cur - prev

/-- The row of the client in one poll of `traffic_collector`. -/
def poll (s : Collector) (p : Poll) : Collector :=
  -- a client that is seen for the first time starts from its own reading
  let prev := s.lastTrafficState.getD p.reading
  let deltaIn := delta prev.bytesIn p.reading.bytesIn
  let deltaOut := delta prev.bytesOut p.reading.bytesOut
  let totalDeltaGb := (deltaIn + deltaOut) / gigabyte
  let s := { s with lastTrafficState := some p.reading }
  if 0 < totalDeltaGb then
    let dataUsage := s.dataUsage + totalDeltaGb
    let s := { s with liveClientTraffic := some dataUsage }
    if p.commits then
      { s with dataUsage := dataUsage, snapshots := s.snapshots ++ [(deltaIn, deltaOut)] }
    else s
  else s

/-! ## What a poll adds -/

/-- The committed usage in bytes. -/
def usageBytes (s : Collector) : ℚ := s.dataUsage * gigabyte

/-- The bytes that a reading adds to the ones before. -/
def increment (s : Collector) (r : Reading) : ℚ :=
  delta ((s.lastTrafficState.getD r).bytesIn) r.bytesIn +
    delta ((s.lastTrafficState.getD r).bytesOut) r.bytesOut

theorem delta_nonneg (prev : ℚ) {cur : ℚ} (h : 0 ≤ cur) : 0 ≤ delta prev cur := by
  unfold delta
  split_ifs with hneg
  · exact h
  · exact not_lt.1 hneg

theorem increment_nonneg (s : Collector) (r : Reading) : 0 ≤ s.increment r :=
  add_nonneg (delta_nonneg _ r.nonneg_in) (delta_nonneg _ r.nonneg_out)

theorem gigabyte_pos : 0 < gigabyte := by
  unfold gigabyte
  norm_num

@[simp] theorem poll_lastTrafficState (s : Collector) (p : Poll) :
    (s.poll p).lastTrafficState = some p.reading := by
  unfold poll
  simp only
  split_ifs <;> rfl

/-- A poll commits its increment or nothing. -/
theorem usageBytes_poll (s : Collector) (p : Poll) :
    (s.poll p).usageBytes = s.usageBytes + if p.commits then s.increment p.reading else 0 := by
  have hgb := gigabyte_pos
  have hincrement : s.increment p.reading / gigabyte * gigabyte = s.increment p.reading :=
    div_mul_cancel₀ _ hgb.ne'
  unfold poll
  simp only
  change (if 0 < s.increment p.reading / gigabyte then _ else _ : Collector).usageBytes = _
  split_ifs with hpos hcommits hcommits
  · show (s.dataUsage + s.increment p.reading / gigabyte) * gigabyte = _
    rw [add_mul, hincrement]
    rfl
  · exact (add_zero _).symm
  · -- a poll that adds nothing has read no traffic
    have hzero : s.increment p.reading = 0 := by
      refine le_antisymm ?_ (increment_nonneg s p.reading)
      rw [← hincrement]
      exact mul_nonpos_of_nonpos_of_nonneg (not_lt.1 hpos) hgb.le
    rw [hzero]
    exact (add_zero _).symm
  · exact (add_zero _).symm

/-! ## Runs -/

/-- The state after the polls. -/
abbrev run (s : Collector) (polls : List Poll) : Collector := runFrom poll s polls

/-- The sum of the increments of the polls, whether they are committed or not. -/
def increments (s : Collector) : List Poll → ℚ
  | [] => 0
  | p :: polls => s.increment p.reading + increments (s.poll p) polls

/-- A poll loses nothing: it commits, or there was nothing new. -/
def Settles (s : Collector) (p : Poll) : Prop := p.commits = true ∨ s.increment p.reading = 0

theorem usageBytes_poll_of_settles {s : Collector} {p : Poll} (h : s.Settles p) :
    (s.poll p).usageBytes = s.usageBytes + s.increment p.reading := by
  rw [usageBytes_poll]
  split_ifs with hcommits
  · rfl
  · rw [h.resolve_left hcommits]

theorem usageBytes_poll_of_not_settles {s : Collector} {p : Poll} (h : ¬ s.Settles p) :
    (s.poll p).usageBytes < s.usageBytes + s.increment p.reading := by
  have hcommits : ¬ p.commits = true := fun hc => h (Or.inl hc)
  have hpos : 0 < s.increment p.reading :=
    lt_of_le_of_ne (s.increment_nonneg p.reading) fun hzero => h (Or.inr hzero.symm)
  rw [usageBytes_poll, if_neg hcommits]
  linarith

/-- No increment counts twice, and all of them count exactly if every poll settles. -/
theorem usageBytes_run (s : Collector) (polls : List Poll) :
    (s.run polls).usageBytes ≤ s.usageBytes + s.increments polls ∧
      ((s.run polls).usageBytes = s.usageBytes + s.increments polls ↔
        Along poll Settles s polls) := by
  induction polls generalizing s with
  | nil => exact ⟨(add_zero _).ge, iff_of_true (add_zero _).symm trivial⟩
  | cons p polls ih =>
      obtain ⟨hle, hiff⟩ := ih (s.poll p)
      simp only [run, runFrom, increments, Along] at hle hiff ⊢
      by_cases hsettles : s.Settles p
      · have hstep := usageBytes_poll_of_settles hsettles
        rw [hstep, add_assoc] at hle hiff
        exact ⟨hle, hiff.trans (iff_and_self.2 fun _ => hsettles)⟩
      · have hstep := usageBytes_poll_of_not_settles hsettles
        refine ⟨by linarith, iff_of_false (fun h => ?_) fun h => hsettles h.1⟩
        linarith

/-- The counters do not fall from a reading on. -/
def Rising : Reading → List Poll → Prop
  | _, [] => True
  | r, p :: polls => r.bytesIn ≤ p.reading.bytesIn ∧ r.bytesOut ≤ p.reading.bytesOut ∧
      Rising p.reading polls

theorem delta_of_le {prev cur : ℚ} (h : prev ≤ cur) : delta prev cur = cur - prev :=
  if_neg (not_lt.2 (sub_nonneg.2 h))

theorem increment_of_le {s : Collector} {r r' : Reading} (hlast : s.lastTrafficState = some r)
    (hin : r.bytesIn ≤ r'.bytesIn) (hout : r.bytesOut ≤ r'.bytesOut) :
    s.increment r' = r'.total - r.total := by
  unfold increment Reading.total
  rw [hlast, Option.getD_some, delta_of_le hin, delta_of_le hout]
  ring

/-- Along rising counters the increments telescope. -/
theorem increments_of_rising {s : Collector} {r : Reading} (hlast : s.lastTrafficState = some r)
    {polls : List Poll} {q : Poll} (h : Rising r (polls ++ [q])) :
    s.increments (polls ++ [q]) = q.reading.total - r.total := by
  induction polls generalizing s r with
  | nil =>
      show s.increment q.reading + 0 = _
      rw [add_zero]
      exact increment_of_le hlast h.1 h.2.1
  | cons p polls ih =>
      obtain ⟨hin, hout, hrest⟩ := h
      show s.increment p.reading + (s.poll p).increments (polls ++ [q]) = _
      rw [increment_of_le hlast hin hout, ih (poll_lastTrafficState s p) hrest]
      ring

/-- From one poll to a later one that commits, with counters that do not fall in between, the usage
grows by as much as the counters. -/
def Telescopes (s : Collector) (polls : List Poll) : Prop :=
  ∀ pre p₀ seg q post, polls = pre ++ p₀ :: (seg ++ q :: post) → q.commits = true →
    Rising p₀.reading (seg ++ [q]) →
      (s.run (pre ++ p₀ :: (seg ++ [q]))).usageBytes - (s.run (pre ++ [p₀])).usageBytes =
        q.reading.total - p₀.reading.total

/-- No increment counts twice, and behind every commit all of them have been counted. -/
structure Conserves (s : Collector) (polls : List Poll) : Prop where
  not_twice : ∀ pre post, polls = pre ++ post →
    (s.run pre).usageBytes ≤ s.usageBytes + s.increments pre
  none_lost : ∀ pre q post, polls = pre ++ q :: post → q.commits = true →
    (s.run (pre ++ [q])).usageBytes = s.usageBytes + s.increments (pre ++ [q])

/-- Before a poll that commits, every poll commits or reads nothing new. -/
def SettledBefore (s : Collector) (polls : List Poll) : Prop :=
  ∀ pre q post, polls = pre ++ q :: post → q.commits = true → Along poll Settles s pre

variable {s : Collector} {polls : List Poll}

theorem SettledBefore.along (h : s.SettledBefore polls) {pre post : List Poll} {q : Poll}
    (hpolls : polls = pre ++ q :: post) (hq : q.commits = true) :
    Along poll Settles s (pre ++ [q]) :=
  (along_append _ _ _ _ _).2 ⟨h pre q post hpolls hq, Or.inl hq, trivial⟩

theorem SettledBefore.conserves (h : s.SettledBefore polls) : s.Conserves polls where
  not_twice := fun pre _ _ => (usageBytes_run s pre).1
  none_lost := fun pre q _ hpolls hq => (usageBytes_run s (pre ++ [q])).2.2 (h.along hpolls hq)

theorem SettledBefore.telescopes (h : s.SettledBefore polls) : s.Telescopes polls := by
  intro pre p₀ seg q post hpolls hq hrising
  have hsplit : ∀ rest, pre ++ p₀ :: rest = (pre ++ [p₀]) ++ rest := fun rest => by
    rw [List.append_assoc, List.singleton_append]
  have halong : Along poll Settles s ((pre ++ [p₀]) ++ (seg ++ [q])) := by
    have hpolls' : polls = (pre ++ p₀ :: seg) ++ q :: post := by
      rw [hpolls, List.append_assoc, List.cons_append]
    have hbefore := h.along hpolls' hq
    rwa [List.append_assoc, List.cons_append, hsplit] at hbefore
  have hsettles := ((along_append _ _ _ _ _).1 halong).2
  have hlast : (s.run (pre ++ [p₀])).lastTrafficState = some p₀.reading := by
    rw [run, runFrom_append]
    exact poll_lastTrafficState _ _
  have husage := (usageBytes_run (s.run (pre ++ [p₀])) (seg ++ [q])).2.2 hsettles
  rw [hsplit, run, runFrom_append, husage, increments_of_rising hlast hrising]
  ring

/-- The usage telescopes and conserves the increments along exactly the runs in which no increment is
read on a failing poll before one that commits. -/
theorem usage_telescopes_iff (s : Collector) (polls : List Poll) :
    s.Telescopes polls ∧ s.Conserves polls ↔ s.SettledBefore polls := by
  constructor
  · rintro ⟨-, hconserves⟩ pre q post hpolls hq
    have hall := (usageBytes_run s (pre ++ [q])).2.1 (hconserves.none_lost pre q post hpolls hq)
    exact ((along_append _ _ _ _ _).1 hall).1
  · intro h
    exact ⟨h.telescopes, h.conserves⟩

/-- A process that starts on an empty database. -/
def fresh : Collector := ⟨none, none, 0, []⟩

/-- A poll that finds uploads of so many bytes. -/
def samplePoll (bytesOut : ℕ) (commits : Bool) : Poll :=
  ⟨⟨0, bytesOut, le_refl _, Nat.cast_nonneg _⟩, commits⟩

/-- 100 bytes, read on a poll whose commit fails, are lost for the poll that commits after it. -/
theorem not_telescopes_failed_commit :
    ¬ fresh.Telescopes [samplePoll 0 true, samplePoll 100 false, samplePoll 100 true] := by
  intro h
  have hrising : Rising (samplePoll 0 true).reading [samplePoll 100 false, samplePoll 100 true] := by
    simp only [Rising, samplePoll]
    norm_num
  have hsum := h [] (samplePoll 0 true) [samplePoll 100 false] (samplePoll 100 true) [] rfl rfl hrising
  simp only [List.nil_append, List.singleton_append, run, runFrom, usageBytes_poll, increment,
    poll_lastTrafficState, fresh, samplePoll, delta, Reading.total] at hsum
  norm_num at hsum

end Collector
end Aivpn
