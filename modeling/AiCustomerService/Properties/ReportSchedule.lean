import AiCustomerService.Reporting.Scheduler
import Mathlib.Data.Int.Interval

/-!
# Every day is reported once

On a clock whose offset stays, the passes of the scheduler report the days one after another and
what they query covers every instant once.  A time of day is used again exactly where the clock is
set back by more than the pass takes.
-/

namespace AiCustomerService

open Support

variable {offset : Int → Int} {timeOfDay now : Int}

/-! ## The next time of day -/

theorem dayLength_pos : 0 < dayLength := by decide

/-- A time that is configured is a time of day. -/
theorem timeOfDay_of_parsed {rt : Runtime} {value : String} {time : Nat × Nat}
    (h : parseDailyTime rt value = .ok time) :
    0 ≤ AiCustomerService.timeOfDay time ∧ AiCustomerService.timeOfDay time < dayLength := by
  have hrange : time.1 < 24 ∧ time.2 < 60 := by
    unfold parseDailyTime at h
    split at h
    · split at h
      · split at h
        · cases h
        next hhour =>
          split at h
          · cases h
          next hminute =>
            obtain rfl := Except.ok.inj h
            dsimp only
            omega
      · cases h
    · cases h
  unfold AiCustomerService.timeOfDay dayLength
  omega

/-- The next run is the first reading after now that shows the time of day. -/
theorem nextRunAt_spec (localNow : Int) (h : 0 ≤ timeOfDay ∧ timeOfDay < dayLength) :
    localNow < nextRunAt localNow timeOfDay ∧
      nextRunAt localNow timeOfDay ≤ localNow + dayLength ∧
      ∃ day, nextRunAt localNow timeOfDay = day * dayLength + timeOfDay := by
  have hmod := Int.emod_nonneg localNow dayLength_pos.ne'
  have hlt := Int.emod_lt_of_pos localNow dayLength_pos
  have hsplit := Int.ediv_mul_add_emod localNow dayLength
  unfold nextRunAt
  dsimp only
  split
  next hpassed =>
    refine ⟨by omega, by omega, localNow / dayLength + 1, ?_⟩
    rw [Int.add_mul]
    omega
  next hahead =>
    refine ⟨by omega, by omega, localNow / dayLength, ?_⟩
    omega

/-- Two readings that show one time of day are equal or a day apart. -/
theorem slot_lt_iff {day other : Int} :
    day * dayLength + timeOfDay < other * dayLength + timeOfDay ↔ day < other := by
  constructor
  · intro h
    exact Int.lt_of_mul_lt_mul_right (by omega) dayLength_pos.le
  · intro h
    have hmul := Int.mul_lt_mul_of_pos_right h dayLength_pos
    omega

/-- A reading is before the next run from it, and no earlier than any run that has passed. -/
theorem nextRunAt_gt_slot_iff (localNow day : Int) (h : 0 ≤ timeOfDay ∧ timeOfDay < dayLength) :
    day * dayLength + timeOfDay < nextRunAt localNow timeOfDay ↔
      day * dayLength + timeOfDay ≤ localNow := by
  obtain ⟨hlt, hle, next, hnext⟩ := nextRunAt_spec localNow h
  rw [hnext, slot_lt_iff]
  rw [hnext] at hlt hle
  constructor
  · intro hday
    have hmul := Int.mul_le_mul_of_nonneg_right (Int.add_one_le_of_lt hday) dayLength_pos.le
    rw [Int.add_mul] at hmul
    omega
  · intro hpassed
    exact slot_lt_iff.mp (hpassed.trans_lt hlt)

theorem startedAt_eq (now : Int) (cycle : ReportCycle)
    (h : 0 ≤ timeOfDay ∧ timeOfDay < dayLength) :
    startedAt offset timeOfDay now cycle =
      nextRunAt (wallClock offset now) timeOfDay - offset now + cycle.delay := by
  have hlt := (nextRunAt_spec (wallClock offset now) h).1
  unfold startedAt
  dsimp only
  rw [max_eq_right (by omega)]
  unfold wallClock
  omega

/-! ## Clocks that are set back -/

/-- From a pass to the next one the clock is not set back by more than the pass takes beyond its
time of day. -/
def KeepsAhead (offset : Int → Int) (timeOfDay : Int) : Int → List ReportCycle → Prop
  | now, cycle :: next :: rest =>
      offset now ≤ offset (restartedAt offset timeOfDay now cycle) + cycle.delay + cycle.duration ∧
        KeepsAhead offset timeOfDay (restartedAt offset timeOfDay now cycle) (next :: rest)
  | _, _ => True

/-- The next pass waits for a later time of day unless the clock was set back too far. -/
theorem target_lt_next_iff (now : Int) (cycle : ReportCycle)
    (h : 0 ≤ timeOfDay ∧ timeOfDay < dayLength) :
    nextRunAt (wallClock offset now) timeOfDay <
        nextRunAt (wallClock offset (restartedAt offset timeOfDay now cycle)) timeOfDay ↔
      offset now ≤
        offset (restartedAt offset timeOfDay now cycle) + cycle.delay + cycle.duration := by
  obtain ⟨-, -, day, hday⟩ := nextRunAt_spec (wallClock offset now) h
  rw [hday, nextRunAt_gt_slot_iff _ _ h, ← hday]
  have hrestart : restartedAt offset timeOfDay now cycle =
      nextRunAt (wallClock offset now) timeOfDay - offset now + cycle.delay + cycle.duration := by
    unfold restartedAt
    rw [startedAt_eq now cycle h]
  generalize restartedAt offset timeOfDay now cycle = restart at hrestart ⊢
  rw [show wallClock offset restart = restart + offset restart from rfl]
  omega

/-- The times of day that the passes wait for are different, and in order, if and only if the clock
is never set back by more than a pass takes. -/
theorem times_of_day_used_once (offset : Int → Int) (timeOfDay now : Int)
    (cycles : List ReportCycle) (h : 0 ≤ timeOfDay ∧ timeOfDay < dayLength) :
    ((schedulerRuns offset timeOfDay now cycles).map ScheduledRun.target).Pairwise (· < ·) ↔
      KeepsAhead offset timeOfDay now cycles := by
  rw [← List.isChain_iff_pairwise]
  induction cycles generalizing now with
  | nil => exact iff_of_true List.IsChain.nil trivial
  | cons cycle rest ih =>
      cases rest with
      | nil => exact iff_of_true (List.isChain_singleton _) trivial
      | cons next rest =>
          have hrest := ih (restartedAt offset timeOfDay now cycle)
          simp only [schedulerRuns, List.map_cons] at hrest ⊢
          rw [List.isChain_cons_cons, hrest, target_lt_next_iff now cycle h, KeepsAhead]

/-- Two passes at nine o'clock, one minute long each. -/
def minuteCycles : List ReportCycle := [⟨0, 60000000⟩, ⟨0, 60000000⟩]

theorem times_of_day_used_once_nine :
    ((schedulerRuns (fun _ => 0) (AiCustomerService.timeOfDay (9, 0)) 0 minuteCycles).map
      ScheduledRun.target).Pairwise (· < ·) :=
  (times_of_day_used_once (fun _ => 0) (AiCustomerService.timeOfDay (9, 0)) 0 minuteCycles
    (by decide)).mpr ⟨by decide, trivial⟩

/-! ## A fixed offset -/

/-- On a clock whose offset stays, a pass that ends within a day of its time is followed by the pass
of the next day. -/
theorem next_target_fixed {fixed : Int} (now : Int) (cycle : ReportCycle)
    (h : 0 ≤ timeOfDay ∧ timeOfDay < dayLength)
    (hpass : (cycle.delay : Int) + cycle.duration < dayLength) :
    nextRunAt (wallClock (fun _ => fixed)
        (restartedAt (fun _ => fixed) timeOfDay now cycle)) timeOfDay =
      nextRunAt (wallClock (fun _ => fixed) now) timeOfDay + dayLength := by
  obtain ⟨-, -, day, hday⟩ := nextRunAt_spec (wallClock (fun _ => fixed) now) h
  have hrestart : wallClock (fun _ => fixed) (restartedAt (fun _ => fixed) timeOfDay now cycle) =
      day * dayLength + timeOfDay + cycle.delay + cycle.duration := by
    unfold restartedAt wallClock
    rw [startedAt_eq now cycle h, hday]
    dsimp only
    omega
  rw [hrestart, hday]
  generalize hreading : day * dayLength + timeOfDay + cycle.delay + cycle.duration = reading
  obtain ⟨hlt, hle, next, hnext⟩ := nextRunAt_spec reading h
  have hafter : day < next := by
    refine (@slot_lt_iff timeOfDay day next).mp ?_
    rw [← hnext]
    exact (by omega : day * dayLength + timeOfDay ≤ reading).trans_lt hlt
  have hbefore : next < day + 2 := by
    refine (@slot_lt_iff timeOfDay next (day + 2)).mp ?_
    rw [← hnext, Int.add_mul]
    omega
  obtain rfl : next = day + 1 := by omega
  rw [hnext, Int.add_mul]
  omega

/-- A report that starts on the day of its time is about the day before. -/
theorem reportDate_fixed {fixed day : Int} (now : Int) (cycle : ReportCycle)
    (h : 0 ≤ timeOfDay ∧ timeOfDay < dayLength)
    (hday : nextRunAt (wallClock (fun _ => fixed) now) timeOfDay = day * dayLength + timeOfDay)
    (hdelay : timeOfDay + cycle.delay < dayLength) :
    reportDate (wallClock (fun _ => fixed)
      (startedAt (fun _ => fixed) timeOfDay now cycle)) = day - 1 := by
  unfold reportDate wallClock
  rw [startedAt_eq now cycle h, hday]
  have hreading : day * dayLength + timeOfDay - fixed + cycle.delay + fixed =
      (timeOfDay + cycle.delay) + day * dayLength := by omega
  rw [hreading, Int.add_mul_ediv_right _ _ dayLength_pos.ne',
    Int.ediv_eq_zero_of_lt (by omega) hdelay]
  omega

/-- The passes start on the day of their time and end within a day of it. -/
def Prompt (timeOfDay : Int) (cycles : List ReportCycle) : Prop :=
  ∀ cycle ∈ cycles, timeOfDay + cycle.delay < dayLength ∧
    (cycle.delay : Int) + cycle.duration < dayLength

/-- The days that are reported, from the day before the first time of day on. -/
theorem reportDates_fixed {fixed day : Int} {cycles : List ReportCycle}
    (h : 0 ≤ timeOfDay ∧ timeOfDay < dayLength) (hprompt : Prompt timeOfDay cycles)
    (hday : nextRunAt (wallClock (fun _ => fixed) now) timeOfDay = day * dayLength + timeOfDay) :
    (schedulerRuns (fun _ => fixed) timeOfDay now cycles).map ScheduledRun.reportDate =
      (List.range cycles.length).map fun (n : Nat) => day - 1 + (n : Int) := by
  induction cycles generalizing now day with
  | nil => rfl
  | cons cycle rest ih =>
      obtain ⟨hdelay, hpass⟩ := hprompt cycle List.mem_cons_self
      have hnext := @next_target_fixed timeOfDay fixed now cycle h hpass
      have hday' : nextRunAt (wallClock (fun _ => fixed)
          (restartedAt (fun _ => fixed) timeOfDay now cycle)) timeOfDay =
            (day + 1) * dayLength + timeOfDay := by
        rw [hnext, hday, Int.add_mul]
        omega
      have hrest := ih (fun other hother => hprompt other (List.mem_cons_of_mem _ hother)) hday'
      simp only [schedulerRuns, List.map_cons, List.length_cons]
      rw [hrest, List.range_succ_eq_map, List.map_cons, List.map_map,
        reportDate_fixed now cycle h hday hdelay]
      congr 1
      · simp
      · refine List.map_congr_left fun n _ => ?_
        simp only [Function.comp]
        push_cast
        omega

end AiCustomerService
