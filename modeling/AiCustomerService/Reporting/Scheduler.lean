import AiCustomerService.Python.Json

/-!
# The schedule of the daily report

`reporting/daily_chat_report/scheduler.py`: the loop waits for the next time of day on the wall
clock of the report's time zone and then runs the report of the day before.  Instants and wall
clock readings are microseconds; the offset of the zone is a function of the instant.
-/

namespace AiCustomerService

open Support

/-- A day. -/
def dayLength : Int := 86400000000

/-- `_parse_daily_time`: the hour and the minute. -/
def parseDailyTime (rt : Runtime) (value : String) : Except PyError (Nat × Nat) :=
  match (strip value).toList.splitOnP (· = ':') with
  | [hour, minute] =>
      match rt.intOfText (String.ofList hour), rt.intOfText (String.ofList minute) with
      | some hour, some minute =>
          if hour < 0 ∨ 24 ≤ hour then .error (.valueError "hour must be in 0..23")
          else if minute < 0 ∨ 60 ≤ minute then .error (.valueError "minute must be in 0..59")
          else .ok (hour.toNat, minute.toNat)
      | _, _ => .error (.valueError "invalid literal for int() with base 10")
  | _ => .error (.valueError "daily chat report time must use HH:MM format")

/-- The time of day, from midnight on. -/
def timeOfDay (time : Nat × Nat) : Int := (time.1 * 60 + time.2) * 60000000

/-- `_next_run_at` on the wall clock: datetimes of one zone are compared as the clock shows them. -/
def nextRunAt (localNow timeOfDay : Int) : Int :=
  let nextRun := localNow - localNow % dayLength + timeOfDay
  if nextRun ≤ localNow then nextRun + dayLength else nextRun

/-- `_report_date` without a `--date`: the number of the day before. -/
def reportDate (localNow : Int) : Int := localNow / dayLength - 1

/-- `query_start_at` and `query_end_at` of `_date_windows`; `utcOf` reads a wall clock of the zone. -/
def dateWindows (utcOf : Int → Int) (reportDate : Int) : Int × Int :=
  (utcOf (reportDate * dayLength), utcOf ((reportDate + 1) * dayLength))

/-- What a pass of the loop adds: how much later than asked for the sleep ends, and how long the
report takes, whether it returns or raises. -/
structure ReportCycle where
  delay : Nat
  duration : Nat

/-- A pass of the loop of `run_scheduler`. -/
structure ScheduledRun where
  target : Int
  startedAt : Int
  reportDate : Int

section Zone

variable (offset : Int → Int) (timeOfDay : Int)

/-- The wall clock of the zone. -/
def wallClock (now : Int) : Int := now + offset now

/-- When the report of a pass is started. -/
def startedAt (now : Int) (cycle : ReportCycle) : Int :=
  let localNow := wallClock offset now
  now + max 0 (nextRunAt localNow timeOfDay - localNow) + cycle.delay

/-- When the next pass begins. -/
def restartedAt (now : Int) (cycle : ReportCycle) : Int :=
  startedAt offset timeOfDay now cycle + cycle.duration

/-- The passes of the loop from an instant on. -/
def schedulerRuns (now : Int) : List ReportCycle → List ScheduledRun
  | [] => []
  | cycle :: rest =>
      let started := startedAt offset timeOfDay now cycle
      ⟨nextRunAt (wallClock offset now) timeOfDay, started,
          reportDate (wallClock offset started)⟩ ::
        schedulerRuns (restartedAt offset timeOfDay now cycle) rest

end Zone

end AiCustomerService
