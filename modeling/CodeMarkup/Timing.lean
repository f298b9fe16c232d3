import CodeMarkup.Decimal.Fixed
import CodeMarkup.Text.Lowercase

/-!
Reports of how long phases take. A phase is reported when it ends, also when it fails, and after the
phases inside it. Without reports no clock is read.
-/

namespace CodeMarkup

/-- A clock, by its readings to come. Once they are used up the last one repeats. -/
structure Clock where
  readings : List Float := []
  last : Float := 0.0

/-- A reading of the clock, and the clock after it. -/
def Clock.read (c : Clock) : Float × Clock :=
  match c.readings with
  | [] => (c.last, c)
  | t :: ts => (t, ⟨ts, t⟩)

namespace Timing

/-- Whether a switch for reports, if it is set, turns them on. -/
def isEnabled (switch : Option String) : Bool :=
  match switch with
  | some s => Text.lower s ∈ ["1", "true", "yes"]
  | none => false

/-- A number of seconds with three places, in a column of eight characters. -/
def seconds (t : Float) : List Char :=
  let digits := Decimal.fixed 3 (Decimal.Double.ofFloat t)
  List.replicate (8 - digits.length) ' ' ++ digits

/-- The report of a phase that lasted from `started` to `now`, and of the time since `start`. -/
def report (label : String) (started now : Float) (start : Option Float) : String :=
  let padding := List.replicate (40 - label.length) ' '
  let elapsed := String.ofList (padding ++ ' ' :: seconds (now - started))
  "[TIMING] " ++ label ++ elapsed ++ "s" ++
    (match start with
      | some t => " (total: " ++ String.ofList (seconds (now - t)) ++ "s)"
      | none => "") ++ "\n"

end Timing

/-- The label of a phase, which may tell how many phases inside it are done. -/
inductive PhaseLabel where
  | fixed (s : String)
  | counted (s : String)
  deriving DecidableEq, Repr

def PhaseLabel.text (done : Nat) : PhaseLabel → String
  | fixed s => s
  | counted s => s ++ " (" ++ toString done ++ " done)"

/-- A phase: its label, the time from which its total is counted, the phases inside it, and the
failure that it ends with. -/
inductive Phase where
  | mk (label : PhaseLabel) (start : Option Float) (inner : List Phase) (failure : Option String)

/-- What phases leave behind: the clock, the reports written and the failures caught. -/
structure PhaseLog where
  clock : Clock
  reports : List String := []
  failures : List String := []

/-- Does something as a timed phase. With reports the clock is read before it and after it, and it
is reported last. What it leaves behind itself stays as it is. -/
def PhaseLog.timed (log : PhaseLog) (enabled : Bool) (label : String) (start : Option Float)
    (body : PhaseLog → PhaseLog) : PhaseLog :=
  if enabled then
    let (started, clock) := log.clock.read
    let log := body { log with clock }
    let (now, clock) := log.clock.read
    { log with clock, reports := log.reports ++ [Timing.report label started now start] }
  else body log

@[simp] theorem PhaseLog.timed_false (log : PhaseLog) (label : String) (start : Option Float)
    (body : PhaseLog → PhaseLog) : log.timed false label start body = body log := rfl

namespace Phase

mutual

/-- Runs a phase, with reports or without. Its failure does not stop the phases after it. -/
def run (enabled : Bool) : Phase → PhaseLog → PhaseLog
  | mk label start inner failure, log =>
    let log := log.timed enabled (label.text inner.length) start (runAll enabled inner)
    { log with failures := log.failures ++ failure.toList }

def runAll (enabled : Bool) : List Phase → PhaseLog → PhaseLog
  | [], log => log
  | p :: ps, log => runAll enabled ps (p.run enabled log)

end

end Phase

end CodeMarkup
