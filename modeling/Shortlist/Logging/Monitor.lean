import Shortlist.Logging.Entry
import Shortlist.Logging.Reading

/-! # Timing

A block of work is timed between two readings of a clock, in seconds. Slow blocks are logged as
warnings. Readings that are whole numbers of seconds give whole numbers of milliseconds.
-/

namespace Shortlist

structure Monitor where
  name : String
  threshold : Value

structure Timing (α : Type) where
  /-- The milliseconds it took; zero as long as they are not known. -/
  elapsed : Reading
  log : List LogEntry
  outcome : Except Fault α

namespace Monitor

def defaultThreshold : Value := .int 1000

/-- What is logged about the end of a block that took `spent` milliseconds. -/
def closing {α : Type} (m : Monitor) (spent : Reading) (outcome : Except Fault α) :
    Except Fault LogEntry :=
  match outcome with
  | .error fault => do
    .ok ⟨.error, m.name ++ " failed after " ++ (← spent.fixed 2) ++ "ms: " ++ fault.text⟩
  | .ok _ => do
    if ← spent.passes m.threshold then
      .ok ⟨.warning,
        m.name ++ " took " ++ (← spent.fixed 2) ++ "ms (threshold " ++ m.threshold.plain ++ "ms)"⟩
    else .ok ⟨.debug, m.name ++ " completed in " ++ (← spent.fixed 2) ++ "ms"⟩

/-- Times a block with some outcome. What goes wrong with the clock takes the place of the
outcome. -/
def observe {α : Type} (m : Monitor) (start stop : Value) (outcome : Except Fault α) : Timing α :=
  let opening : LogEntry := ⟨.debug, "Starting " ++ m.name⟩
  match Reading.between start stop with
  | .error fault => ⟨.real 0.0, [opening], .error fault⟩
  | .ok seconds =>
    let spent := seconds.milliseconds
    match m.closing spent outcome with
    | .error fault => ⟨spent, [opening], .error fault⟩
    | .ok entry => ⟨spent, [opening, entry], outcome⟩

end Monitor

end Shortlist
