import Joinery.Outcome

/-!
# Reports

What a command writes and how it ends. Log records stand among the lines in the order in which they
were made; a log shows those of at least its level, each with the time of the day.
-/
namespace Joinery.CommandLine

inductive Line where
  /-- A line of results. -/
  | out (text : String)
  /-- A line for the user's attention. -/
  | err (text : String)
  | log (record : LogRecord)
  deriving DecidableEq, Repr

inductive Ending where
  | status (code : Nat)
  /-- The arguments ask for an explanation, which the lines give. -/
  | explained
  /-- The arguments ask for nothing that there is. -/
  | misused
  /-- A failure that no command reports. -/
  | failed (failure : Failure)
  deriving DecidableEq, Repr

structure Report where
  lines : List Line := []
  ending : Ending
  deriving DecidableEq, Repr

namespace Report

/-- The report with lines before its own. -/
def after (before : List Line) (r : Report) : Report := { r with lines := before ++ r.lines }

/-- A report that says what is wrong. -/
def refusal (message : String) : Report := ⟨[.err s!"Error: {message}"], .status 1⟩

def failed (failure : Failure) : Report := ⟨[], .failed failure⟩

end Report

/-- The log lines of notices. -/
def logLines (notices : List Notice) : List Line := notices.map fun n => .log n.record

/-- The lines about warnings, each with the text it is about if that is known. -/
def warningLines (source : Option String) (notices : List Notice) : List Line :=
  (Notice.warnings notices).map fun d =>
    .err (({ d with source := source.or d.source } : Formula.Diagnostic).format true)

/-! ### Texts -/

/-- A log record as a line of a log. -/
def logText (time : String) (r : LogRecord) : String :=
  s!"{time} - {r.logger} - {r.level.label} - {r.text}\n"

/-- What a report writes to the standard output. -/
def outText (r : Report) : String :=
  String.join (r.lines.map fun
    | .out text => text ++ "\n"
    | _ => "")

/-- What a report writes to the standard error, with log records of at least a level. -/
def errText (time : String) (level : LogLevel) (r : Report) : String :=
  String.join (r.lines.map fun
    | .out _ => ""
    | .err text => text ++ "\n"
    | .log record => if level.rank ≤ record.level.rank then logText time record else "")

/-- What a report writes to a log file. -/
def fileText (time : String) (level : LogLevel) (r : Report) : String :=
  errText time level { r with lines := r.lines.filter fun
    | .log _ => true
    | _ => false }

end Joinery.CommandLine
