import Joinery.Formula.Diagnostic
import Joinery.Value.Shown

/-!
# Notices

What the library reports on its way without failing. A notice has a log record, and those that
concern the user of a binding also have a warning.
-/
namespace Joinery

inductive LogLevel where
  | debug | info | warning | error | critical
  deriving DecidableEq, Repr

namespace LogLevel

def label : LogLevel → String
  | .debug => "DEBUG"
  | .info => "INFO"
  | .warning => "WARNING"
  | .error => "ERROR"
  | .critical => "CRITICAL"

/-- All levels, the mildest first. -/
def all : List LogLevel := [.debug, .info, .warning, .error, .critical]

def rank : LogLevel → Nat
  | .debug => 0
  | .info => 1
  | .warning => 2
  | .error => 3
  | .critical => 4

end LogLevel

/-- One line of a log. -/
structure LogRecord where
  level : LogLevel
  logger : String
  text : String
  deriving DecidableEq, Repr

inductive Notice where
  /-- A formula names a parameter that the context does not have; it counts as zero. -/
  | missingName (name : String) (span : Option Formula.Span)
  /-- A binding refers to a parameter that the store does not have; it counts as zero. -/
  | missingParameter (id : Value)
  /-- A handler rejected a value; the value before the handlers is taken. -/
  | rejected (reason : String)
  | unknownJoint (key : String) (type : Value)
  | degenerateEdge (key : String) (length : Value)
  /-- A tooth count is cut down to what fits on the edge. -/
  | countCapped (requested : Value) (limit : Int) (length : Value)
  | entrySkipped (entry : Value)
  | jointsRemoved (count : Nat) (shape : Value)
  | designLoaded (parameters shapes joints : Nat)
  | loggingStarted

namespace Notice

/-- The log record of a notice. -/
def record : Notice → LogRecord
  | .missingName name _ =>
    ⟨.warning, "jointcad.expr.evaluator", s!"Parameter '{name}' not found in context, using 0"⟩
  | .missingParameter id =>
    ⟨.warning, "jointcad.bindings.base", s!"Parameter {id.shown} not found, returning 0"⟩
  | .rejected reason =>
    ⟨.warning, "jointcad.bindings.handlers", s!"Binding validation failed: {reason}"⟩
  | .unknownJoint key type =>
    ⟨.debug, "jointcad.manufacturing.joinery",
      s!"Edge {key}: unknown joint type {type.quoted}, no teeth"⟩
  | .degenerateEdge key length =>
    ⟨.debug, "jointcad.manufacturing.joinery",
      s!"Edge {key}: degenerate (length {length.brief}), no teeth"⟩
  | .countCapped requested limit length =>
    ⟨.debug, "jointcad.manufacturing.joinery",
      s!"fingerCount {requested.shown} capped to {limit} for edge of length {length.brief}"⟩
  | .entrySkipped entry =>
    ⟨.debug, "jointcad.manufacturing.store",
      s!"Skipping joinery entry without key/type: {entry.quoted}"⟩
  | .jointsRemoved count shape =>
    ⟨.debug, "jointcad.manufacturing.store",
      s!"Removed {count} joinery record(s) of shape {shape.shown}"⟩
  | .designLoaded parameters shapes joints =>
    ⟨.debug, "jointcad.design",
      s!"Loaded design: {parameters} parameter(s), {shapes} shape(s), {joints} joint(s)"⟩
  | .loggingStarted => ⟨.debug, "jointcad", "Logging initialized."⟩

/-- The warning of a notice, for those that have one. -/
def warning? : Notice → Option Formula.Diagnostic
  | .missingName name span =>
    some ⟨"W201", s!"parameter '{name}' not found in context, using 0", .warning,
      span.map Formula.Span.extent, none, ["the parameter may have been renamed or deleted"]⟩
  | .missingParameter id =>
    some ⟨"W202", s!"parameter {id.shown} not found, returning 0", .warning, none, none, []⟩
  | .rejected reason =>
    some ⟨"W203", s!"binding validation failed: {reason}", .warning, none, none, []⟩
  | _ => none

/-- The warnings among notices, in order. -/
def warnings (notices : List Notice) : List Formula.Diagnostic := notices.filterMap warning?

end Notice

end Joinery
