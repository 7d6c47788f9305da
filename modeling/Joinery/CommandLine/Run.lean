import Joinery.CommandLine.Help
import Joinery.CommandLine.Listing
import Joinery.CommandLine.Numbers
import Joinery.Design.Document
import Joinery.Formula.Evaluation
import Joinery.Json.Reader
import Joinery.Settings.File

/-!
# Running commands

What the commands do with the files that are there when the program starts. A design that cannot be
loaded, a formula without a value and bindings that cannot be resolved are reported, with a status
of one; other failures end the program.
-/
namespace Joinery.CommandLine

/-! ### Formulas -/

/-- An error in a formula, with the text of the formula. -/
def errorText (formula : String) (e : Formula.Error) : String :=
  let d := e.diagnostic
  ({ d with source := d.source.or (some formula) } : Formula.Diagnostic).format true

/-- Evaluates a formula. -/
def evaluate (formula : String) (assignments : List Value) : Report :=
  match assignments.mapM readAssignment with
  | .error (.commandLine cause) => .refusal cause.message
  | .error failure => .failed failure
  | .ok context =>
    let outcome := Formula.evaluateText .builtin (contextOf context) (.text formula)
    let warnings := warningLines (some formula) outcome.notices
    Report.after (logLines outcome.notices) <|
      match outcome.result with
      | .error (.formula e) => ⟨[.err (errorText formula e)], .status 1⟩
      | .error failure => .failed failure
      | .ok x =>
        match numberText (.float x) with
        | .error cause => .failed (.misuse cause)
        | .ok text => ⟨warnings ++ [.out text], .status 0⟩

/-! ### Designs -/

/-- The misuses that are reported when a design cannot be loaded. -/
def isReportedMisuse : Misuse → Bool
  | .notObject _ | .tooShort | .outOfRange | .tooLarge | .zeroDivisor => false
  | _ => true

/-- The failures that are reported when a design cannot be loaded. -/
def isReported : Failure → Bool
  | .misuse cause => isReportedMisuse cause
  | .binding _ | .parameter _ | .shape _ | .file _ | .document _ | .jointSettings _ => true
  | _ => false

/-- The document in the file at a path. -/
def readDocument (files : Files) (path : String) : Except Failure Value := do
  let text ← files.read path
  match Json.read text with
  | .ok v => return v
  | .error e => throw (e.failure text)

/-- Loads the design at a path and goes on with it. -/
def withDesign (files : Files) (settings : Settings) (path : String) (next : Design → Report) :
    Report :=
  let loaded : Outcome Design := do Design.ofValue settings (← readDocument files path)
  Report.after (logLines loaded.notices) <|
    match loaded.result with
    | .ok d => next d
    | .error failure =>
      if isReported failure then .refusal s!"cannot load {path}: {failure.message}"
      else .failed failure

/-- Whether a failure is one of formulas or bindings. -/
def isUnresolved : Failure → Bool
  | .formula _ | .binding _ => true
  | _ => false

/-- What resolving shapes gives: lines, notices and the number of shapes that fail, or the lines up
to a failure that is not reported. -/
structure Resolved where
  lines : List Line := []
  notices : List Notice := []
  failures : Nat := 0
  stop : Option Failure := none

/-- Resolves shapes under their keys, one after the other. -/
def resolveShapes : List (Value.Key × Shape) → Design → Resolved
  | [], _ => {}
  | (key, s) :: rest, d =>
    let (outcome, d) := Design.resolveAt key s d
    let log := logLines outcome.notices
    match outcome.result with
    | .ok _ =>
      let more := resolveShapes rest d
      { more with lines := log ++ more.lines, notices := outcome.notices ++ more.notices }
    | .error failure =>
      if isUnresolved failure then
        let more := resolveShapes rest d
        { more with
          lines := log ++ .err s!"{s.id.shown}: {failure.message}" :: more.lines
          notices := outcome.notices ++ more.notices
          failures := more.failures + 1 }
      else { lines := log, stop := some failure }

/-- Resolves every shape of a design. -/
def check (d : Design) : Report :=
  let resolved := resolveShapes d.places d
  Report.after resolved.lines <|
    match resolved.stop with
    | some failure => .failed failure
    | none =>
      let shapes := s!"{d.shapes.size} shape(s)"
      let others := s!"{d.parameters.size} parameter(s), {d.joints.size} joint(s)"
      Report.after (warningLines none resolved.notices ++ [.out s!"{shapes}, {others}"]) <|
        if resolved.failures = 0 then ⟨[.out "OK"], .status 0⟩
        else ⟨[.err s!"{resolved.failures} shape(s) failed to resolve"], .status 1⟩

/-- The lines of a listing, and whether they are all. -/
def listing (asJson : Bool) (edges : List JointedEdge) : List String × Except Misuse Unit :=
  if asJson then ([Json.indented (listingValue edges)], .ok ())
  else if edges.isEmpty then (["No jointed edges."], .ok ())
  else tableRows edges

/-- Lists the teeth of a design, or of the shape with an id if one is asked for. -/
def teeth (shape : Option Value) (asJson : Bool) (d : Design) : Report :=
  let id := shape.getD .null
  if id.isTruthy && !(d.find? id).toOption.any Option.isSome then
    .refusal s!"no shape with id {id.shown}"
  else
    let (outcome, _) := Design.layout shape d
    Report.after (logLines outcome.notices) <|
      match outcome.result with
      | .error failure =>
        if isUnresolved failure then .refusal failure.message else .failed failure
      | .ok edges =>
        let (lines, result) := listing asJson edges
        Report.after (warningLines none outcome.notices ++ lines.map .out) <|
          match result with
          | .ok () => ⟨[], .status 0⟩
          | .error cause => .failed (.misuse cause)

/-! ### Programs -/

/-- What a program run leaves: its report, the level of its log, and the path of the log file. -/
structure Run where
  report : Report
  level : LogLevel := .info
  logPath : Option String := none

/-- Where the log is written beside the standard error, if settings say so. -/
def logPathOf (settings : Settings) : Except Failure (Option String) :=
  if settings.file.isTruthy then
    match settings.file with
    | .scalar (.text path) => .ok (some path)
    | .bytes data => .ok (some (Yaml.Bytes.text data))
    | n => .error (.misuse (.notText n.toValue.kind))
  else .ok none

/-- The files with an empty log. -/
def openLog (files : Files) : Option String → Except Failure Files
  | some path => files.clear path
  | none => .ok files

/-- Performs a command. -/
def perform (files : Files) (settings : Settings) : Command → Report
  | .evaluate formula assignments => evaluate formula assignments
  | .check path => withDesign files settings path check
  | .teeth path shape asJson => withDesign files settings path (teeth shape asJson)

/-- Performs a request. -/
def Request.run (r : Request) (files : Files) : Run :=
  match r.settingsPath.mapError .misuse >>= Settings.ofFile files with
  | .error (.settings cause) => { report := .refusal cause.message }
  | .error failure => { report := .failed failure }
  | .ok settings =>
    match do let path ← logPathOf settings; return (path, ← openLog files path) with
    | .error failure => { report := .failed failure }
    | .ok (path, files) =>
      { report := Report.after (logLines [.loggingStarted]) (perform files settings r.command)
        level := if r.isVerbose then .debug else settings.level
        logPath := path }

/-- Runs the program with arguments. -/
def run (files : Files) (args : List String) : Run :=
  match ask args with
  | .request r => r.run files
  | .help topic => { report := ⟨topic.helpLines.map .out, .explained⟩ }
  | .nothing => { report := ⟨[], .misused⟩ }

end Joinery.CommandLine
