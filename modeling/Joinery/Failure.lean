import Joinery.Formula.Diagnostic

/-!
# Failures

All causes for which an operation of the library fails, by the part of the domain they belong to,
and their wording.
-/
namespace Joinery

namespace Binding

/-- Why a binding or a handler cannot be made or resolved. -/
inductive Fault where
  | notTyped
  | unknownType (shown : String) (available : List String)
  | literalNotNumber (quoted : String)
  | parameterMissing
  | expressionMissing
  | wrappedMissing
  | parameterNeedsStore
  | expressionNeedsStoreAndEngine
  /-- A bound shape, given by its type and its shown id, is resolved without a store. -/
  | shapeNeedsStore (type id : String)
  | unknownHandler (shown : String) (available : List String)
  | nothingToWrap
  | notHandler
  | emptyType
  | notCallable (type : String)
  deriving DecidableEq, Repr

def Fault.message : Fault → String
  | .notTyped => "Binding JSON must be an object with a 'type' field"
  | .unknownType shown available =>
    s!"Unknown binding type: \"{shown}\". Available types: {Text.listed available}"
  | .literalNotNumber quoted => s!"literal binding value must be a number, got {quoted}"
  | .parameterMissing => "parameter binding requires parameterId"
  | .expressionMissing => "expression binding requires expression"
  | .wrappedMissing => "processed binding requires wrappedBinding"
  | .parameterNeedsStore => "ParameterBinding requires a parameter store"
  | .expressionNeedsStoreAndEngine =>
    "ExpressionBinding requires both a parameter store and an expression engine"
  | .shapeNeedsStore type id => s!"{type} {id} has bindings but no parameter store or resolver"
  | .unknownHandler shown available =>
    s!"Unknown handler type: \"{shown}\". Available types: {Text.listed available}"
  | .nothingToWrap => "ProcessedBinding requires a binding to wrap"
  | .notHandler => "Handler must be a BindingHandler"
  | .emptyType => "Binding type must be a non-empty string"
  | .notCallable type => s!"Factory for binding type '{type}' must be callable"

end Binding

namespace Parameter

/-- Why a parameter cannot be made, added or set. -/
inductive Fault where
  | nameMissing
  | duplicate (shown : String)
  | unknown (shown : String)
  | notStore
  /-- Listeners change parameters in answer to changes without an end in sight. -/
  | endless
  deriving DecidableEq, Repr

def Fault.message : Fault → String
  | .nameMissing => "Parameter name is required"
  | .duplicate shown => s!"Parameter with id {shown} already exists"
  | .unknown shown => s!"Parameter with id {shown} not found"
  | .notStore => "Invalid ParameterStore JSON"
  | .endless => "maximum recursion depth exceeded"

end Parameter

namespace Shape

/-- Why a shape or a design cannot be made or changed. -/
inductive Fault where
  | typeMissing
  | unknownType (shown : String) (available : List String)
  | notBindable (property type : String)
  | duplicate (shown : String)
  | notShape (label : String)
  | notDesign
  deriving DecidableEq, Repr

def Fault.message : Fault → String
  | .typeMissing => "Invalid shape JSON: type is required"
  | .unknownType shown available =>
    s!"Unknown shape type: \"{shown}\". Available types: {Text.listed available}"
  | .notBindable property type => s!"Property {property} is not bindable for {type}"
  | .duplicate shown => s!"Shape with id {shown} already exists"
  | .notShape label => s!"<class '{label}'> is not a Shape subclass"
  | .notDesign => "Invalid design JSON: expected an object with a 'shapes' list"

end Shape

namespace Settings

/-- Why settings are refused. -/
inductive Fault where
  | notMapping
  | unknownSections (names : List String)
  | sectionNotMapping (name : String)
  | unknownKeys (name : String) (keys : List String)
  /-- A setting has to be one of some words. -/
  | notOneOf (name : String) (words : List String) (quoted : String)
  | notNumber (name : String) (quoted : String)
  | notInteger (name : String) (quoted : String)
  /-- The text is not in the format of settings files. -/
  | malformed
  deriving DecidableEq, Repr

def Fault.message : Fault → String
  | .notMapping => "configuration document must be a mapping"
  | .unknownSections names => s!"unknown configuration section(s): {Text.listed names}"
  | .sectionNotMapping name => s!"section '{name}' must be a mapping"
  | .unknownKeys name keys => s!"unknown key(s) in section '{name}': {Text.listed keys}"
  | .notOneOf name words quoted =>
    s!"{name} must be one of {Text.listed words}, got {quoted}"
  | .notNumber name quoted => s!"{name} must be a number, got {quoted}"
  | .notInteger name quoted => s!"{name} must be an integer, got {quoted}"
  | .malformed => "invalid YAML"

end Settings

namespace Files

/-- What a path runs into. -/
inductive Obstacle where
  | missing
  /-- A file stands where a folder is needed. -/
  | notFolder
  | folder
  | nameTooLong
  deriving DecidableEq, Repr

def Obstacle.message : Obstacle → String
  | .missing => "[Errno 2] No such file or directory"
  | .notFolder => "[Errno 20] Not a directory"
  | .folder => "[Errno 21] Is a directory"
  | .nameTooLong => "[Errno 36] File name too long"

/-- Why a file cannot be used; the path is shown quoted. -/
structure Fault where
  obstacle : Obstacle
  quoted : String
  deriving DecidableEq, Repr

def Fault.message (f : Fault) : String := s!"{f.obstacle.message}: {f.quoted}"

end Files

namespace CommandLine

/-- Why a parameter on the command line cannot be used. -/
inductive Fault where
  | notAssignment (text : String)
  | notNumber (name quoted : String)
  deriving DecidableEq, Repr

def Fault.message : Fault → String
  | .notAssignment text => s!"Invalid parameter format: {text} (expected name=value)"
  | .notNumber name quoted => s!"Invalid value for parameter {name}: {quoted}"

end CommandLine

/-- The cause for which an operation fails. -/
inductive Failure where
  | misuse (cause : Misuse)
  | formula (error : Formula.Error)
  /-- A formula holds a node of a foreign kind. -/
  | foreignNode (label : String)
  | binding (cause : Binding.Fault)
  | parameter (cause : Parameter.Fault)
  | shape (cause : Shape.Fault)
  | settings (cause : Settings.Fault)
  /-- A joint is assigned with settings that joints do not have. -/
  | jointSettings (names : List String)
  /-- A shape of the given class has no outline. -/
  | noOutline (label : String)
  | file (cause : Files.Fault)
  /-- The text of a document is not JSON. -/
  | document (message : String)
  | commandLine (cause : CommandLine.Fault)
  deriving DecidableEq, Repr

def Failure.message : Failure → String
  | .misuse cause => cause.message
  | .formula error => error.message
  | .foreignNode label => s!"No visitor for {label}"
  | .binding cause => cause.message
  | .parameter cause => cause.message
  | .shape cause => cause.message
  | .settings cause => cause.message
  | .jointSettings names => s!"unexpected joinery settings: {Text.listed names}"
  | .noOutline label => s!"{label} must implement paths()"
  | .file cause => cause.message
  | .document message => message
  | .commandLine cause => cause.message

instance : MonadLift (Except Misuse) (Except Failure) where
  monadLift
    | .ok a => .ok a
    | .error cause => .error (.misuse cause)

instance : MonadLift (Except Formula.Error) (Except Failure) where
  monadLift
    | .ok a => .ok a
    | .error error => .error (.formula error)

end Joinery
