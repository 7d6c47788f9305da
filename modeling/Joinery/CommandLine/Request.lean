import Joinery.CommandLine.Arguments

/-!
# Requests

What the program can be asked to do: to evaluate a formula, to check a design, or to list its teeth.
-/
namespace Joinery.CommandLine

inductive Command where
  | evaluate (formula : String) (assignments : List Value)
  | check (path : String)
  | teeth (path : String) (shape : Option Value) (asJson : Bool)

structure Request where
  command : Command
  /-- Where the settings are. -/
  settings : Option Value
  isVerbose : Bool

/-- The path of the settings. -/
def Request.settingsPath (r : Request) : Except Misuse (Option String) := r.settings.mapM Value.asText

/-- The paths of the files that a request reads. -/
def Request.paths (r : Request) : List String :=
  (r.settingsPath.toOption.bind id).toList ++
    match r.command with
    | .evaluate .. => []
    | .check path | .teeth path .. => [path]

/-- What help is asked for. -/
inductive Topic where
  | program | evaluate | check | teeth
  deriving DecidableEq, Repr

/-- What arguments ask for. -/
inductive Asked where
  | request (r : Request)
  | help (topic : Topic)
  /-- The arguments ask for nothing that there is. -/
  | nothing

/-- The commands by name. -/
def topicOf? : String → Option Topic
  | "eval" => some .evaluate
  | "check" => some .check
  | "teeth" => some .teeth
  | _ => none

def flagsOf : Topic → List Flag
  | .program => [.help, ⟨"config", none, true⟩, ⟨"verbose", some 'v', false⟩]
  | .evaluate => [.help, ⟨"param", some 'p', true⟩]
  | .check => [.help]
  | .teeth => [.help, ⟨"shape", none, true⟩, ⟨"json", none, false⟩]

/-- The command that a word and flags give. -/
def commandOf (topic : Topic) (word : String) (g : Given) : Command :=
  match topic with
  | .evaluate => .evaluate word (g.valuesOf "param")
  | .teeth => .teeth word (g.value? "shape") (g.has "json")
  | _ => .check word

/-- Reads the arguments of a command; `outer` is what stands before it. -/
def commandFrom (topic : Topic) (outer : Given) (args : List String) : Asked :=
  let flags := flagsOf topic
  match gather flags false args with
  | .error .help => .help topic
  | .error .misuse => .nothing
  | .ok (g, _) =>
    match g.word with
    | some word =>
      if g.hasMore || outer.hasMore then .nothing
      else .request ⟨commandOf topic word g, outer.value? "config", outer.has "verbose"⟩
    | none => .nothing

/-- Reads the arguments of the program. -/
def ask (args : List String) : Asked :=
  let flags := flagsOf .program
  match gather flags true args with
  | .error .help => .help .program
  | .error .misuse => .nothing
  | .ok (g, rest) =>
    match g.word >>= topicOf? with
    | some topic => commandFrom topic g (args.drop (args.length - rest.length))
    | none => .nothing

end Joinery.CommandLine
