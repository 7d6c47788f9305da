import Joinery.Text.Digit
import Joinery.Value.Basic

/-!
# Arguments

The arguments of a command in order: words, flags with a dash and a letter or with two dashes and a
name, and two dashes alone, behind which everything is a word. A name may be cut short as long as
only one flag fits. The value of a flag is the next word, or is attached to it: behind an equals sign
or right behind the letter. What is attached to the letter of a switch are more letters, which share
its dash. What looks like a negative number, or has a space in it, is a word.
-/
namespace Joinery.CommandLine

/-- A flag, which has a value or is a switch. -/
structure Flag where
  name : String
  letter : Option Char := none
  hasValue : Bool := false
  deriving DecidableEq, Repr

/-- The switch that asks for help. -/
def Flag.help : Flag := ⟨"help", some 'h', false⟩

/-- What an argument is by its looks. -/
inductive Argument where
  | word (text : String)
  | separator
  /-- A flag, whether it is given by its letter, and what is attached to it. -/
  | flag (which : Flag) (byLetter : Bool) (attached : Option String)
  | unknown
  /-- Several flags fit. -/
  | ambiguous
  deriving DecidableEq, Repr

/-! ### Looks -/

/-- Whether a text looks like a negative number. -/
def looksNegative : List Char → Bool
  | '-' :: cs =>
    let isDigit c := (Text.digitValue? c).isSome
    let body := if cs.getLast? = some '\n' then cs.dropLast else cs
    match body.dropWhile isDigit with
    | [] => !body.isEmpty
    | '.' :: places => !places.isEmpty && places.all isDigit
    | _ => false
  | _ => false

/-- A text before its first equals sign, and what stands behind that. -/
def splitAtEquals (s : String) : String × Option String :=
  let cs := s.toList
  let name := String.ofList (cs.takeWhile (· ≠ '='))
  match cs.dropWhile (· ≠ '=') with
  | [] => (name, none)
  | _ :: value => (name, some (String.ofList value))

/-- The flag that is spelled out by a text, and whether by its letter. -/
def spelled? (flags : List Flag) (s : String) : Option (Flag × Bool) :=
  match s.toList with
  | ['-', c] => (flags.find? (·.letter = some c)).map (·, true)
  | _ => (flags.find? fun f => "--" ++ f.name = s).map (·, false)

/-- What a text can be that does not spell a flag out. -/
def fitting (flags : List Flag) (s : String) : List Argument :=
  match s.toList with
  | '-' :: '-' :: _ =>
    let (name, value) := splitAtEquals s
    (flags.filter fun f => name.isPrefixOf ("--" ++ f.name)).map (.flag · false value)
  | '-' :: c :: behind =>
    (flags.filter (·.letter = some c)).map (.flag · true (some (String.ofList behind)))
  | _ => []

/-- What an argument with a dash is that does not spell a flag out. -/
def guessed (flags : List Flag) (s : String) : Argument :=
  match fitting flags s with
  | [only] => only
  | _ :: _ :: _ => .ambiguous
  | [] => if looksNegative s.toList || ' ' ∈ s.toList then .word s else .unknown

/-- What an argument with a dash and more is. -/
def dashed (flags : List Flag) (s : String) : Argument :=
  match spelled? flags s with
  | some (f, byLetter) => .flag f byLetter none
  | none =>
    match splitAtEquals s with
    | (name, some value) =>
      match spelled? flags name with
      | some (f, byLetter) => .flag f byLetter (some value)
      | none => guessed flags s
    | (_, none) => guessed flags s

def classify (flags : List Flag) (s : String) : Argument :=
  match s.toList with
  | '-' :: _ :: _ => dashed flags s
  | _ => .word s

/-- What the arguments of a command are. -/
def classifyAll (flags : List Flag) : List String → List Argument
  | [] => []
  | s :: rest =>
    if s = "--" then .separator :: rest.map .word
    else classify flags s :: classifyAll flags rest

/-! ### What is given -/

/-- Why the arguments are no request. -/
inductive Stop where
  | help
  | misuse
  deriving DecidableEq, Repr

/-- What arguments give: the word, and the names of flags with their values in order. -/
structure Given where
  word : Option String := none
  values : List (String × Value) := []
  /-- Whether there are arguments that the command does not know. -/
  hasMore : Bool := false

namespace Given

/-- The last value of a flag. -/
def value? (g : Given) (name : String) : Option Value := g.values.reverse.lookup name

/-- All values of a flag. -/
def valuesOf (g : Given) (name : String) : List Value :=
  (g.values.filter (·.1 = name)).map Prod.snd

def has (g : Given) (name : String) : Bool := (g.value? name).isSome

/-- Adds a flag with its value, or a switch; one switch asks for help instead. -/
def add (g : Given) (f : Flag) (value : Value) : Except Stop Given :=
  if f = Flag.help then .error .help else .ok { g with values := g.values ++ [(f.name, value)] }

/-- Adds flags one after the other. -/
def addAll (g : Given) (flags : List (Flag × Value)) : Except Stop Given :=
  flags.foldlM (fun g f => g.add f.1 f.2) g

end Given

/-- What flags that share a dash give: their values, and perhaps a last flag whose value is the next
word. -/
structure Cluster where
  flags : List (Flag × Value) := []
  open? : Option Flag := none

namespace Cluster

/-- The value that an attached text is; two dashes are taken away as a separator. -/
def attachedValue (text : String) : Value := if text = "--" then .list [] else .text text

/-- A flag to which nothing is attached. -/
def alone (f : Flag) : Cluster := if f.hasValue then ⟨[], some f⟩ else ⟨[(f, .null)], none⟩

/-- A flag given by its letter, and the letters behind it; none when one of them is no flag. -/
def ofLetters? (flags : List Flag) (f : Flag) : List Char → Option Cluster
  | [] => some (alone f)
  | c :: behind =>
    if f.hasValue then some ⟨[(f, attachedValue (String.ofList (c :: behind)))], none⟩
    else
      match flags.find? (·.letter = some c) with
      | none => none
      | some next => (ofLetters? flags next behind).map fun rest =>
        { rest with flags := (f, .null) :: rest.flags }

/-- What a flag gives with what is attached to it; none when nothing can be attached to it. -/
def ofFlag? (flags : List Flag) (f : Flag) (byLetter : Bool) : Option String → Option Cluster
  | none => some (alone f)
  | some text =>
    if f.hasValue then some ⟨[(f, attachedValue text)], none⟩
    else if byLetter && text ≠ "" then ofLetters? flags f text.toList
    else none

end Cluster

/-- Takes arguments in order. A command has one word, before or behind which the separator may stand;
or, if it hands on to another command, everything behind its word is left. -/
def collect (flags : List Flag) (handsOn : Bool) :
    Given → List Argument → Except Stop (Given × List Argument)
  | g, [] => .ok (g, [])
  | g, .flag f byLetter attached :: rest =>
    match Cluster.ofFlag? flags f byLetter attached, rest with
    | none, _ => .error .misuse
    | some ⟨before, none⟩, rest => do collect flags handsOn (← g.addAll before) rest
    | some ⟨before, some f⟩, .word value :: rest => do
      collect flags handsOn (← g.addAll (before ++ [(f, .text value)])) rest
    | some ⟨_, some _⟩, _ => .error .misuse
  | _, .ambiguous :: _ => .error .misuse
  | g, .unknown :: rest => collect flags handsOn { g with hasMore := true } rest
  | g, .word w :: rest =>
    match handsOn, g.word, rest with
    | true, _, rest => .ok ({ g with word := some w }, rest)
    | false, none, .separator :: rest => collect flags handsOn { g with word := some w } rest
    | false, none, rest => collect flags handsOn { g with word := some w } rest
    | false, some _, rest => collect flags handsOn { g with hasMore := true } rest
  | g, .separator :: rest =>
    match handsOn, g.word, rest with
    | false, none, .word w :: rest => collect flags handsOn { g with word := some w } rest
    | true, _, _ => .error .misuse
    | false, _, rest => collect flags handsOn { g with hasMore := true } rest

/-- Reads arguments; one that several flags fit spoils all of them. -/
def gather (flags : List Flag) (handsOn : Bool) (args : List String) :
    Except Stop (Given × List Argument) :=
  let classified := classifyAll flags args
  if .ambiguous ∈ classified then .error .misuse else collect flags handsOn {} classified

end Joinery.CommandLine
