import Joinery.Failure
import Joinery.Joint.Basic
import Joinery.Notice
import Joinery.Yaml.Node

/-!
# Settings

What a user can set once for all designs: what joints are given when nothing else is said, and how
much is logged and where. A settings file has two sections, both optional, and no other keys than
these. The first setting that is refused ends the reading.
-/
namespace Joinery

structure Settings where
  joints : JointDefaults := {}
  level : LogLevel := .info
  /-- Where the log is written beside the console; any node is kept. -/
  file : Node := .scalar .null

namespace Settings

def jointsName : String := "joinery"

def loggingName : String := "logging"

/-! ### Sections -/

/-- The texts that are keys of a mapping without being known ones, in alphabetical order; other
unknown keys than texts cannot be named. -/
def unknownKeys (known : List String) (entries : List (Node × Node)) :
    Except Misuse (List String) := do
  let names ← (entries.map Prod.fst).filterMapM fun key =>
    match key with
    | .scalar (.text name) => pure (if known.contains name then none else some name)
    | n => throw (.notText n.toValue.kind)
  return names.mergeSort (· ≤ ·)

/-- The node under a text key; null when there is none. -/
def entry (entries : List (Node × Node)) (name : String) : Option Node :=
  (entries.find? fun e => e.1.sameKey (.text name)).map Prod.snd

/-- The entries of a section, which has only known keys; null counts as no entries. -/
def sectionEntries (name : String) (known : List String) : Node →
    Except Failure (List (Node × Node))
  | .scalar .null => .ok []
  | .mapping entries => do
    match ← unknownKeys known entries with
    | [] => return entries
    | unknown => throw (.settings (.unknownKeys name unknown))
  | _ => throw (.settings (.sectionNotMapping name))

/-- Refuses a node in words that quote it; an integer in it may be too long to be quoted. -/
def refuse {β : Type} (n : Node) (fault : String → Fault) : Except Failure β :=
  if n.isWritable then .error (.settings (fault n.quoted)) else .error (.misuse .tooLongToWrite)

/-- One of some things by its name, which has to be given as a text. -/
def oneOf {β : Type} (setting : String) (all : List β) (label : β → String) (n : Node) :
    Except Failure β :=
  let named : Option β :=
    match n with
    | .scalar (.text name) => all.find? fun b => label b = name
    | _ => none
  match named with
  | some b => .ok b
  | none => refuse n (.notOneOf setting (all.map label))

/-- A number that is no truth value. -/
def numberOf (setting : String) : Node → Except Failure Number
  | .scalar (.int i) => .ok (.int i)
  | .scalar (.float x) => .ok (.float x)
  | n => refuse n (.notNumber setting)

def integerOf (setting : String) : Node → Except Failure Int
  | .scalar (.int i) => .ok i
  | n => refuse n (.notInteger setting)

/-- A setting, or its default when the section does not have it. -/
def readOr {β : Type} (entries : List (Node × Node)) (name : String) (default : β)
    (read : Node → Except Failure β) : Except Failure β :=
  match entry entries name with
  | some n => read n
  | none => .ok default

def readJoints (n : Node) : Except Failure JointDefaults := do
  let entries ← sectionEntries jointsName ["thickness_mm", "finger_count", "align", "type"] n
  let d : JointDefaults := {}
  let align ← readOr entries "align" d.align (oneOf "joinery.align" Alignment.all Alignment.label)
  let kind ← readOr entries "type" d.kind (oneOf "joinery.type" JointKind.all JointKind.label)
  let thickness ← readOr entries "thickness_mm" d.thickness (numberOf "joinery.thickness_mm")
  let fingerCount ← readOr entries "finger_count" d.fingerCount (integerOf "joinery.finger_count")
  return ⟨thickness, fingerCount, align, kind⟩

/-- The level that a node names, in any case, when it is written out. -/
def readLevel (n : Node) : Except Failure LogLevel :=
  if n.isWritable then
    oneOf "logging.level" LogLevel.all LogLevel.label (.text (Text.upper n.shown))
  else .error (.misuse .tooLongToWrite)

/-! ### Documents -/

/-- The settings that a file gives; null stands for an empty file. -/
def ofNode : Node → Except Failure Settings
  | .scalar .null => .ok {}
  | .mapping entries => do
    match ← unknownKeys [jointsName, loggingName] entries with
    | [] =>
      let joints ← readJoints ((entry entries jointsName).getD default)
      let logging ← sectionEntries loggingName ["level", "file"]
        ((entry entries loggingName).getD default)
      let level ← readOr logging "level" .info readLevel
      return ⟨joints, level, (entry logging "file").getD default⟩
    | unknown => throw (.settings (.unknownSections unknown))
  | _ => throw (.settings .notMapping)

/-- The settings as a node, with every key. -/
def toNode (s : Settings) : Node :=
  .mapping
    [(.text jointsName, .mapping
      [(.text "thickness_mm", .scalar (.ofNumber s.joints.thickness)),
        (.text "finger_count", .scalar (.int s.joints.fingerCount)),
        (.text "align", .text s.joints.align.label),
        (.text "type", .text s.joints.kind.label)]),
    (.text loggingName, .mapping
      [(.text "level", .text s.level.label), (.text "file", s.file)])]

/-- Equal settings; NaN counts as equal to itself. -/
def same (a b : Settings) : Bool := a.toNode.same b.toNode

end Settings

end Joinery
