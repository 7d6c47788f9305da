import Joinery.Binding.Rounding
import Joinery.Number.Power
import Joinery.Text.Replace
import Joinery.Value.Shown

/-!
# Handlers

A handler checks or changes the value of a binding. Handlers form a chain: each takes the value that
the one before it gave, and the first rejection ends the chain. All but the check let through what is
not a number. Settings are kept as they are given; those from documents are doubles, and null stands
for an open end of a range.
-/
namespace Joinery

inductive Handler where
  | passthrough
  /-- Rejects what is not a number between two ends; null is accepted on request. A message can hold
  `{value}`, `{min}` and `{max}`. -/
  | validation (min max allowNull message : Value)
  | clamp (min max : Value)
  | round (decimals : Value) (mode : Rounding)
  | scale (factor offset : Value)
  /-- Maps one range linearly onto another one. -/
  | mapRange (inMin inMax outMin outMax limited : Value)

/-- What a handler answers: a value, and the reason if it was rejected. -/
structure Checked where
  value : Value
  rejection : Option String := none

def Checked.isValid (c : Checked) : Bool := c.rejection.isNone

namespace Handler

/-! ### Processing -/

/-- A number moved into a range. -/
def clampTo {α : Type} [Arithmetic α] (min max x : α) : Except Misuse α := do
  Arithmetic.greatest min (← Arithmetic.least max x)

/-- The image of a number when one range is mapped onto another one, before clamping. -/
def mapTo {α : Type} [Arithmetic α] (inMin inMax outMin outMax x : α) : Except Misuse α := do
  let part ← Arithmetic.div (← Arithmetic.sub x inMin) (← Arithmetic.sub inMax inMin)
  Arithmetic.add outMin (← Arithmetic.mul part (← Arithmetic.sub outMax outMin))

/-- The factor by which a number is scaled so that the given place becomes the last whole one. -/
def placeScale : Value → Except Misuse Value
  | .int i => do
    if i < 0 then
      let _ ← (Number.int i).toDouble
    else if 2 ^ 32 < i then throw .tooLarge
    return Value.tenPow i
  | .bool b => .ok (Value.tenPow (if b then 1 else 0))
  | .float x =>
    let power := x.tenPow
    if x.isFinite && power.isInfinite then .error .outOfRange else .ok (.float power)
  | v => .error (.incompatible .int v.kind)

/-- The rejection of a value, in the words of the handler's own message if it has one. -/
def reject (min max message value : Value) (words : String) : Except Misuse Checked :=
  if message.isTruthy then
    match message with
    | .text template =>
      let filled := Text.replace template "\x7bvalue\x7d" value.shown
      let filled := Text.replace filled "\x7bmin\x7d" min.shown
      .ok ⟨value, some (Text.replace filled "\x7bmax\x7d" max.shown)⟩
    | _ => .error (.notObject message.kind)
  else .ok ⟨value, some words⟩

/-- Checks a value against a range. -/
def validate (min max allowNull message value : Value) : Except Misuse Checked := do
  if value.isNull then
    if allowNull.isTruthy then return ⟨value, none⟩
    else reject min max message value "Value cannot be null"
  else if !(← value.isPlainNumber) then reject min max message value "Value must be a number"
  else if ← Arithmetic.lt value min then
    reject min max message value s!"Value {value.shown} is below minimum {min.shown}"
  else if ← Arithmetic.lt max value then
    reject min max message value s!"Value {value.shown} is above maximum {max.shown}"
  else return ⟨value, none⟩

/-- Changes a number; what is no number stays. -/
def onNumber (value : Value) (change : Value → Except Misuse Value) : Except Misuse Checked := do
  if ← value.isPlainNumber then return ⟨← change value, none⟩ else return ⟨value, none⟩

/-- What a handler answers to a value. -/
def process (h : Handler) (value : Value) : Except Misuse Checked :=
  match h with
  | .passthrough => .ok ⟨value, none⟩
  | .validation min max allowNull message => validate min max allowNull message value
  | .clamp min max => onNumber value (clampTo min max)
  | .round decimals mode => onNumber value fun x => do mode.apply (← placeScale decimals) x
  | .scale factor offset => onNumber value fun x => do
    Arithmetic.add (← Arithmetic.mul x factor) offset
  | .mapRange inMin inMax outMin outMax limited => onNumber value fun x => do
    if inMax.equals inMin then return x
    let mapped ← mapTo inMin inMax outMin outMax x
    if limited.isTruthy then
      clampTo (← Arithmetic.least outMin outMax) (← Arithmetic.greatest outMin outMax) mapped
    else return mapped

/-- Passes a value through a chain up to the first rejection. -/
def runChain : List Handler → Value → Except Misuse Checked
  | [], value => .ok ⟨value, none⟩
  | h :: rest, value => do
    let checked ← h.process value
    match checked.rejection with
    | some _ => return checked
    | none => runChain rest checked.value

/-! ### Documents -/

/-- The kinds of handlers. -/
inductive Kind where
  | passthrough | validation | clamp | round | scale | mapRange
  deriving DecidableEq, Repr

def Kind.all : List Kind := [.passthrough, .validation, .clamp, .round, .scale, .mapRange]

/-- The word for a kind of handler in documents. -/
def Kind.label : Kind → String
  | .passthrough => "passthrough"
  | .validation => "validation"
  | .clamp => "clamp"
  | .round => "round"
  | .scale => "scale"
  | .mapRange => "mapRange"

def kind : Handler → Kind
  | .passthrough => .passthrough
  | .validation .. => .validation
  | .clamp .. => .clamp
  | .round .. => .round
  | .scale .. => .scale
  | .mapRange .. => .mapRange

/-- The settings of a handler in a document. -/
def settings : Handler → Except Misuse (List (String × Value))
  | .passthrough => .ok []
  | .validation min max allowNull message => do
    return [("min", ← min.rangeEnd), ("max", ← max.rangeEnd), ("allowNull", allowNull),
      ("errorMessage", message)]
  | .clamp min max => do return [("min", ← min.rangeEnd), ("max", ← max.rangeEnd)]
  | .round decimals mode => .ok [("decimals", decimals), ("mode", .text mode.label)]
  | .scale factor offset => .ok [("scale", factor), ("offset", offset)]
  | .mapRange inMin inMax outMin outMax limited =>
    .ok [("inMin", inMin), ("inMax", inMax), ("outMin", outMin), ("outMax", outMax),
      ("clamp", limited)]

/-- The handler in a document. -/
def toValue (h : Handler) : Except Misuse Value := do
  return .object (("type", .text h.kind.label) :: (← h.settings))

/-- The way of rounding that a value names; only what can be a key is looked up. -/
def readMode (v : Value) : Except Misuse Rounding := do
  match ← v.key with
  | .text word => return .ofLabel word
  | _ => return .nearest

/-- A double that a document gives. -/
def readDouble (v : Value) (name : String) (default : Binary64) : Except Misuse Value := do
  return .float (← (← v.getD name (.float default)).toDouble)

/-- The handler of a kind with the settings of a document. -/
def ofValue (kind : Kind) (v : Value) : Except Misuse Handler :=
  match kind with
  | .passthrough => .ok .passthrough
  | .validation => do
    let min ← (← v.get "min").readRangeEnd (.infinite true)
    let max ← (← v.get "max").readRangeEnd (.infinite false)
    let allowNull ← v.getD "allowNull" (.bool false)
    return .validation min max (.bool allowNull.isTruthy) (← v.get "errorMessage")
  | .clamp => do
    let min ← (← v.get "min").readRangeEnd (.infinite true)
    return .clamp min (← (← v.get "max").readRangeEnd (.infinite false))
  | .round => do
    let decimals ← (← v.getD "decimals" (.int 0)).toInteger
    return .round (.int decimals) (← readMode (← v.getD "mode" (.text "round")))
  | .scale => do
    let factor ← readDouble v "scale" 1
    return .scale factor (← readDouble v "offset" 0)
  | .mapRange => do
    let inMin ← readDouble v "inMin" 0
    let inMax ← readDouble v "inMax" 100
    let outMin ← readDouble v "outMin" 0
    let outMax ← readDouble v "outMax" 1
    let limited ← v.getD "clamp" (.bool true)
    return .mapRange inMin inMax outMin outMax (.bool limited.isTruthy)

/-! ### Settings as given -/

/-- The names of the settings of a kind, with their defaults. -/
def defaults : Kind → List (String × Value)
  | .passthrough => []
  | .validation =>
    [("min", .float (.infinite true)), ("max", .float (.infinite false)),
      ("allow_null", .bool false), ("error_message", .null)]
  | .clamp => [("min", .float (.infinite true)), ("max", .float (.infinite false))]
  | .round => [("decimals", .int 0), ("mode", .text "round")]
  | .scale => [("scale", .float 1), ("offset", .float 0)]
  | .mapRange =>
    [("in_min", .float 0), ("in_max", .float 100), ("out_min", .float 0), ("out_max", .float 1),
      ("clamp", .bool true)]

/-- The handler of a kind with settings that are kept as they are given. -/
def ofFields (kind : Kind) (fields : List (String × Value)) : Except Misuse Handler := do
  let setting ← Value.settings (defaults kind) fields
  match kind with
  | .passthrough => return .passthrough
  | .validation =>
    return .validation (setting "min") (setting "max") (setting "allow_null")
      (setting "error_message")
  | .clamp => return .clamp (setting "min") (setting "max")
  | .round => return .round (setting "decimals") (← readMode (setting "mode"))
  | .scale => return .scale (setting "scale") (setting "offset")
  | .mapRange =>
    return .mapRange (setting "in_min") (setting "in_max") (setting "out_min") (setting "out_max")
      (setting "clamp")

end Handler

end Joinery
