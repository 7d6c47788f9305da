import Joinery.Binding.Handler
import Joinery.Formula.Evaluation
import Joinery.Parameter.Store

/-!
# Bindings

What a property of a shape holds in place of a number: a constant, a parameter, a formula over
parameter names, or another binding whose value goes through a chain of handlers. Resolving a binding
gives a value and leaves two traces in it: a formula keeps its last reading, and a chain keeps the
reason of its last rejection. A missing parameter counts as zero and is noticed.
-/
namespace Joinery

/-- A formula together with the text it was read from. -/
abbrev Reading? := Option (String × Formula)

inductive Binding where
  | literal (value : Value)
  | parameter (id : Value)
  /-- The text of a formula, which may be something else than a text until it is read, and the last
  reading of a text. -/
  | expression (text : Value) (last : Reading?)
  /-- A binding, the handlers for its value, and the reason of the last rejection. -/
  | processed (wrapped : Binding) (handlers : List Handler) (lastError : Option String)
  /-- A value that stands where a binding is needed. -/
  | foreign (value : Value)

/-- What bindings are resolved against. -/
structure Environment where
  store : Option ParameterStore
  functions : Option Formula.Functions

/-- What resolving leaves: a value or a failure, notices, and the binding with its traces. -/
structure Resolution where
  outcome : Outcome Value
  binding : Binding

namespace Binding

/-- The formula of a text: the last reading if it was of this text, else a new one. -/
def reading (text : Value) : Reading? → Except Formula.Error Formula
  | some (source, f) => if text.equals (.text source) then .ok f else Formula.readValue text
  | none => Formula.readValue text

/-- What a text was read as, to be kept for the next time. -/
def readingOf (text : Value) (f : Formula) : Reading? :=
  match text with
  | .text source => some (source, f)
  | _ => none

/-- The values that a formula sees. -/
def contextOf (values : Catalogue Value) : Context := fun name => (values.atText? name).getD .null

/-- The value of a formula over the parameters of a store. -/
def evaluateIn (functions : Formula.Functions) (store : ParameterStore) (f : Formula) :
    Outcome Value := do
  let context ← store.context
  return .float (← f.evaluate functions (contextOf context))

/-- The value of a parameter. -/
def parameterIn (store : ParameterStore) (id : Value) : Outcome Value := do
  match ← store.find? id with
  | some p => return p.value
  | none =>
    Outcome.notice (.missingParameter id)
    return .float 0

/-- What a chain makes of the value before it: a rejection is noticed, and leaves that value. -/
def afterChain (wrapped : Binding) (handlers : List Handler) (lastError : Option String)
    (raw : Outcome Value) : Resolution :=
  match raw.result with
  | .error _ => ⟨raw, .processed wrapped handlers lastError⟩
  | .ok value =>
    match Handler.runChain handlers value with
    | .error cause =>
      ⟨⟨.error (.misuse cause), raw.notices⟩, .processed wrapped handlers lastError⟩
    | .ok ⟨_, some reason⟩ =>
      ⟨⟨.ok value, raw.notices ++ [.rejected reason]⟩, .processed wrapped handlers (some reason)⟩
    | .ok ⟨result, none⟩ => ⟨⟨.ok result, raw.notices⟩, .processed wrapped handlers none⟩

/-- A formula with another text; its last reading stays. -/
def withText (b : Binding) (text : Value) : Binding :=
  match b with
  | .expression _ last => .expression text last
  | b => b

/-- The value of a binding. -/
def resolve (env : Environment) : Binding → Resolution
  | .literal value => ⟨pure value, .literal value⟩
  | .parameter id =>
    match env.store with
    | none => ⟨.fail (.binding .parameterNeedsStore), .parameter id⟩
    | some store => ⟨parameterIn store id, .parameter id⟩
  | .expression text last =>
    match env.store, env.functions with
    | some store, some functions =>
      match reading text last with
      | .error error => ⟨.fail (.formula error), .expression text last⟩
      | .ok f => ⟨evaluateIn functions store f, .expression text (readingOf text f)⟩
    | _, _ => ⟨.fail (.binding .expressionNeedsStoreAndEngine), .expression text last⟩
  | .processed wrapped handlers lastError =>
    let inner := resolve env wrapped
    afterChain inner.binding handlers lastError inner.outcome
  | .foreign value => ⟨.fail (.misuse (.notObject value.kind)), .foreign value⟩

/-! ### Documents -/

/-- The word for a sort of binding. -/
def sort : Binding → String
  | .literal _ => "literal"
  | .parameter _ => "parameter"
  | .expression .. => "expression"
  | .processed .. => "processed"
  | .foreign value => value.kind.label

/-- The binding in a document. -/
def toValue : Binding → Except Misuse Value
  | .literal value => .ok (.object [("type", .text "literal"), ("value", value)])
  | .parameter id => .ok (.object [("type", .text "parameter"), ("parameterId", id)])
  | .expression text _ => .ok (.object [("type", .text "expression"), ("expression", text)])
  | .processed wrapped handlers _ => do
    return .object [("type", .text "processed"), ("wrappedBinding", ← wrapped.toValue),
      ("handlers", .list (← handlers.mapM Handler.toValue))]
  | .foreign value => .error (.notObject value.kind)

/-- Equal but for the traces of resolving. -/
def same : Binding → Binding → Except Misuse Bool
  | .literal a, .literal b => .ok (a.equals b)
  | .parameter a, .parameter b => .ok (a.equals b)
  | .expression a _, .expression b _ => .ok (a.equals b)
  | a@(.processed ..), b@(.processed ..) => do return (← a.toValue).equals (← b.toValue)
  | _, _ => .ok false

/-! ### Chains -/

/-- A binding with the handlers for its value, and the reason of the last rejection. -/
structure Chain where
  wrapped : Binding
  handlers : List Handler
  lastError : Option String

/-- The chain that a binding is. -/
def asChain : Binding → Except Misuse Chain
  | .processed wrapped handlers lastError => .ok ⟨wrapped, handlers, lastError⟩
  | _ => .error (.notObject .object)

/-- The binding that a chain is. -/
def ofChain (c : Chain) : Binding := .processed c.wrapped c.handlers c.lastError

namespace Chain

/-- Adds a handler at the end. -/
def add (c : Chain) (h : Handler) : Chain := { c with handlers := c.handlers ++ [h] }

/-- Removes all handlers of a kind, given by its word. -/
def remove (c : Chain) (word : Value) : Chain :=
  { c with handlers := c.handlers.filter fun h => !word.equals (.text h.kind.label) }

/-- Removes all handlers. -/
def clear (c : Chain) : Chain := { c with handlers := [] }

/-- What the handlers answer to a value. -/
def validate (c : Chain) (value : Value) : Except Misuse Checked :=
  Handler.runChain c.handlers value

/-- The chain with another formula text, if it is a formula that is wrapped. -/
def withText (c : Chain) (text : Value) : Chain := { c with wrapped := c.wrapped.withText text }

end Chain

/-- A chain around a binding that may be absent. -/
def wrap? : Option Binding → Except Failure Binding
  | some wrapped => .ok (.processed wrapped [] none)
  | none => .error (.binding .nothingToWrap)

end Binding

end Joinery
