import Joinery.Failure
import Joinery.Number.Circular
import Joinery.Table
import Joinery.Text.Case

/-!
# Functions

The functions that a formula may call, and the registry of them. Names are looked up in lower case;
registering a name again replaces the function and keeps its place.
-/
namespace Joinery.Formula

/-- A function with the number of arguments it takes; without a maximum it takes any number. -/
structure Function where
  name : String
  minArgs : Int := 1
  maxArgs : Option Int := some 1
  apply : List Binary64 → Except Failure Binary64

namespace Function

def accepts (f : Function) (count : Nat) : Bool :=
  f.minArgs ≤ count && f.maxArgs.all fun (max : Int) => (count : Int) ≤ max

/-- The number of arguments in words. -/
def arity (f : Function) : String :=
  let noun := if f.minArgs = 1 then "argument" else "arguments"
  match f.maxArgs with
  | none => s!"at least {f.minArgs} {noun}"
  | some max =>
    if f.minArgs = max then s!"exactly {f.minArgs} {noun}"
    else s!"{f.minArgs} to {max} arguments"

/-- A function of one argument. -/
def unary (name : String) (apply : Binary64 → Except Failure Binary64) : Function where
  name := name
  apply
    | [x] => apply x
    | _ => .error (.misuse (.incompatible .list .float))

/-- A circular function: infinities have none. -/
def circular (name : String) (apply : Binary64 → Option Binary64) : Function :=
  unary name fun x =>
    match apply x with
    | some y => .ok y
    | none => .error (.misuse .undefined)

/-- The square root; a negative number is outside its domain. -/
def root : Function :=
  unary "sqrt" fun x =>
    if x.lt 0 then
      .error (.formula ⟨.outsideDomain "sqrt" "argument must be non-negative", none, none⟩)
    else .ok x.sqrt

/-- A function that keeps one of its arguments: a later one replaces the kept one when it is
better. -/
def selecting (name : String) (better : Binary64 → Binary64 → Bool) : Function where
  name := name
  maxArgs := none
  apply
    | x :: rest => .ok (rest.foldl (fun kept y => if better y kept then y else kept) x)
    | [] => .error (.misuse (.incompatible .list .float))

/-- A function that adds its arguments from the left, starting at zero. -/
def summing (name : String) (minArgs : Int) (maxArgs : Option Int) : Function :=
  ⟨name, minArgs, maxArgs, fun xs => .ok (xs.foldl (· + ·) 0)⟩

end Function

/-- The functions that may be called, by name. -/
structure Functions where
  table : Table String Function

namespace Functions

def find? (fs : Functions) (name : String) : Option Function := fs.table.find? (Text.lower name)

def contains (fs : Functions) (name : String) : Bool := fs.table.contains (Text.lower name)

def register (fs : Functions) (f : Function) : Functions :=
  ⟨fs.table.insert (Text.lower f.name) f⟩

/-- The names in order of registration. -/
def names (fs : Functions) : List String := fs.table.keys

/-- The functions that are always there. -/
def builtin : Functions :=
  [.circular "sin" Binary64.sin?, .circular "cos" Binary64.cos?, .root,
    .unary "abs" fun x => .ok x.abs, .selecting "min" Binary64.lt,
    .selecting "max" fun y kept => kept.lt y].foldl register ⟨Table.empty⟩

end Functions

end Joinery.Formula
