import Joinery.Value.Basic

/-!
# Arithmetic

The operations that geometry, joints and parameters compute with, as a class: they run on document
values and can be read over exact numbers. Every operation may refuse its operands. The class asks
for no laws, for rounded arithmetic has few.
-/
namespace Joinery

class Arithmetic (α : Type) where
  /-- An integer. -/
  ofInt : Int → α
  /-- The constant `digits / 10 ^ places`. -/
  decimal : Nat → Nat → α
  /-- A power of ten. -/
  tenPow : Int → α
  add : α → α → Except Misuse α
  sub : α → α → Except Misuse α
  mul : α → α → Except Misuse α
  div : α → α → Except Misuse α
  neg : α → Except Misuse α
  lt : α → α → Except Misuse Bool
  le : α → α → Except Misuse Bool
  /-- Length of the vector with the given sides. -/
  hypot : α → α → Except Misuse α
  floor : α → Except Misuse Int
  ceil : α → Except Misuse Int
  trunc : α → Except Misuse Int
  /-- The nearest integer, the even one at a tie. -/
  round : α → Except Misuse Int
  /-- The number that a document value stands for; none when it stands for no number. -/
  read : Value → Except Misuse (Option α)
  isFinite : α → Bool

namespace Arithmetic

variable {α : Type} [Arithmetic α]

/-- The smaller of two; the first one unless the second is strictly below it. -/
def least (a b : α) : Except Misuse α := do
  return if ← lt b a then b else a

/-- The greater of two; the first one unless the second is strictly above it. -/
def greatest (a b : α) : Except Misuse α := do
  return if ← lt a b then b else a

/-- The smallest of a first number and others. -/
def leastOf (first : α) (others : List α) : Except Misuse α := others.foldlM least first

/-- The greatest of a first number and others. -/
def greatestOf (first : α) (others : List α) : Except Misuse α := others.foldlM greatest first

end Arithmetic

namespace Value

/-- Applies an operation to two numbers. -/
def onNumbers (op : Number → Number → Except Misuse Number) (a b : Value) : Except Misuse Value :=
  match a.number?, b.number? with
  | some m, some n => do return ofNumber (← op m n)
  | _, _ => .error (.incompatible a.kind b.kind)

/-- Numbers are added; two texts and two lists are joined. -/
def add (a b : Value) : Except Misuse Value :=
  match a, b with
  | .text s, .text t => .ok (.text (s ++ t))
  | .list xs, .list ys => .ok (.list (xs ++ ys))
  | _, _ => onNumbers Number.add a b

def sub (a b : Value) : Except Misuse Value := onNumbers Number.sub a b

/-- How many items a text or list can have. -/
def maxLength : Int := 2 ^ 63 - 1

/-- How often a text or list of a length is repeated when an integer asks for it; no times for one
below zero. The count has to fit into a machine word, and the length of the whole into memory. -/
def repetitions (count : Int) (length : Nat) : Except Misuse Nat :=
  if count < -maxLength - 1 || maxLength < count then .error .outOfRange
  else if 2 ^ 40 < length * count then .error .tooLarge
  else .ok count.toNat

/-- A text or list, repeated. -/
def repeated (count : Int) : Value → Except Misuse Value
  | .text s => do
    let times ← repetitions count s.length
    return .text (String.join (List.replicate times s))
  | .list items => do
    let times ← repetitions count items.length
    return .list (List.replicate times items).flatten
  | v => .error (.incompatible .int v.kind)

/-- Numbers are multiplied; an integer repeats a text or list. -/
def mul (a b : Value) : Except Misuse Value :=
  match a.number?, b.number? with
  | some (.int n), none => repeated n b
  | none, some (.int n) => repeated n a
  | _, _ => onNumbers Number.mul a b

def div (a b : Value) : Except Misuse Value := onNumbers Number.div a b

def neg (v : Value) : Except Misuse Value :=
  match v.number? with
  | some n => .ok (ofNumber n.neg)
  | none => .error (.notReal v.kind)

/-- Compares two numbers. -/
def compareBy (relation : Number → Number → Bool) (a b : Value) : Except Misuse Bool :=
  match a.number?, b.number? with
  | some m, some n => .ok (relation m n)
  | _, _ => .error (.incompatible a.kind b.kind)

def hypot (a b : Value) : Except Misuse Value := do
  let x ← (← a.real).toDouble
  let y ← (← b.real).toDouble
  return .float (Binary64.hypot x y)

/-- The whole number that a rule picks for a number. -/
def whole (rule : Binary64 → Option Int) (v : Value) : Except Misuse Int := do
  (← v.real).whole rule

/-- Reads a number; what stands for none, NaN among them, is absent, but an integer beyond all
doubles fails. -/
def readNumber (v : Value) : Except Misuse (Option Value) :=
  match v.toDouble with
  | .ok .nan => .ok none
  | .ok x => .ok (some (.float x))
  | .error .outOfRange => .error .outOfRange
  | .error _ => .ok none

/-- A power of ten; an integer as long as it is whole. -/
def tenPow (exponent : Int) : Value :=
  if 0 ≤ exponent then .int (10 ^ exponent.toNat)
  else .float (Reading.double false 1 exponent)

instance : Arithmetic Value where
  ofInt := .int
  decimal digits places := .float (.ofDecimal false digits (-places))
  tenPow := tenPow
  add := add
  sub := sub
  mul := mul
  div := div
  neg := neg
  lt := compareBy Number.lt
  le := compareBy Number.le
  hypot := hypot
  floor := whole Binary64.floor?
  ceil := whole Binary64.ceil?
  trunc := whole Binary64.trunc?
  round := whole Binary64.round?
  read := readNumber
  isFinite
    | .float x => x.isFinite
    | _ => true

end Value

end Joinery
