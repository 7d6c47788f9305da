import Joinery.Failure
import Joinery.Notice

/-!
# Outcomes

The result of an operation together with the notices it gave on the way, in order. A failure keeps
the notices given before it.
-/
namespace Joinery

structure Outcome (α : Type) where
  result : Except Failure α
  notices : List Notice := []

namespace Outcome

variable {α β : Type}

/-- An outcome without notices. -/
def ofExcept (result : Except Failure α) : Outcome α := ⟨result, []⟩

def fail (failure : Failure) : Outcome α := ⟨.error failure, []⟩

/-- Gives one notice. -/
def notice (n : Notice) : Outcome Unit := ⟨.ok (), [n]⟩

/-- Goes on with the value of an outcome; the notices of both parts follow each other. -/
protected def bind (x : Outcome α) (f : α → Outcome β) : Outcome β :=
  match x.result with
  | .ok a => ⟨(f a).result, x.notices ++ (f a).notices⟩
  | .error failure => ⟨.error failure, x.notices⟩

instance : Monad Outcome where
  pure a := ⟨.ok a, []⟩
  bind := Outcome.bind

instance : MonadLift (Except Failure) Outcome := ⟨ofExcept⟩

instance : MonadLift (Except Misuse) Outcome where
  monadLift
    | .ok a => ⟨.ok a, []⟩
    | .error cause => ⟨.error (.misuse cause), []⟩

instance : MonadLift (Except Formula.Error) Outcome where
  monadLift
    | .ok a => ⟨.ok a, []⟩
    | .error error => ⟨.error (.formula error), []⟩

instance : Inhabited (Outcome α) := ⟨fail (.misuse .zeroDivisor)⟩

end Outcome

end Joinery
