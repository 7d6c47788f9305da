import Joinery.Parameter.Store

/-!
# Changes of parameters

Setting a parameter tells every listener of the change, one after the other: those that were there
when the value changed, also those that have left since. A listener is told the value that the
parameter has by then. What a listener sets is settled, with all that follows from it, before the
next listener hears of the first change.
-/
namespace Joinery

/-- A change of the parameter under a key, and the numbers of those who are to be told of it. -/
structure Change where
  key : Value.Key
  audience : List Nat

/-- What has happened when an operation on a store ends: the store, the notifications and the changes
in order, and whether the operation failed. -/
structure Transition where
  result : Except Failure Unit
  store : ParameterStore
  notifications : List Notification := []
  changes : List Change := []

namespace Transition

/-- Nothing more happens. -/
def stay (s : ParameterStore) : Transition := { result := .ok (), store := s }

def fail (s : ParameterStore) (failure : Failure) : Transition :=
  { result := .error failure, store := s }

/-- A listener is told something. -/
def tell (s : ParameterStore) (n : Notification) : Transition :=
  { result := .ok (), store := s, notifications := [n] }

/-- A value has changed. -/
def change (s : ParameterStore) (c : Change) : Transition :=
  { result := .ok (), store := s, changes := [c] }

/-- Goes on with the store, unless the operation has failed. -/
def andThen (t : Transition) (next : ParameterStore → Transition) : Transition :=
  match t.result with
  | .error _ => t
  | .ok _ =>
    let u := next t.store
    { u with
      notifications := t.notifications ++ u.notifications
      changes := t.changes ++ u.changes }

end Transition

namespace ParameterStore

/-- The numbers of those who are told when a value changes now. -/
def audience (s : ParameterStore) : List Nat := s.listeners.map Prod.fst

/-- The store with another parameter under a key that is there. -/
def withParameter (s : ParameterStore) (key : Value.Key) (p : Parameter) : ParameterStore :=
  { s with parameters := s.parameters.modify key fun _ => p }

/-- Performs an action, with a given way to set a parameter. -/
def perform (set : ParameterStore → Value → Value → Transition) :
    Action → ParameterStore → Transition
  | .done, s => .stay s
  | .fail cause, s => .fail s (.misuse cause)
  | .read next, s => perform set (next s.parameters) s
  | .set id value next, s => (set s id value).andThen (perform set next)
  | .subscribe listener next, s =>
    let (number, s') := s.subscribe listener
    perform set (next number) s'
  | .unsubscribe listener next, s => perform set next (s.unsubscribe listener)
  | .recollect next, s => perform set (next s.memory) s
  | .remember note next, s => perform set next { s with memory := note }

/-- What a listener is told by now of a change. -/
def news (s : ParameterStore) (key : Value.Key) (id old : Value) (listener : Nat) : Notification :=
  { listener, key, id, old, new := ((s.parameters.at? key).map Parameter.value).getD old }

/-- Tells listeners of a change, one after the other. -/
def announce (set : ParameterStore → Value → Value → Transition) (key : Value.Key) (id old : Value) :
    List (Nat × Listener) → ParameterStore → Transition
  | [], s => .stay s
  | (number, listener) :: rest, s =>
    let n := s.news key id old number
    ((Transition.tell s n).andThen (perform set (listener n))).andThen
      (announce set key id old rest)

/-- Sets a parameter; listeners may answer changes by changes up to the given depth. -/
def setWithin : Nat → ParameterStore → Value → Value → Transition
  | 0, s, _, _ => .fail s (.parameter .endless)
  | depth + 1, s, id, value =>
    match id.key with
    | .error cause => .fail s (.misuse cause)
    | .ok key =>
      match s.parameters.at? key with
      | none => .fail s (.parameter (.unknown id.shown))
      | some p =>
        match p.withValue value with
        | .error cause => .fail s (.misuse cause)
        | .ok changed =>
          let s' := s.withParameter key changed
          if p.value.equals changed.value then .stay s'
          else
            (Transition.change s' ⟨key, s.audience⟩).andThen
              (announce (setWithin depth) key p.id p.value s.listeners)

/-- How deep changes may answer changes. Doubling takes the smallest double past the largest in
fewer steps. -/
def depthLimit : Nat := 10000

/-- Sets a parameter. -/
def set (s : ParameterStore) (id value : Value) : Transition := setWithin depthLimit s id value

end ParameterStore

namespace Listener

/-- A listener that only listens. -/
def passive : Listener := fun _ => .done

/-- A listener that leaves when it is told of a change. -/
def once : Listener := fun n => .unsubscribe n.listener .done

/-- A listener that sets another parameter to twice the new value. -/
def doubling (target : Value) : Listener := fun n =>
  if n.id.equals target then .done
  else
    match Value.mul n.new (.int 2) with
    | .ok doubled => .set target doubled .done
    | .error cause => .fail cause

end Listener

end Joinery
