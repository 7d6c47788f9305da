import Joinery.Binding.Registry
import Joinery.Proofs.Table

/-!
# What registries make of documents

A registry looks the word of a document up and goes by the factory that it finds. A chain is made
from the inside out: first what it wraps, by the same registry, then its handlers.
-/
namespace Joinery.BindingRegistry

open Binding

variable {r : BindingRegistry}

theorem factoryFor_object {fields : List (String × Value)} {word : Value}
    (typed : fields.lookup "type" = some word) :
    r.factoryFor (.object fields) =
      liftM (r.factories.find? word) >>= fun found => found.elim
        (do throw (.binding (.unknownType word.shown (← r.factories.textKeys)))) .ok := by
  unfold factoryFor
  simp only [typed]
  refine bind_congr fun found => ?_
  cases found <;> rfl

theorem factoryFor_of_find? {fields : List (String × Value)} {word : Value} {factory : Factory}
    (typed : fields.lookup "type" = some word)
    (found : r.factories.find? word = .ok (some factory)) :
    r.factoryFor (.object fields) = .ok factory := by
  rw [factoryFor_object typed, found]
  rfl

theorem exists_word_of_factoryFor {fields : List (String × Value)} {factory : Factory}
    (success : r.factoryFor (.object fields) = .ok factory) :
    ∃ word, fields.lookup "type" = some word ∧ r.factories.find? word = .ok (some factory) := by
  cases typed : fields.lookup "type" with
  | none =>
    unfold factoryFor at success
    simp only [typed] at success
    cases success
  | some word =>
    rw [factoryFor_object typed] at success
    obtain ⟨found, hfound, success⟩ := bind_eq_ok_iff.1 success
    cases found with
    | none =>
      obtain ⟨keys, -, success⟩ := bind_eq_ok_iff.1 success
      cases success
    | some factory =>
      cases success
      exact ⟨word, rfl, liftM_eq_ok_iff.1 hfound⟩

/-- The words that the builtin registry knows, each with its factory. -/
theorem find?_factories_cases {word : Value} {factory : Factory}
    (success : builtin.factories.find? word = .ok (some factory)) :
    word = .text "literal" ∧ factory = .plain literalOf ∨
      word = .text "parameter" ∧ factory = .plain parameterOf ∨
      word = .text "expression" ∧ factory = .plain expressionOf ∨
      word = .text "processed" ∧ factory = .chain := by
  have listed : builtin.factories.table.entries =
      [("literal", .plain literalOf), ("parameter", .plain parameterOf),
        ("expression", .plain expressionOf), ("processed", Factory.chain)].map fun item =>
        (.text item.1, .text item.1, item.2) := rfl
  obtain ⟨name, rfl, member⟩ := (Catalogue.find?_eq_ok_some_iff listed).1 success
  simpa only [List.mem_cons, Prod.mk.injEq, List.not_mem_nil, or_false, Value.text.injEq]
    using member

theorem create_of_refused {v : Value} {failure : Failure}
    (refused : r.factoryFor v = .error failure) : r.create v = .error failure := by
  unfold create
  rw [refused]

theorem create_plain {v : Value} {make : Value → Except Failure Binding}
    (factory : r.factoryFor v = .ok (.plain make)) : r.create v = make v := by
  unfold create
  rw [factory]

/-- What a chain makes of a document: first what it wraps, then its handlers. -/
theorem create_of_chain {fields : List (String × Value)}
    (factory : r.factoryFor (.object fields) = .ok .chain) :
    r.create (.object fields) =
      match fields.lookup "wrappedBinding" with
      | some (.object wrapped) => do
        let inner ← r.create (.object wrapped)
        return .processed inner (← r.handlersOf (.object fields)) none
      | _ => .error (.binding .wrappedMissing) := by
  conv => lhs; unfold create
  rw [factory]
  dsimp only
  split
  · next wrapped found =>
    rw [found]
    dsimp only
    cases r.create (.object wrapped) with
    | error failure => rfl
    | ok inner => cases r.handlersOf (.object fields) <;> rfl
  · next other =>
    split
    · next wrapped found => exact absurd found (other wrapped)
    · rfl

end Joinery.BindingRegistry
