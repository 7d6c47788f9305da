import Joinery.Proofs.Binding.Reading
import Joinery.Proofs.Binding.Chains

/-!
# Traces of resolving

Resolving leaves traces in a binding: what a formula was read as, and why a chain rejected last.
Neither is seen from outside: with its traces a binding resolves in every environment as it would
without them, and it is written the same.
-/
namespace Joinery

namespace Binding

/-- In every environment the bindings give the same value or failure, after the same notices. -/
def Alike (b b' : Binding) : Prop :=
  ∀ env : Environment, (b'.resolve env).outcome = (b.resolve env).outcome

/-- A reading that is kept is not read anew, and what cannot be kept is read as before. -/
theorem reading_readingOf {text : Value} {last : Reading?} {f : Formula}
    (read : reading text last = .ok f) : reading text (readingOf text f) = .ok f := by
  have anew (other : ∀ source, text ≠ .text source) : reading text last = reading text none := by
    cases last with
    | none => rfl
    | some entry =>
      obtain ⟨source, g⟩ := entry
      exact if_neg fun same => other source (Value.equals_text_iff.1 same)
  cases text with
  | text source => exact if_pos (Value.equals_text_iff.2 rfl)
  | null | bool | int | float | list | object => exact (anew nofun).symm.trans read

/-- What a chain gives does not depend on the reason that it keeps. -/
theorem outcome_afterChain (wrapped wrapped' : Binding) (hs : List Handler)
    (lastError lastError' : Option String) (raw : Outcome Value) :
    (afterChain wrapped' hs lastError' raw).outcome =
      (afterChain wrapped hs lastError raw).outcome := by
  unfold afterChain
  split
  · rfl
  · split <;> rfl

theorem exists_binding_afterChain (wrapped : Binding) (hs : List Handler)
    (lastError : Option String) (raw : Outcome Value) :
    ∃ reason, (afterChain wrapped hs lastError raw).binding = .processed wrapped hs reason := by
  unfold afterChain
  split
  · exact ⟨_, rfl⟩
  · split <;> exact ⟨_, rfl⟩

/-- Resolving leaves a formula of the same text. -/
theorem exists_binding_expression (text : Value) (last : Reading?) (env : Environment) :
    ∃ next, ((expression text last).resolve env).binding = .expression text next := by
  rw [resolve]
  cases env.store with
  | none => exact ⟨last, rfl⟩
  | some store =>
    cases env.functions with
    | none => exact ⟨last, rfl⟩
    | some functions => cases reading text last <;> exact ⟨_, rfl⟩

theorem Alike.processed {b b' : Binding} (alike : b.Alike b') (hs : List Handler)
    (lastError lastError' : Option String) :
    (Binding.processed b hs lastError).Alike (.processed b' hs lastError') := by
  intro env
  rw [resolve, resolve, alike env]
  exact outcome_afterChain ..

/-- With the traces of resolving, a binding resolves as without them, also in another
environment. -/
theorem alike_resolve (b : Binding) (env : Environment) : b.Alike (b.resolve env).binding := by
  induction b with
  | literal | foreign => exact fun _ => rfl
  | parameter id =>
    rw [resolve]
    cases env.store <;> exact fun _ => rfl
  | expression text last =>
    rw [resolve]
    cases env.store with
    | none => exact fun _ => rfl
    | some store =>
      cases env.functions with
      | none => exact fun _ => rfl
      | some functions =>
        cases read : reading text last with
        | error error => exact fun _ => rfl
        | ok f =>
          intro env'
          rw [resolve, resolve, read, reading_readingOf read]
          cases env'.store <;> cases env'.functions <;> rfl
  | processed wrapped hs lastError ih =>
    rw [resolve]
    obtain ⟨reason, kept⟩ := exists_binding_afterChain (wrapped.resolve env).binding hs lastError
      (wrapped.resolve env).outcome
    rw [kept]
    exact ih.processed hs lastError reason

/-- A document does not show the traces. -/
theorem toValue_resolve (b : Binding) (env : Environment) :
    (b.resolve env).binding.toValue = b.toValue := by
  induction b with
  | literal | foreign => rfl
  | parameter id =>
    rw [resolve]
    cases env.store <;> rfl
  | expression text last =>
    obtain ⟨next, kept⟩ := exists_binding_expression text last env
    rw [kept, toValue, toValue]
  | processed wrapped hs lastError ih =>
    rw [resolve]
    obtain ⟨reason, kept⟩ := exists_binding_afterChain (wrapped.resolve env).binding hs lastError
      (wrapped.resolve env).outcome
    rw [kept, toValue, toValue, ih]

/-- What is no binding stays so, and what is one does not become so. -/
theorem resolve_eq_foreign_iff {b : Binding} {env : Environment} {v : Value} :
    (b.resolve env).binding = .foreign v ↔ b = .foreign v := by
  cases b with
  | foreign => rfl
  | literal => simp [resolve]
  | parameter id =>
    rw [resolve]
    cases env.store <;> simp
  | expression text last =>
    obtain ⟨next, kept⟩ := exists_binding_expression text last env
    simp [kept]
  | processed wrapped hs lastError =>
    obtain ⟨reason, kept⟩ := exists_binding_afterChain (wrapped.resolve env).binding hs lastError
      (wrapped.resolve env).outcome
    simp [resolve, kept]

end Binding

end Joinery
