import Joinery.Binding.Basic
import Joinery.Proofs.Table
import Mathlib.Logic.Function.Basic

/-!
# Formulas that keep their reading

A formula keeps what its text was last read as. The kept reading is never stale: whatever was done
to the text and to the parameters, and whatever failed before, resolving the formula gives what
reading its present text anew and evaluating that over the present parameters gives.
-/
namespace Joinery

/-! ### The values that a formula sees -/

namespace ParameterStore

/-- The last parameter of a name. -/
def lastNamed? (ps : List Parameter) (name : String) : Option Parameter :=
  ps.findRev? fun p => p.name.equals (.text name)

/-- The value of every name, null for a name that no parameter has. A name that cannot be a key is
refused. -/
def valuesByName (s : ParameterStore) : Except Misuse Context := do
  s.all.forM fun p => discard p.name.key
  return fun name => ((lastNamed? s.all name).map Parameter.value).getD .null

theorem lastNamed?_cons (p : Parameter) (ps : List Parameter) (name : String) :
    lastNamed? (p :: ps) name =
      (lastNamed? ps name).or (if p.name.equals (.text name) then some p else none) := by
  unfold lastNamed?
  rw [List.findRev?]
  cases List.findRev? (fun p => p.name.equals (.text name)) ps <;> rfl

theorem lastNamed?_or_insert {c c' : Catalogue Value} {p : Parameter}
    (inserted : c.insert p.name p.value = .ok c') (ps : List Parameter) (name : String) :
    ((lastNamed? ps name).map Parameter.value).or (c'.atText? name) =
      ((lastNamed? (p :: ps) name).map Parameter.value).or (c.atText? name) := by
  rw [Catalogue.atText?_insert inserted, lastNamed?_cons]
  cases lastNamed? ps name <;> cases p.name.equals (.text name) <;> rfl

/-- Once parameters are stored in a catalogue, the last one of a name is seen under it, and what was
there before if there is none. -/
theorem contextOf_foldlM_insert (ps : List Parameter) (c : Catalogue Value) :
    (do return Binding.contextOf (← ps.foldlM (fun c p => c.insert p.name p.value) c) :
        Except Misuse Context) =
      do
        ps.forM fun p => discard p.name.key
        return fun name =>
          (((lastNamed? ps name).map Parameter.value).or (c.atText? name)).getD .null := by
  induction ps generalizing c with
  | nil => rfl
  | cons p rest ih =>
    rw [List.foldlM_cons]
    dsimp only [List.forM]
    cases hkey : p.name.key with
    | error cause =>
      rw [Catalogue.insert_of_key_eq_error c hkey]
      rfl
    | ok key =>
      obtain ⟨c', inserted⟩ := c.exists_insert hkey p.value
      rw [inserted]
      refine (ih c').trans ?_
      simp only [lastNamed?_or_insert inserted]
      rfl

/-- A formula sees, under each name, the value of the last parameter of that name. -/
theorem contextOf_context (s : ParameterStore) :
    (do return Binding.contextOf (← s.context)) = s.valuesByName := by
  refine (contextOf_foldlM_insert s.all .empty).trans ?_
  have none_before : ∀ name, (Catalogue.empty : Catalogue Value).atText? name = none :=
    fun _ => rfl
  simp only [none_before, Option.or_none]
  rfl

end ParameterStore

namespace Binding

theorem evaluateIn_eq (functions : Formula.Functions) (s : ParameterStore) (f : Formula) :
    evaluateIn functions s f = do
      let values ← s.valuesByName
      return .float (← f.evaluate functions values) := by
  rw [← ParameterStore.contextOf_context]
  unfold evaluateIn
  cases s.context <;> rfl

/-! ### One resolution -/

/-- The value of a text that is read anew, over the parameters as they are. -/
def resolveAnew (env : Environment) (text : Value) : Outcome Value :=
  match env.store, env.functions with
  | some store, some functions => do
    let f ← Formula.readValue text
    let values ← store.valuesByName
    return .float (← f.evaluate functions values)
  | _, _ => .fail (.binding .expressionNeedsStoreAndEngine)

/-- A kept reading is what its text reads as. -/
def IsFresh (last : Reading?) : Prop :=
  ∀ source f, last = some (source, f) → Formula.read source = .ok f

theorem isFresh_none : IsFresh none := nofun

variable {last : Reading?} {text : Value}

theorem isFresh_readingOf {f : Formula} (success : Formula.readValue text = .ok f) :
    IsFresh (readingOf text f) := by
  intro source g kept
  cases text with
  | text s =>
    obtain ⟨rfl, rfl⟩ := Prod.mk.inj (Option.some.inj kept)
    exact success
  | null | bool | int | float | list | object => cases kept

theorem reading_eq_readValue (fresh : IsFresh last) :
    reading text last = Formula.readValue text := by
  cases last with
  | none => rfl
  | some entry =>
    obtain ⟨source, f⟩ := entry
    dsimp only [reading]
    split
    · next equal =>
      rw [Value.equals_text_iff.1 equal]
      exact (fresh source f rfl).symm
    · rfl

/-- Resolving a formula that keeps a fresh reading gives what its text gives anew, and leaves a
fresh reading. A text that cannot be read leaves the reading of an earlier text, which is fresh
still. -/
theorem resolve_expression (fresh : IsFresh last) (env : Environment) (text : Value) :
    ∃ next, IsFresh next ∧ (expression text last).resolve env =
      ⟨resolveAnew env text, expression text next⟩ := by
  obtain ⟨store, functions⟩ := env
  cases store with
  | none => exact ⟨last, fresh, rfl⟩
  | some store =>
    cases functions with
    | none => exact ⟨last, fresh, rfl⟩
    | some functions =>
      dsimp only [resolve, resolveAnew]
      rw [reading_eq_readValue fresh]
      cases success : Formula.readValue text with
      | error error => exact ⟨last, fresh, rfl⟩
      | ok f =>
        refine ⟨readingOf text f, isFresh_readingOf success, ?_⟩
        dsimp only
        rw [evaluateIn_eq]
        rfl

end Binding

/-! ### Runs -/

/-- What is done to a formula and to what it is resolved against. -/
inductive FormulaUse where
  /-- The formula gets another text. -/
  | edit (text : Value)
  /-- The parameters change. -/
  | change (next : ParameterStore → ParameterStore)
  /-- The formula is resolved, with or without the parameters and functions. The warnings go to one
  of the collectors, or to none. -/
  | resolve (withStore : Bool) (functions : Option Formula.Functions) (collector : Option Nat)

/-- A form in which a formula is held: how it gets another text, and how it is resolved. -/
structure Holder (σ : Type) where
  edit : σ → Value → σ
  resolve : Environment → σ → Outcome Value × σ

/-- The binding, which keeps its last reading. -/
def Holder.keeping : Holder Binding where
  edit := Binding.withText
  resolve env b := ((b.resolve env).outcome, (b.resolve env).binding)

/-- The bare text, which is read anew each time. -/
def Holder.bare : Holder Value where
  edit _ text := text
  resolve env text := (Binding.resolveAnew env text, text)

/-- A formula, the parameters, and the warnings in every collector. -/
structure Desk (σ : Type) where
  formula : σ
  store : ParameterStore
  collected : Nat → List Formula.Diagnostic

namespace Desk

variable {σ : Type}

/-- Puts the warnings of an outcome behind those in a collector. -/
def collect (collector : Option Nat) (outcome : Outcome Value)
    (collected : Nat → List Formula.Diagnostic) : Nat → List Formula.Diagnostic :=
  match collector with
  | some n => Function.update collected n (collected n ++ Notice.warnings outcome.notices)
  | none => collected

/-- A collector receives the warnings behind those that it has. -/
theorem collect_eq (collector : Option Nat) (outcome : Outcome Value)
    (collected : Nat → List Formula.Diagnostic) :
    collect collector outcome collected = fun n =>
      if collector = some n then collected n ++ Notice.warnings outcome.notices
      else collected n := by
  funext n
  cases collector with
  | none => rfl
  | some m =>
    by_cases same : m = n
    · subst same
      simp [collect]
    · simp [collect, same, Ne.symm same]

/-- One use. Only a resolution answers. -/
def use (holder : Holder σ) (d : Desk σ) : FormulaUse → Option (Outcome Value) × Desk σ
  | .edit text => (none, { d with formula := holder.edit d.formula text })
  | .change next => (none, { d with store := next d.store })
  | .resolve withStore functions collector =>
    let env : Environment := ⟨if withStore then some d.store else none, functions⟩
    let (outcome, formula) := holder.resolve env d.formula
    (some outcome, ⟨formula, d.store, collect collector outcome d.collected⟩)

/-- The answers of a run of uses, and what it leaves. -/
def run (holder : Holder σ) : List FormulaUse → Desk σ → List (Option (Outcome Value)) × Desk σ
  | [], d => ([], d)
  | u :: rest, d =>
    let (answer, d') := d.use holder u
    let (answers, last) := run holder rest d'
    (answer :: answers, last)

/-- The binding has the text of the bare formula and a fresh reading; all else is the same. -/
def Keeps (d : Desk Binding) (e : Desk Value) : Prop :=
  ∃ last, Binding.IsFresh last ∧ d = ⟨.expression e.formula last, e.store, e.collected⟩

namespace Keeps

variable {d : Desk Binding} {e : Desk Value}

theorem use (h : d.Keeps e) (u : FormulaUse) :
    (d.use .keeping u).1 = (e.use .bare u).1 ∧ (d.use .keeping u).2.Keeps (e.use .bare u).2 := by
  obtain ⟨last, fresh, rfl⟩ := h
  cases u with
  | edit text => exact ⟨rfl, last, fresh, rfl⟩
  | change next => exact ⟨rfl, last, fresh, rfl⟩
  | resolve withStore functions collector =>
    obtain ⟨next, fresh', resolved⟩ := Binding.resolve_expression fresh
      ⟨if withStore then some e.store else none, functions⟩ e.formula
    dsimp only [Desk.use, Holder.keeping, Holder.bare]
    rw [resolved]
    exact ⟨rfl, next, fresh', rfl⟩

theorem run (h : d.Keeps e) (uses : List FormulaUse) :
    (Desk.run .keeping uses d).1 = (Desk.run .bare uses e).1 ∧
      (Desk.run .keeping uses d).2.Keeps (Desk.run .bare uses e).2 := by
  induction uses generalizing d e with
  | nil => exact ⟨rfl, h⟩
  | cons u rest ih =>
    obtain ⟨answer, after⟩ := h.use u
    obtain ⟨answers, last⟩ := ih after
    exact ⟨List.cons_eq_cons.2 ⟨answer, answers⟩, last⟩

end Keeps

/-- In every run of edits, changes and resolutions, a binding that starts without a reading answers
each resolution with the value or failure and with the warnings that its text gives when it is read
anew and evaluated over the parameters of that time, and the collectors receive the same. -/
theorem run_keeping_eq_run_bare (text : Value) (store : ParameterStore)
    (collected : Nat → List Formula.Diagnostic) (uses : List FormulaUse) :
    (run .keeping uses ⟨.expression text none, store, collected⟩).1 =
        (run .bare uses ⟨text, store, collected⟩).1 ∧
      (run .keeping uses ⟨.expression text none, store, collected⟩).2.Keeps
        (run .bare uses ⟨text, store, collected⟩).2 := by
  have start : Keeps ⟨.expression text none, store, collected⟩ ⟨text, store, collected⟩ :=
    ⟨none, Binding.isFresh_none, rfl⟩
  exact start.run uses

end Desk

end Joinery
