import Joinery.Proofs.Formula.Reading
import Joinery.Proofs.Formula.Visits

/-!
# The places of evaluation errors

A visit that fails with an error of the formula gives the error the place of the node that is
visited, as long as the functions that may be called are those that are always there and others that
do not fail. In a formula that was read from a text every node has a place.
-/
namespace Joinery.Formula

/-! ### Functions that fail without a place -/

/-- The registries to which functions that never fail were added. -/
inductive Functions.Extended : Functions → Prop where
  | builtin : Extended .builtin
  | register {fs : Functions} (f : Function) (extended : Extended fs)
      (total : ∀ xs, f.accepts xs.length = true → ∃ y, f.apply xs = .ok y) :
      Extended (fs.register f)

/-- A function that has no errors of its own but those about its domain, and leaves their place
open. -/
def Function.Unplaced (f : Function) : Prop :=
  ∀ xs e, f.accepts xs.length = true → f.apply xs = .error (.formula e) →
    ∃ name reason, e.fault = .outsideDomain name reason ∧ e.span = none

theorem Functions.find?_register (fs : Functions) (f : Function) (name : String) :
    (fs.register f).find? name =
      if Text.lower name = Text.lower f.name then some f else fs.find? name :=
  Table.find?_insert _ _ _ _

theorem Function.unplaced_unary {name : String} {apply : Binary64 → Except Failure Binary64}
    (h : ∀ x e, apply x = .error (.formula e) →
      ∃ name reason, e.fault = .outsideDomain name reason ∧ e.span = none) :
    (unary name apply).Unplaced := by
  intro xs e _ failed
  match xs, failed with
  | [x], failed => exact h x e failed
  | [], failed => cases failed
  | _ :: _ :: _, failed => cases failed

theorem Function.unplaced_circular (name : String) (apply : Binary64 → Option Binary64) :
    (circular name apply).Unplaced := by
  refine unplaced_unary fun x e failed => ?_
  cases happly : apply x with
  | none => simp [happly] at failed
  | some y => simp [happly] at failed

theorem Function.unplaced_root : root.Unplaced := by
  refine unplaced_unary fun x e failed => ?_
  split at failed
  · cases failed
    exact ⟨_, _, rfl, rfl⟩
  · cases failed

theorem Function.unplaced_selecting (name : String) (better : Binary64 → Binary64 → Bool) :
    (selecting name better).Unplaced := by
  intro xs e _ failed
  cases xs <;> cases failed

theorem Function.unplaced_of_total {f : Function}
    (total : ∀ xs, f.accepts xs.length = true → ∃ y, f.apply xs = .ok y) : f.Unplaced := by
  intro xs e accepted failed
  obtain ⟨y, success⟩ := total xs accepted
  cases success.symm.trans failed

theorem Function.total_unary (name : String) (apply : Binary64 → Binary64) :
    ∀ xs, (unary name fun x => .ok (apply x)).accepts xs.length = true →
      ∃ y, (unary name fun x => .ok (apply x)).apply xs = .ok y
  | [x], _ => ⟨apply x, rfl⟩
  | _ :: _ :: _, accepted => by
    simp [accepts, unary] at accepted
    omega

namespace Functions

/-- All functions of a registry leave the places of their errors open. -/
def Unplaced (fs : Functions) : Prop := ∀ name f, fs.find? name = some f → f.Unplaced

theorem Unplaced.register {fs : Functions} (all : fs.Unplaced) {f : Function} (h : f.Unplaced) :
    (fs.register f).Unplaced := by
  intro name g found
  rw [find?_register] at found
  split at found
  · cases found
    exact h
  · exact all name g found

theorem Unplaced.foldl_register {fs : Functions} (all : fs.Unplaced) {more : List Function}
    (each : ∀ f ∈ more, f.Unplaced) : (more.foldl Functions.register fs).Unplaced := by
  induction more generalizing fs with
  | nil => exact all
  | cons f rest ih =>
    obtain ⟨first, others⟩ := List.forall_mem_cons.1 each
    exact ih (all.register first) others

theorem unplaced_empty : Functions.Unplaced ⟨Table.empty⟩ := nofun

theorem unplaced_builtin : builtin.Unplaced := by
  refine unplaced_empty.foldl_register ?_
  simp only [List.forall_mem_cons]
  exact ⟨Function.unplaced_circular _ _, Function.unplaced_circular _ _, Function.unplaced_root,
    Function.unplaced_of_total (Function.total_unary _ _), Function.unplaced_selecting _ _,
    Function.unplaced_selecting _ _, List.forall_mem_nil _⟩

theorem Extended.unplaced {fs : Functions} (extended : fs.Extended) : fs.Unplaced := by
  induction extended with
  | builtin => exact unplaced_builtin
  | register f extended total ih => exact ih.register (Function.unplaced_of_total total)

end Functions

/-! ### The place of an error -/

variable {functions : Functions} {context : Context}

theorem span_of_apply {op : Operator} {x y : Binary64} {span : Option Span} {e : Error}
    (failed : op.apply x y span = .error e) : e.span = span := by
  unfold Operator.apply at failed
  split at failed
  case h_4 =>
    split at failed
    · cases failed
      rfl
    · cases failed
  all_goals cases failed
  rfl

theorem span_of_placed {r : Except Failure Binary64} {span : Option Span} {e : Error}
    (unplaced : ∀ e, r = .error (.formula e) →
      ∃ name reason, e.fault = .outsideDomain name reason ∧ e.span = none)
    (failed : placed span r = .error (.formula e)) : e.span = span := by
  unfold placed at failed
  split at failed
  · cases failed
    rfl
  · next other =>
    obtain ⟨name, reason, hfault, hspan⟩ := unplaced e failed
    obtain ⟨fault, span', source⟩ := e
    cases hfault
    cases hspan
    exact absurd failed (other name reason source)

theorem length_of_worthAll? {args : List Formula} {xs : List Binary64}
    (h : worthAll? functions context args = some xs) : xs.length = args.length := by
  induction args generalizing xs with
  | nil =>
    cases h
    rfl
  | cons arg rest ih =>
    rw [worthAll?] at h
    obtain ⟨x, -, h⟩ := Option.bind_eq_some_iff.1 h
    obtain ⟨ys, hys, h⟩ := Option.bind_eq_some_iff.1 h
    cases h
    rw [List.length_cons, List.length_cons, ih hys]

theorem eq_error_of_failureOf {ε α : Type} {r : Except ε α} {e : ε} (h : failureOf r = some e) :
    r = .error e := by
  cases r with
  | ok _ => cases h
  | error _ =>
    cases h
    rfl

/-- An error of the formula has the place of the node at which it arises. -/
theorem Visit.span_of_failure? (unplaced : functions.Unplaced) {v : Visit} {e : Error}
    (fails : v.failure? functions context = some (.formula e)) : e.span = v.span? := by
  cases v with
  | enter name args span =>
    rw [failure?] at fails
    split at fails
    · cases fails
      rfl
    · split at fails
      · cases fails
      · cases fails
        rfl
  | leave f =>
    rw [failure?] at fails
    cases f with
    | number x span => cases fails
    | parameter name span =>
      obtain ⟨cause, -, other⟩ := Option.map_eq_some_iff.1 fails
      cases other
    | binary op left right span =>
      obtain ⟨x, -, fails⟩ := Option.bind_eq_some_iff.1 fails
      obtain ⟨y, -, fails⟩ := Option.bind_eq_some_iff.1 fails
      obtain ⟨e', failed, same⟩ := Option.map_eq_some_iff.1 fails
      cases same
      exact span_of_apply (eq_error_of_failureOf failed)
    | call name args span =>
      obtain ⟨f, called, fails⟩ := Option.bind_eq_some_iff.1 fails
      obtain ⟨xs, hxs, fails⟩ := Option.bind_eq_some_iff.1 fails
      obtain ⟨found, accepted⟩ := Option.filter_eq_some_iff.1 called
      refine span_of_placed (fun e failed => ?_) (eq_error_of_failureOf fails)
      refine unplaced name f found xs e ?_ failed
      rw [length_of_worthAll? hxs]
      exact accepted
    | foreign label => cases fails

/-! ### The places of a formula that was read -/

/-- All nodes of a formula have places. -/
def Located (f : Formula) : Prop := ∀ v ∈ visits f, v.span?.isSome = true

theorem leave_mem_visits (f : Formula) : .leave f ∈ visits f := by
  cases f <;> simp [visits]

theorem Located.span? {f : Formula} (h : f.Located) : f.span?.isSome = true :=
  h _ (leave_mem_visits f)

theorem located_number (x : Binary64) (place : Span) : Located (.number x (some place)) := by
  simp [Located, visits, Visit.span?, Formula.span?]

theorem located_parameter (name : String) (place : Span) :
    Located (.parameter name (some place)) := by
  simp [Located, visits, Visit.span?, Formula.span?]

theorem located_binary {op : Operator} {left right : Formula} {span : Option Span}
    (hleft : left.Located) (hright : right.Located) (hspan : span.isSome = true) :
    Located (.binary op left right span) :=
  forall_visits_binary hleft hright hspan

theorem located_call {name : String} {args : List Formula} {place : Span}
    (each : ∀ arg ∈ args, arg.Located) : Located (.call name args (some place)) :=
  forall_visits_call rfl each rfl

theorem isSome_cover {a b : Option Span} (ha : a.isSome = true) (hb : b.isSome = true) :
    (Span.cover a b).isSome = true := by
  obtain ⟨a, rfl⟩ := Option.isSome_iff_exists.1 ha
  obtain ⟨b, rfl⟩ := Option.isSome_iff_exists.1 hb
  rfl

theorem located_negate {minus : Span} {f : Formula} (h : f.Located) :
    (negate minus f).Located :=
  located_binary (located_number _ _) h (isSome_cover rfl h.span?)

theorem located_join {op : Operator} {left right : Formula} (hleft : left.Located)
    (hright : right.Located) : (join op left right).Located :=
  located_binary hleft hright (isSome_cover hleft.span? hright.span?)

/-- What tokens stand for has places. -/
theorem Spells.located {category : Category} {tokens : List Token} {f : Formula}
    (h : Spells category tokens f) : f.Located := by
  induction h with
  | number symbol => exact located_number _ _
  | parameter symbol => exact located_parameter _ _
  | call named opens separated each closes ih => exact located_call (List.forall_mem_map.2 ih)
  | group opens inner closes ih => exact ih
  | negation symbol operand ih => exact located_negate ih
  | product left symbol hop right ihl ihr => exact located_join ihl ihr
  | sum left symbol hop right ihl ihr => exact located_join ihl ihr
  | ofPrimary h ih => exact ih
  | ofUnary h ih => exact ih
  | ofTerm h ih => exact ih

theorem located_read {source : String} {f : Formula} (success : read source = .ok f) :
    f.Located := by
  obtain ⟨words, length, -, -, spelled⟩ := exists_spells_of_read success
  exact spelled.located

/-- The warning about a reference to a name without a value. -/
def missingWarning (reference : String × Option Span) : Diagnostic where
  code := "W201"
  message := s!"parameter '{reference.1}' not found in context, using 0"
  severity := .warning
  place := reference.2.map Span.extent
  hints := ["the parameter may have been renamed or deleted"]

theorem warnings_noticed (refs : List (String × Option Span)) :
    Notice.warnings (noticed refs) = refs.map missingWarning := by
  unfold noticed Notice.warnings
  rw [List.filterMap_map]
  exact congrFun List.filterMap_eq_map refs

/-- An evaluation is what the visits give in order. Either none of them fails: the formula has its
worth, and what is noticed are the references to names without a value, which are those names of
the formula. Or the evaluation fails as the first visit that does, with the place of the node
visited, and the references before it are noticed. -/
theorem evaluate_follows_visits {functions : Functions} (extended : functions.Extended)
    (context : Context) (f : Formula) :
    (∃ x names, (∀ v ∈ visits f, v.failure? functions context = none) ∧
      worth? functions context f = some x ∧
      evaluate functions context f = ⟨.ok x, noticed (missing context (visits f))⟩ ∧
      Notice.warnings (evaluate functions context f).notices =
        (missing context (visits f)).map missingWarning ∧
      f.names = .ok names ∧ ((missing context (visits f)).map Prod.fst).eraseDups =
        names.filter fun name => (context name).isNull) ∨
    (∃ before v after failure, visits f = before ++ v :: after ∧
      (∀ u ∈ before, u.failure? functions context = none) ∧
      v.failure? functions context = some failure ∧
      evaluate functions context f = ⟨.error failure, noticed (missing context before)⟩ ∧
      Notice.warnings (evaluate functions context f).notices =
        (missing context before).map missingWarning ∧
      ∀ source e, read source = .ok f → failure = .formula e →
        ∃ place, v.span? = some place ∧ e.span = some place) := by
  have follows := follows_evaluate functions context f
  generalize worth? functions context f = worth, evaluate functions context f = outcome
    at follows ⊢
  cases follows with
  | done x passed =>
    obtain ⟨names, hnames, hmissing⟩ := eraseDups_missing f passed
    exact .inl ⟨x, names, passed, rfl, rfl, warnings_noticed _, hnames, hmissing⟩
  | @failed before after v failure order passed fails =>
    refine .inr ⟨before, v, after, failure, order, passed, fails, rfl, warnings_noticed _, ?_⟩
    rintro source e hread rfl
    have member : v ∈ visits f := by
      rw [order]
      exact List.mem_append_right _ (.head after)
    obtain ⟨place, hplace⟩ := Option.isSome_iff_exists.1 (located_read hread v member)
    exact ⟨place, hplace, (v.span_of_failure? extended.unplaced fails).trans hplace⟩

/-- Whether an evaluation failed with a division by zero. -/
def dividesByZero (outcome : Outcome Binary64) : Bool :=
  match outcome.result with
  | .error (.formula e) => e.fault = .divisionByZero
  | _ => false

theorem exists_of_dividesByZero {outcome : Outcome Binary64}
    (h : dividesByZero outcome = true) :
    ∃ e, outcome.result = .error (.formula e) ∧ e.fault = .divisionByZero := by
  unfold dividesByZero at h
  split at h
  · next e failed => exact ⟨e, failed, of_decide_eq_true h⟩
  · cases h

/-- A registered function, two names without a value, and a division by the second of them. -/
theorem evaluate_follows_visits_double :
    ∃ functions : Functions, functions.Extended ∧ (functions.find? "double").isSome = true ∧
      ∃ f before v after e place, read "double(a) + 1 / b" = .ok f ∧
        visits f = before ++ v :: after ∧
        evaluate functions (fun _ => .null) f =
          ⟨.error (.formula e), noticed (missing (fun _ => .null) before)⟩ ∧
        e.fault = .divisionByZero ∧ v.span? = some place ∧ e.span = some place := by
  let functions := Functions.builtin.register (.unary "double" fun x => .ok (x + x))
  have extended : functions.Extended := .register _ .builtin (Function.total_unary _ _)
  refine ⟨functions, extended, rfl, ?_⟩
  have check : ((read "double(a) + 1 / b").toOption.any fun f =>
      dividesByZero (evaluate functions (fun _ => .null) f)) = true := by decide +kernel
  cases hread : read "double(a) + 1 / b" with
  | error e => simp [hread, Except.toOption] at check
  | ok f =>
    rw [hread] at check
    obtain ⟨e, failed, fault⟩ := exists_of_dividesByZero check
    obtain ⟨x, names, -, -, outcome, -⟩ |
        ⟨before, v, after, failure, order, -, -, outcome, -, located⟩ :=
      evaluate_follows_visits extended (fun _ => .null) f
    · rw [outcome] at failed
      cases failed
    · rw [outcome] at failed
      cases failed
      obtain ⟨place, own, stated⟩ := located _ e hread rfl
      exact ⟨f, before, v, after, e, place, rfl, order, outcome, fault, own, stated⟩

end Joinery.Formula
