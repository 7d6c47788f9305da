import Joinery.Proofs.Formula.Located
import Joinery.Proofs.Formula.Reading

/-!
# How evaluations end

A formula that was read is evaluated with the functions that are always there, where every name
stands for a double or for nothing. It gives a number, or it fails with a fault of evaluation, for
division, names, arities and domains are guarded. Only the circular functions are not: the sine or
the cosine of an infinity ends an evaluation with a misuse.
-/
namespace Joinery

theorem Binary64.sin?_eq_none_iff {x : Binary64} :
    x.sin? = none ↔ ∃ negative, x = .infinite negative := by
  cases x with
  | nan => simp [sin?]
  | infinite negative => simp [sin?]
  | finite negative units fits =>
    rw [sin?]
    split <;> simp

theorem Binary64.cos?_eq_none_iff {x : Binary64} :
    x.cos? = none ↔ ∃ negative, x = .infinite negative := by
  cases x <;> simp [cos?]

namespace Formula

/-! ### What the grammar denotes -/

/-- A visit to a node that the grammar can denote: it is not foreign, and its operator is one of the
four of arithmetic. -/
def Visit.Grammatical : Visit → Prop
  | leave (.binary op _ _ _) => ∀ symbol, op ≠ .other symbol
  | leave (.foreign _) => False
  | _ => True

/-- The grammar can denote all nodes of a formula. -/
def Grammatical (f : Formula) : Prop := ∀ v ∈ visits f, v.Grammatical

theorem Spells.grammatical {category : Category} {tokens : List Token} {f : Formula}
    (h : Spells category tokens f) : f.Grammatical := by
  induction h with
  | number symbol => exact List.forall_mem_singleton.2 trivial
  | parameter symbol => exact List.forall_mem_singleton.2 trivial
  | call named opens separated each closes ih =>
    exact forall_visits_call trivial (List.forall_mem_map.2 ih) trivial
  | group opens inner closes ih => exact ih
  | negation symbol operand ih =>
    exact forall_visits_binary (List.forall_mem_singleton.2 trivial) ih fun _ => nofun
  | product left symbol hop right ihl ihr =>
    refine forall_visits_binary ihl ihr fun symbol other => ?_
    simp [other] at hop
  | sum left symbol hop right ihl ihr =>
    refine forall_visits_binary ihl ihr fun symbol other => ?_
    simp [other] at hop
  | ofPrimary h ih => exact ih
  | ofUnary h ih => exact ih
  | ofTerm h ih => exact ih

theorem grammatical_read {source : String} {f : Formula} (success : read source = .ok f) :
    f.Grammatical := by
  obtain ⟨words, length, -, -, spelled⟩ := exists_spells_of_read success
  exact spelled.grammatical

/-- The operators of arithmetic fail for a division by zero only. -/
theorem fault_of_apply {op : Operator} (arithmetic : ∀ symbol, op ≠ .other symbol)
    {x y : Binary64} {span : Option Span} {e : Error} (failed : op.apply x y span = .error e) :
    e.fault = .divisionByZero := by
  match op, arithmetic, failed with
  | .over, _, failed =>
    rw [Operator.apply] at failed
    split at failed
    · cases failed
      rfl
    · cases failed
  | .other symbol, arithmetic, _ => exact absurd rfl (arithmetic symbol)

/-! ### Functions with and without a guard -/

/-- The faults with which the evaluation of a formula can end. -/
def Fault.isEvaluation : Fault → Bool
  | .divisionByZero | .unknownFunction .. | .wrongArity .. | .outsideDomain .. => true
  | _ => false

/-- A computation gives a result or fails with a fault of evaluation. -/
def Answers {α : Type} (r : Except Failure α) : Prop :=
  (∃ a, r = .ok a) ∨ ∃ e, r = .error (.formula e) ∧ e.fault.isEvaluation = true

theorem answers_placed {r : Except Failure Binary64} (h : Answers r) (span : Option Span) :
    Answers (placed span r) := by
  obtain ⟨x, rfl⟩ | ⟨e, rfl, evaluation⟩ := h
  · exact .inl ⟨x, rfl⟩
  · unfold placed
    split
    · exact .inr ⟨_, rfl, rfl⟩
    · exact .inr ⟨e, rfl, evaluation⟩

namespace Function

/-- A function that answers whenever it is given as many arguments as it takes. -/
def Guarded (f : Function) : Prop := ∀ xs, f.accepts xs.length = true → Answers (f.apply xs)

theorem exists_of_accepts_unary {name : String} {apply : Binary64 → Except Failure Binary64}
    {xs : List Binary64} (accepted : (unary name apply).accepts xs.length = true) :
    ∃ x, xs = [x] := by
  refine List.length_eq_one_iff.1 ?_
  obtain ⟨least, most⟩ := Bool.and_eq_true_iff.1 accepted
  have least : (1 : Int) ≤ xs.length := of_decide_eq_true least
  have most : (xs.length : Int) ≤ 1 := of_decide_eq_true most
  omega

theorem guarded_unary {name : String} {apply : Binary64 → Except Failure Binary64}
    (h : ∀ x, Answers (apply x)) : (unary name apply).Guarded := by
  intro xs accepted
  obtain ⟨x, rfl⟩ := exists_of_accepts_unary accepted
  exact h x

theorem guarded_root : root.Guarded := by
  refine guarded_unary fun x => ?_
  split
  · exact .inr ⟨_, rfl, rfl⟩
  · exact .inl ⟨_, rfl⟩

theorem guarded_selecting (name : String) (better : Binary64 → Binary64 → Bool) :
    (selecting name better).Guarded := by
  intro xs accepted
  cases xs with
  | nil => cases accepted
  | cons x rest => exact .inl ⟨_, rfl⟩

end Function

namespace Functions

variable {name : String}

/-- Of the functions that are always there only sine and cosine are without a guard. -/
theorem find?_builtin_cases {f : Function} (found : builtin.find? name = some f) :
    (Text.lower name = "sin" ∧ f = .circular "sin" Binary64.sin?) ∨
      (Text.lower name = "cos" ∧ f = .circular "cos" Binary64.cos?) ∨ f.Guarded := by
  simp only [builtin, List.foldl, find?_register] at found
  split at found
  · cases found
    exact .inr (.inr (Function.guarded_selecting _ _))
  split at found
  · cases found
    exact .inr (.inr (Function.guarded_selecting _ _))
  split at found
  · cases found
    exact .inr (.inr (Function.guarded_unary fun x => .inl ⟨_, rfl⟩))
  split at found
  · cases found
    exact .inr (.inr Function.guarded_root)
  split at found
  · next same =>
    cases found
    exact .inr (.inl ⟨same, rfl⟩)
  split at found
  · next same =>
    cases found
    exact .inl ⟨same, rfl⟩
  · cases found

theorem find?_builtin_sin (h : Text.lower name = "sin") :
    builtin.find? name = some (.circular "sin" Binary64.sin?) := by
  rw [find?, h]
  rfl

theorem find?_builtin_cos (h : Text.lower name = "cos") :
    builtin.find? name = some (.circular "cos" Binary64.cos?) := by
  rw [find?, h]
  rfl

end Functions

/-! ### The one visit without a guard -/

variable {context : Context}

/-- The sine or the cosine of an infinity is worked out. -/
def Visit.MeetsInfinity (context : Context) (v : Visit) : Prop :=
  ∃ name arg span negative, v = .leave (.call name [arg] span) ∧
    (Text.lower name = "sin" ∨ Text.lower name = "cos") ∧
    worth? .builtin context arg = some (.infinite negative)

/-- What a circular function fails with. -/
theorem Function.circular_eq_error_iff {name : String} {apply : Binary64 → Option Binary64}
    {x : Binary64} {failure : Failure} :
    (circular name apply).apply [x] = .error failure ↔
      apply x = none ∧ failure = .misuse .undefined := by
  cases happly : apply x <;> simp [circular, unary, happly, eq_comm]

theorem Visit.MeetsInfinity.failure? {v : Visit} (h : v.MeetsInfinity context) :
    v.failure? .builtin context = some (.misuse .undefined) := by
  obtain ⟨name, arg, span, negative, rfl, hname, hworth⟩ := h
  rw [Visit.failure?, ownFailure?, callee?, worthAll?, worthAll?, hworth]
  obtain sine | cosine := hname
  · rw [Functions.find?_builtin_sin sine]
    rfl
  · rw [Functions.find?_builtin_cos cosine]
    rfl

/-- Leaving a call of a circular function fails for an infinity only. -/
theorem meetsInfinity_of_circular {name word : String} {args : List Formula} {span : Option Span}
    {apply : Binary64 → Option Binary64} {xs : List Binary64} {failure : Failure}
    (circles : Text.lower name = "sin" ∨ Text.lower name = "cos")
    (undefined : ∀ x, apply x = none → ∃ negative, x = .infinite negative)
    (accepted : (Function.circular word apply).accepts args.length = true)
    (hxs : worthAll? .builtin context args = some xs)
    (fails : placed span ((Function.circular word apply).apply xs) = .error failure) :
    failure = .misuse .undefined ∧
      (Visit.leave (.call name args span)).MeetsInfinity context := by
  rw [← length_of_worthAll? hxs] at accepted
  obtain ⟨x, rfl⟩ := Function.exists_of_accepts_unary accepted
  have length := length_of_worthAll? hxs
  obtain ⟨arg, rfl⟩ := List.length_eq_one_iff.1 length.symm
  simp only [worthAll?, Option.bind_some, Option.bind_eq_some_iff, Option.some.injEq,
    List.cons.injEq, and_true, exists_eq_right] at hxs
  cases result : (Function.circular word apply).apply [x] with
  | ok y =>
    rw [result] at fails
    cases fails
  | error cause =>
    obtain ⟨none, rfl⟩ := Function.circular_eq_error_iff.1 result
    obtain ⟨negative, rfl⟩ := undefined x none
    rw [result] at fails
    cases fails
    exact ⟨rfl, name, arg, span, negative, rfl, circles, hxs⟩

/-- A call fails with a fault of evaluation, unless its function is a circular one. -/
theorem Visit.isEvaluation_or_meetsInfinity_call {name : String} {args : List Formula}
    {span : Option Span} {failure : Failure}
    (fails : ownFailure? .builtin context (.call name args span) = some failure) :
    (∃ e, failure = .formula e ∧ e.fault.isEvaluation = true) ∨
      failure = .misuse .undefined ∧ (Visit.leave (.call name args span)).MeetsInfinity context := by
  obtain ⟨f, called, fails⟩ := Option.bind_eq_some_iff.1 fails
  obtain ⟨xs, hxs, fails⟩ := Option.bind_eq_some_iff.1 fails
  obtain ⟨found, accepted⟩ := Option.filter_eq_some_iff.1 called
  have failed := eq_error_of_failureOf fails
  obtain ⟨sine, rfl⟩ | ⟨cosine, rfl⟩ | guarded := Functions.find?_builtin_cases found
  · exact .inr (meetsInfinity_of_circular (.inl sine)
      (fun _ => Binary64.sin?_eq_none_iff.1) accepted hxs failed)
  · exact .inr (meetsInfinity_of_circular (.inr cosine)
      (fun _ => Binary64.cos?_eq_none_iff.1) accepted hxs failed)
  · rw [← length_of_worthAll? hxs] at accepted
    obtain ⟨y, success⟩ | ⟨e, failed', evaluation⟩ := answers_placed (guarded xs accepted) span
    · cases success.symm.trans failed
    · cases failed'.symm.trans failed
      exact .inl ⟨e, rfl, evaluation⟩

/-- A visit to what the grammar denotes fails with a fault of evaluation, or it is the one without a
guard. -/
theorem Visit.isEvaluation_or_meetsInfinity
    (numbers : ∀ name, context name = .null ∨ ∃ x, context name = .float x) {v : Visit}
    (grammatical : v.Grammatical) {failure : Failure}
    (fails : v.failure? .builtin context = some failure) :
    (∃ e, failure = .formula e ∧ e.fault.isEvaluation = true) ∨
      failure = .misuse .undefined ∧ v.MeetsInfinity context := by
  cases v with
  | enter name args span =>
    rw [failure?] at fails
    split at fails
    · cases fails
      exact .inl ⟨_, rfl, rfl⟩
    · split at fails
      · cases fails
      · cases fails
        exact .inl ⟨_, rfl, rfl⟩
  | leave f =>
    rw [failure?] at fails
    cases f with
    | number x span => cases fails
    | parameter name span =>
      rw [ownFailure?, given] at fails
      obtain null | ⟨x, float⟩ := numbers name
      · rw [null] at fails
        cases fails
      · rw [float] at fails
        cases fails
    | binary op left right span =>
      obtain ⟨x, -, fails⟩ := Option.bind_eq_some_iff.1 fails
      obtain ⟨y, -, fails⟩ := Option.bind_eq_some_iff.1 fails
      obtain ⟨e, failed, rfl⟩ := Option.map_eq_some_iff.1 fails
      have divided := fault_of_apply grammatical (eq_error_of_failureOf failed)
      exact .inl ⟨e, rfl, divided ▸ rfl⟩
    | call name args span => exact isEvaluation_or_meetsInfinity_call fails
    | foreign label => exact grammatical.elim

/-! ### Evaluations -/

/-- An evaluation comes to work out the sine or the cosine of an infinity. -/
def MeetsInfinity (context : Context) (f : Formula) : Prop :=
  ∃ before v after, visits f = before ++ v :: after ∧
    (∀ u ∈ before, u.failure? .builtin context = none) ∧ v.MeetsInfinity context

/-- Visits have one first that fails. -/
theorem eq_of_first_failing {functions : Functions} {vs before before' after after' : List Visit}
    {v w : Visit} {failure failure' : Failure}
    (order : vs = before ++ v :: after) (order' : vs = before' ++ w :: after')
    (passed : ∀ u ∈ before, u.failure? functions context = none)
    (passed' : ∀ u ∈ before', u.failure? functions context = none)
    (fails : v.failure? functions context = some failure)
    (fails' : w.failure? functions context = some failure') : v = w := by
  have first : vs.find? (fun u => (u.failure? functions context).isSome) = some v :=
    List.find?_eq_some_iff_append.2 ⟨by simp [fails], before, after, order,
      fun u member => by simp [passed u member]⟩
  have first' : vs.find? (fun u => (u.failure? functions context).isSome) = some w :=
    List.find?_eq_some_iff_append.2 ⟨by simp [fails'], before', after', order',
      fun u member => by simp [passed' u member]⟩
  exact Option.some.inj (first.symm.trans first')

/-- With the functions that are always there, and doubles for names, finite or not, a formula that
was read gives a number or fails with a fault of evaluation, unless the evaluation comes to the sine
or the cosine of an infinity; then it ends with a misuse. -/
theorem evaluate_answers_iff {source : String} {f : Formula} (success : read source = .ok f)
    {context : Context}
    (numbers : ∀ name, context name = .null ∨ ∃ x, context name = .float x) :
    (Answers (evaluate .builtin context f).result ↔ ¬ MeetsInfinity context f) ∧
      (MeetsInfinity context f →
        (evaluate .builtin context f).result = .error (.misuse .undefined)) := by
  have misused : MeetsInfinity context f →
      (evaluate .builtin context f).result = .error (.misuse .undefined) := by
    rintro ⟨before, v, after, order, passed, meets⟩
    have follows := follows_evaluate .builtin context f
    generalize worth? .builtin context f = worth, evaluate .builtin context f = outcome
      at follows ⊢
    cases follows with
    | done x all =>
      have member : v ∈ visits f := order ▸ List.mem_append_right _ (.head after)
      cases (all v member).symm.trans meets.failure?
    | failed order' passed' fails =>
      obtain rfl := eq_of_first_failing order order' passed passed' meets.failure? fails
      cases meets.failure?.symm.trans fails
      rfl
  refine ⟨⟨fun answers meets => ?_, fun guarded => ?_⟩, misused⟩
  · obtain ⟨x, ok⟩ | ⟨e, error, -⟩ := answers
    · cases ok.symm.trans (misused meets)
    · cases error.symm.trans (misused meets)
  · have follows := follows_evaluate .builtin context f
    generalize worth? .builtin context f = worth, evaluate .builtin context f = outcome
      at follows ⊢
    cases follows with
    | done x all => exact .inl ⟨x, rfl⟩
    | @failed before after v failure order passed fails =>
      have member : v ∈ visits f := order ▸ List.mem_append_right _ (.head after)
      obtain ⟨e, rfl, evaluation⟩ | ⟨-, meets⟩ :=
        v.isEvaluation_or_meetsInfinity numbers (grammatical_read success v member) fails
      · exact .inr ⟨e, rfl, evaluation⟩
      · exact absurd ⟨before, v, after, order, passed, meets⟩ guarded

/-- The name `x` stands for `10 ^ 200`, and no other name for anything. -/
def huge : Context := fun name => if name = "x" then .float (.ofInt (10 ^ 200)) else .null

theorem huge_numbers (name : String) : huge name = .null ∨ ∃ x, huge name = .float x := by
  unfold huge
  split
  · exact .inr ⟨_, rfl⟩
  · exact .inl rfl

/-- A division by zero before the sine of an infinity. -/
theorem evaluate_answers_iff_dividing : ∃ f, read "1 / y + sin(x * x)" = .ok f ∧
    (∀ name, huge name = .null ∨ ∃ x, huge name = .float x) ∧
    (evaluate .builtin huge f).result ≠ .error (.misuse .undefined) ∧
    ¬ MeetsInfinity huge f := by
  obtain ⟨f, hread, divides⟩ := exists_of_any_toOption (x := read "1 / y + sin(x * x)")
    (P := fun f => dividesByZero (evaluate .builtin huge f) = true) (by decide +kernel)
  obtain ⟨e, failed, fault⟩ := exists_of_dividesByZero divides
  have guarded := (evaluate_answers_iff hread huge_numbers).1.1 (.inr ⟨e, failed, fault ▸ rfl⟩)
  refine ⟨f, hread, huge_numbers, fun other => ?_, guarded⟩
  cases failed.symm.trans other

/-- Finite doubles are enough: the sine of a product that is infinite ends with a misuse. -/
theorem not_forall_evaluate_answers :
    ¬ ∀ (source : String) (f : Formula) (context : Context), read source = .ok f →
      (∀ name, context name = .null ∨ ∃ x, context name = .float x) →
      Answers (evaluate .builtin context f).result := by
  intro answers
  obtain ⟨f, hread, misused⟩ := exists_of_any_toOption (x := read "sin(x * x)")
    (P := fun f => (evaluate .builtin huge f).result = .error (.misuse .undefined))
    (by decide +kernel)
  obtain ⟨x, ok⟩ | ⟨e, error, -⟩ := answers _ f huge hread huge_numbers
  · cases ok.symm.trans misused
  · cases error.symm.trans misused

end Formula

end Joinery
