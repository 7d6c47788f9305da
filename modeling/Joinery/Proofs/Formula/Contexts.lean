import Joinery.Proofs.Formula.Visits

/-!
# What an evaluation asks its context

An evaluation asks its context for the names of its formula, and for nothing else. Two contexts that
answer alike for each of them give the same result and the same notices; and where one of them is
silent about a name that the other one gives as zero, the results are the same and the notices
differ by those for that name.
-/
namespace Joinery

/-! ### Outcomes with fewer notices -/

namespace Outcome

variable {α β : Type} (keep : Notice → Bool)

/-- An outcome with some of its notices only. -/
def keeping (x : Outcome α) : Outcome α := ⟨x.result, x.notices.filter keep⟩

theorem keeping_bind (x : Outcome α) (f : α → Outcome β) :
    (x >>= f).keeping keep = x.keeping keep >>= fun a => (f a).keeping keep := by
  obtain ⟨result, notices⟩ := x
  cases result with
  | ok a => exact congrArg (Outcome.mk (f a).result) (List.filter_append _ _)
  | error failure => rfl

theorem keeping_liftError (result : Except Formula.Error α) :
    (liftM result : Outcome α).keeping keep = liftM result := by
  cases result <;> rfl

theorem keeping_all (x : Outcome α) : x.keeping (fun _ => true) = x := by
  obtain ⟨result, notices⟩ := x
  exact congrArg (Outcome.mk result) (List.filter_eq_self.2 fun _ _ => rfl)

end Outcome

/-- Whether a notice is about one of some names that are missing. -/
def Notice.misses (names : String → Bool) : Notice → Bool
  | .missingName name _ => names name
  | _ => false

/-- A context in which some names have a value of their own. -/
def Context.assign (context : Context) (names : String → Bool) (value : Value) : Context :=
  fun name => if names name then value else context name

namespace Formula

/-! ### Two contexts -/

variable (functions : Functions) (keep : Notice → Bool) {context context' : Context}

/-- For a name, the second context gives what the first one gives, with some of the notices only. -/
def AnswersAlike (context context' : Context) (ref : String × Option Span) : Prop :=
  evaluate functions context' (.parameter ref.1 ref.2) =
    (evaluate functions context (.parameter ref.1 ref.2)).keeping keep

mutual

/-- When two contexts answer alike for each name of a formula, then they do for the formula: nothing
else is asked of them. -/
theorem evaluate_keeping : ∀ f : Formula,
    (∀ ref ∈ references (visits f), AnswersAlike functions keep context context' ref) →
    evaluate functions context' f = (evaluate functions context f).keeping keep
  | .number x span, _ => rfl
  | .parameter name span, alike => alike (name, span) (.head _)
  | .binary op left right span, alike => by
    rw [references_visits_binary] at alike
    obtain ⟨inLeft, inRight⟩ := List.forall_mem_append.1 alike
    rw [evaluate, evaluate, Outcome.keeping_bind, evaluate_keeping left inLeft]
    refine bind_congr fun x => ?_
    rw [Outcome.keeping_bind, evaluate_keeping right inRight]
    exact bind_congr fun y => (Outcome.keeping_liftError keep _).symm
  | .call name args span, alike => by
    rw [references_visits_call] at alike
    rw [evaluate, evaluate]
    -- An unknown function and a wrong number of arguments fail before a context is asked.
    split
    · rfl
    · split
      · rw [Outcome.keeping_bind, evaluateAll_keeping args alike]
        rfl
      · rfl
  | .foreign label, _ => rfl

theorem evaluateAll_keeping : ∀ args : List Formula,
    (∀ ref ∈ references (visitsAll args), AnswersAlike functions keep context context' ref) →
    evaluateAll functions context' args = (evaluateAll functions context args).keeping keep
  | [], _ => rfl
  | arg :: rest, alike => by
    rw [references_visitsAll_cons] at alike
    obtain ⟨first, others⟩ := List.forall_mem_append.1 alike
    rw [evaluateAll, evaluateAll, Outcome.keeping_bind, evaluate_keeping arg first]
    refine bind_congr fun x => ?_
    rw [Outcome.keeping_bind, evaluateAll_keeping rest others]
    rfl

end

/-- Contexts that give the same to each name of a formula give the same to the formula. -/
theorem evaluate_congr {f : Formula} {names : List String} (named : f.names = .ok names)
    (same : ∀ name ∈ names, context name = context' name) :
    evaluate functions context f = evaluate functions context' f := by
  have alike : ∀ ref ∈ references (visits f),
      AnswersAlike functions (fun _ => true) context context' ref := by
    intro ref member
    have equal := same ref.1 ((mem_names_iff named).2 ⟨ref.2, member⟩)
    rw [AnswersAlike, Outcome.keeping_all, evaluate, evaluate, equal]
  rw [evaluate_keeping functions _ f alike, Outcome.keeping_all]

/-! ### Zeros for missing names -/

/-- A name that is missing evaluates to zero with a notice; assigned a zero, without. -/
theorem answersAlike_assign {names : String → Bool} {zero : Value}
    (absent : ∀ name, names name = true → (context name).isNull = true)
    (isZero : zero.toDouble = .ok 0) (ref : String × Option Span) :
    AnswersAlike functions (fun notice => !notice.misses names) context
      (context.assign names zero) ref := by
  obtain ⟨name, span⟩ := ref
  rw [AnswersAlike, evaluate, evaluate, Context.assign]
  dsimp only
  cases member : names name with
  | true =>
    have present : zero.isNull = false := by
      cases zero with
      | null => cases isZero
      | _ => rfl
    have dropped :
        [Notice.missingName name span].filter (fun notice => !notice.misses names) = [] :=
      List.filter_cons_of_neg (by simp [Notice.misses, member])
    rw [if_pos rfl, present, absent name member, isZero]
    exact congrArg (Outcome.mk (.ok 0)) dropped.symm
  | false =>
    rw [if_neg Bool.false_ne_true]
    cases (context name).isNull with
    | true =>
      have kept : [Notice.missingName name span].filter (fun notice => !notice.misses names) =
          [.missingName name span] :=
        List.filter_cons_of_pos (by simp [Notice.misses, member])
      exact congrArg (Outcome.mk (.ok 0)) kept.symm
    | false => cases (context name).toDouble <;> rfl

/-- Names that are missing are given a zero: the evaluation gives the same number or the same
failure, and the same notices in the same order, but for those about these names. -/
theorem evaluate_assign_missing (functions : Functions) (context : Context) (names : String → Bool)
    (zero : Value) (absent : ∀ name, names name = true → (context name).isNull = true)
    (isZero : zero.toDouble = .ok 0) (f : Formula) :
    (evaluate functions (context.assign names zero) f).result =
        (evaluate functions context f).result ∧
      (evaluate functions (context.assign names zero) f).notices =
        (evaluate functions context f).notices.filter fun notice => !notice.misses names := by
  rw [evaluate_keeping functions (fun notice => !notice.misses names) f
    fun ref _ => answersAlike_assign functions absent isZero ref]
  exact ⟨rfl, rfl⟩

/-- A summand and a divisor are missing. With a zero for the divisor, the notice about the summand
stays, and so does the failure of the division. -/
theorem evaluate_assign_divisor :
    let context : Context := fun name => if name = "z" then .float 1 else .null
    let quotient := binary .over (.parameter "z" none) (.parameter "x" none) (some ⟨4, 9⟩)
    let sum := binary .plus (.parameter "y" (some ⟨0, 1⟩)) quotient none
    let outcome := evaluate .builtin (context.assign (· == "x") (.int 0)) sum
    outcome.result = .error (.formula ⟨.divisionByZero, some ⟨4, 9⟩, none⟩) ∧
      outcome.notices = [.missingName "y" (some ⟨0, 1⟩)] := by
  intro context quotient sum outcome
  have absent : ∀ name, (name == "x") = true → (context name).isNull = true := by
    intro name member
    rw [eq_of_beq member]
    rfl
  obtain ⟨result, notices⟩ :=
    evaluate_assign_missing .builtin context (· == "x") (.int 0) absent rfl sum
  exact ⟨result.trans rfl, notices.trans rfl⟩

end Formula

end Joinery
