import Joinery.Formula.Evaluation
import Joinery.Proofs.Table

/-!
# The order of an evaluation

An evaluation goes through a formula from left to right. A call is entered before its arguments, and
its name and arity are checked then; a node is left after its operands or arguments, and worked out
then. What a node is worth is said here without any order, and what a visit fails with depends on
the worths of the nodes below alone. The evaluation is what the visits give in order, up to the
first that fails.
-/
namespace Joinery.Formula

/-! ### Visits -/

/-- One visit to a node of a formula. -/
inductive Visit where
  /-- A call is entered. -/
  | enter (name : String) (args : List Formula) (span : Option Span)
  /-- A node is left. -/
  | leave (f : Formula)

mutual

/-- The visits to the nodes of a formula, in order. -/
def visits : Formula → List Visit
  | .number x span => [.leave (.number x span)]
  | .parameter name span => [.leave (.parameter name span)]
  | .binary op left right span =>
    visits left ++ (visits right ++ [.leave (.binary op left right span)])
  | .call name args span =>
    .enter name args span :: (visitsAll args ++ [.leave (.call name args span)])
  | .foreign label => [.leave (.foreign label)]

def visitsAll : List Formula → List Visit
  | [] => []
  | arg :: rest => visits arg ++ visitsAll rest

end

theorem visitsAll_eq_flatMap (args : List Formula) : visitsAll args = args.flatMap visits := by
  induction args with
  | nil => rfl
  | cons arg rest ih => rw [visitsAll, ih, List.flatMap_cons]

section

variable {P : Visit → Prop} {span : Option Span}

theorem forall_visits_binary {op : Operator} {left right : Formula}
    (hleft : ∀ v ∈ visits left, P v) (hright : ∀ v ∈ visits right, P v)
    (own : P (.leave (.binary op left right span))) :
    ∀ v ∈ visits (.binary op left right span), P v := by
  rw [visits]
  exact List.forall_mem_append.2 ⟨hleft, List.forall_mem_append.2
    ⟨hright, List.forall_mem_singleton.2 own⟩⟩

theorem forall_visits_call {name : String} {args : List Formula}
    (entered : P (.enter name args span)) (each : ∀ arg ∈ args, ∀ v ∈ visits arg, P v)
    (own : P (.leave (.call name args span))) : ∀ v ∈ visits (.call name args span), P v := by
  rw [visits, visitsAll_eq_flatMap]
  exact List.forall_mem_cons.2 ⟨entered, List.forall_mem_append.2
    ⟨List.forall_mem_flatMap.2 each, List.forall_mem_singleton.2 own⟩⟩

end

/-! ### What nodes are worth -/

/-- What a name stands for; without a value it counts as zero. -/
def given (context : Context) (name : String) : Except Misuse Binary64 :=
  if (context name).isNull then .ok 0 else (context name).toDouble

/-- The function that a call with so many arguments calls. -/
def callee? (functions : Functions) (name : String) (count : Nat) : Option Function :=
  (functions.find? name).filter (·.accepts count)

section

variable (functions : Functions) (context : Context)

mutual

/-- What a formula is worth, if it is worth anything. -/
def worth? : Formula → Option Binary64
  | .number x _ => some x
  | .parameter name _ => (given context name).toOption
  | .binary op left right span =>
    (worth? left).bind fun x => (worth? right).bind fun y => (op.apply x y span).toOption
  | .call name args _ =>
    (callee? functions name args.length).bind fun f =>
      (worthAll? args).bind fun xs => (f.apply xs).toOption
  | .foreign _ => none

def worthAll? : List Formula → Option (List Binary64)
  | [] => some []
  | arg :: rest => (worth? arg).bind fun x => (worthAll? rest).bind fun xs => some (x :: xs)

end

/-- What a computation fails with. -/
def failureOf {ε α : Type} : Except ε α → Option ε
  | .ok _ => none
  | .error e => some e

/-- What working out a node fails with, when the nodes below are worth something. -/
def ownFailure? : Formula → Option Failure
  | .number _ _ => none
  | .parameter name _ => (failureOf (given context name)).map .misuse
  | .binary op left right span =>
    (worth? functions context left).bind fun x =>
      (worth? functions context right).bind fun y =>
        (failureOf (op.apply x y span)).map .formula
  | .call name args span =>
    (callee? functions name args.length).bind fun f =>
      (worthAll? functions context args).bind fun xs => failureOf (placed span (f.apply xs))
  | .foreign label => some (.foreignNode label)

namespace Visit

/-- What a visit fails with. -/
def failure? : Visit → Option Failure
  | enter name args span =>
    match functions.find? name with
    | none => some (.formula ⟨.unknownFunction name functions.names, span, none⟩)
    | some f =>
      if f.accepts args.length then none
      else some (.formula ⟨.wrongArity name f.arity args.length, span, none⟩)
  | leave f => ownFailure? functions context f

/-- The place of the node that is visited. -/
def span? : Visit → Option Span
  | enter _ _ span => span
  | leave f => f.span?

/-- The name to which a visit refers, with the place. -/
def reference? : Visit → Option (String × Option Span)
  | leave (.parameter name span) => some (name, span)
  | _ => none

end Visit

/-- The references among visits, in order. -/
def references (vs : List Visit) : List (String × Option Span) := vs.filterMap Visit.reference?

/-- The references among visits to names without a value, in order. -/
def missing (vs : List Visit) : List (String × Option Span) :=
  (references vs).filter fun reference => (context reference.1).isNull

/-- The notices of references to names without a value. -/
def noticed (references : List (String × Option Span)) : List Notice :=
  references.map fun reference => .missingName reference.1 reference.2

/-- The outcome of visits that are made in order up to the first that fails. -/
inductive Follows {α : Type} (vs : List Visit) : Option α → Outcome α → Prop
  | done (x : α) (passed : ∀ v ∈ vs, v.failure? functions context = none) :
      Follows vs (some x) ⟨.ok x, noticed (missing context vs)⟩
  | failed {before after : List Visit} {v : Visit} {e : Failure}
      (order : vs = before ++ v :: after)
      (passed : ∀ u ∈ before, u.failure? functions context = none)
      (fails : v.failure? functions context = some e) :
      Follows vs none ⟨.error e, noticed (missing context before)⟩

end

variable {functions : Functions} {context : Context}

theorem noticed_missing_append (vs ws : List Visit) :
    noticed (missing context (vs ++ ws)) =
      noticed (missing context vs) ++ noticed (missing context ws) := by
  simp [noticed, missing, references]

namespace Follows

variable {α β : Type} {vs ws : List Visit}

/-- No visits at all. -/
theorem pure (x : α) : Follows functions context [] (some x) (pure x) :=
  .done x nofun

/-- Visits follow visits when the first go well. -/
theorem bind {a : Option α} {x : Outcome α} {g : α → Option β} {k : α → Outcome β}
    (first : Follows functions context vs a x)
    (next : ∀ y, a = some y → Follows functions context ws (g y) (k y)) :
    Follows functions context (vs ++ ws) (a.bind g) (x >>= k) := by
  cases first with
  | done y passed =>
    change Follows functions context (vs ++ ws) (g y)
      ⟨(k y).result, noticed (missing context vs) ++ (k y).notices⟩
    generalize hg : g y = b, hk : k y = z
    cases hg ▸ hk ▸ next y rfl with
    | done z passed' =>
      rw [← noticed_missing_append]
      exact .done z (List.forall_mem_append.2 ⟨passed, passed'⟩)
    | @failed before after v e order passed' fails =>
      rw [← noticed_missing_append]
      have whole : vs ++ ws = vs ++ before ++ v :: after := by rw [order, List.append_assoc]
      exact .failed whole (List.forall_mem_append.2 ⟨passed, passed'⟩) fails
  | @failed before after v e order passed fails =>
    have whole : vs ++ ws = before ++ v :: (after ++ ws) := by
      rw [order, List.append_assoc, List.cons_append]
    exact .failed whole passed fails

/-- A visit that notices nothing and fails as a computation does. -/
theorem leave {v : Visit} {r : Except Failure α} (quiet : missing context [v] = [])
    (fails : v.failure? functions context = failureOf r) :
    Follows functions context [v] r.toOption (Outcome.ofExcept r) := by
  cases r with
  | ok x =>
    have done := Follows.done x (List.forall_mem_singleton.2 fails)
    rwa [quiet] at done
  | error e => exact .failed (List.nil_append [v]).symm nofun fails

/-- A call that is entered without failure goes on with its arguments. -/
theorem enter {v : Visit} {a : Option α} {x : Outcome α} (quiet : missing context [v] = [])
    (passed : v.failure? functions context = none) (rest : Follows functions context vs a x) :
    Follows functions context (v :: vs) a x := by
  have first := leave (r := (.ok () : Except Failure Unit)) quiet passed
  exact first.bind fun _ _ => rest

end Follows

theorem follows_parameter (name : String) (span : Option Span) :
    Follows functions context (visits (.parameter name span))
      (worth? functions context (.parameter name span))
      (evaluate functions context (.parameter name span)) := by
  rw [visits, worth?, evaluate, given]
  cases hnull : (context name).isNull with
  | true =>
    have passed : (Visit.leave (.parameter name span)).failure? functions context = none := by
      simp [Visit.failure?, ownFailure?, given, hnull, failureOf]
    have done := Follows.done (0 : Binary64) (List.forall_mem_singleton.2 passed)
    have notices : noticed (missing context [Visit.leave (.parameter name span)]) =
        [.missingName name span] := by
      simp [noticed, missing, references, Visit.reference?, hnull]
    rwa [notices] at done
  | false =>
    have quiet : missing context [Visit.leave (.parameter name span)] = [] := by
      simp [missing, references, Visit.reference?, hnull]
    have own : (Visit.leave (.parameter name span)).failure? functions context =
        (failureOf (context name).toDouble).map .misuse := by
      simp [Visit.failure?, ownFailure?, given, hnull]
    cases hvalue : (context name).toDouble with
    | ok x =>
      rw [hvalue] at own
      exact Follows.leave (r := .ok x) quiet own
    | error cause =>
      rw [hvalue] at own
      exact Follows.leave (r := .error (.misuse cause)) quiet own

theorem toOption_placed (span : Option Span) (r : Except Failure Binary64) :
    (placed span r).toOption = r.toOption := by
  unfold placed
  split <;> rfl

mutual

theorem follows_evaluate (functions : Functions) (context : Context) :
    ∀ f : Formula, Follows functions context (visits f) (worth? functions context f)
      (evaluate functions context f)
  | .number x span => Follows.leave (r := .ok x) rfl rfl
  | .parameter name span => follows_parameter name span
  | .binary op left right span => by
    rw [visits, worth?, evaluate]
    refine (follows_evaluate functions context left).bind fun x hx => ?_
    refine (follows_evaluate functions context right).bind fun y hy => ?_
    have own : (Visit.leave (.binary op left right span)).failure? functions context =
        (failureOf (op.apply x y span)).map .formula := by
      simp [Visit.failure?, ownFailure?, hx, hy]
    cases happly : op.apply x y span with
    | ok z =>
      rw [happly] at own
      exact Follows.leave (r := .ok z) rfl own
    | error e =>
      rw [happly] at own
      exact Follows.leave (r := .error (.formula e)) rfl own
  | .call name args span => by
    rw [visits, worth?, evaluate]
    cases hfind : functions.find? name with
    | none =>
      have fails : (Visit.enter name args span).failure? functions context =
          some (.formula ⟨.unknownFunction name functions.names, span, none⟩) := by
        simp [Visit.failure?, hfind]
      simp only [callee?, hfind, Option.filter_none, Option.bind_none]
      exact .failed (List.nil_append _).symm nofun fails
    | some f =>
      cases haccepts : f.accepts args.length with
      | false =>
        have fails : (Visit.enter name args span).failure? functions context =
            some (.formula ⟨.wrongArity name f.arity args.length, span, none⟩) := by
          simp [Visit.failure?, hfind, haccepts]
        simp only [callee?, hfind, Option.filter_some, haccepts]
        exact .failed (List.nil_append _).symm nofun fails
      | true =>
        have passed : (Visit.enter name args span).failure? functions context = none := by
          simp [Visit.failure?, hfind, haccepts]
        have called : callee? functions name args.length = some f := by
          simp [callee?, hfind, haccepts]
        rw [called, Option.bind_some]
        dsimp only
        rw [if_pos haccepts]
        refine .enter rfl passed ?_
        refine (follows_evaluateAll functions context args).bind fun xs hxs => ?_
        have own : (Visit.leave (.call name args span)).failure? functions context =
            failureOf (placed span (f.apply xs)) := by
          simp [Visit.failure?, ownFailure?, called, hxs]
        rw [← toOption_placed span]
        exact .leave rfl own
  | .foreign label => Follows.leave (r := .error (.foreignNode label)) rfl rfl

theorem follows_evaluateAll (functions : Functions) (context : Context) :
    ∀ args : List Formula, Follows functions context (visitsAll args)
      (worthAll? functions context args) (evaluateAll functions context args)
  | [] => .pure []
  | arg :: rest => by
    rw [visitsAll, worthAll?, evaluateAll]
    refine (follows_evaluate functions context arg).bind fun x _ => ?_
    rw [← List.append_nil (visitsAll rest)]
    exact (follows_evaluateAll functions context rest).bind fun xs _ => .pure (x :: xs)

end

/-! ### Names -/

/-- Adds the names of references to names met before. -/
def addNames (seen : List String) (refs : List (String × Option Span)) : List String :=
  refs.foldl (fun seen ref => if ref.1 ∈ seen then seen else seen ++ [ref.1]) seen

theorem addNames_cons (seen : List String) (ref : String × Option Span)
    (rest : List (String × Option Span)) :
    addNames seen (ref :: rest) =
      addNames (if ref.1 ∈ seen then seen else seen ++ [ref.1]) rest :=
  rfl

theorem addNames_append (seen : List String) (refs more : List (String × Option Span)) :
    addNames seen (refs ++ more) = addNames (addNames seen refs) more :=
  List.foldl_append

theorem references_append (vs ws : List Visit) :
    references (vs ++ ws) = references vs ++ references ws :=
  List.filterMap_append

theorem references_visits_binary (op : Operator) (left right : Formula) (span : Option Span) :
    references (visits (.binary op left right span)) =
      references (visits left) ++ references (visits right) := by
  rw [visits, references_append, references_append]
  exact congrArg _ (List.append_nil _)

theorem references_visits_call (name : String) (args : List Formula) (span : Option Span) :
    references (visits (.call name args span)) = references (visitsAll args) := by
  rw [visits, ← List.singleton_append, references_append, references_append]
  exact List.append_nil _

theorem references_visitsAll_cons (arg : Formula) (rest : List Formula) :
    references (visitsAll (arg :: rest)) =
      references (visits arg) ++ references (visitsAll rest) := by
  rw [visitsAll, references_append]

/-- The labels of the foreign nodes among visits, in order. -/
def foreignLabels (vs : List Visit) : List String :=
  vs.filterMap fun
    | .leave (.foreign label) => some label
    | _ => none

/-- Adds the names to which visits refer; the first foreign node answers instead. -/
def gather (seen : List String) (vs : List Visit) : Except String (List String) :=
  match foreignLabels vs with
  | [] => .ok (addNames seen (references vs))
  | label :: _ => .error label

theorem gather_append (seen : List String) (vs ws : List Visit) :
    gather seen (vs ++ ws) = gather seen vs >>= fun names => gather names ws := by
  unfold gather
  rw [references_append, addNames_append, foreignLabels, List.filterMap_append]
  change (match foreignLabels vs ++ foreignLabels ws with | [] => _ | label :: _ => _) = _
  cases foreignLabels vs <;> rfl

mutual

/-- The names of a formula are those to which its visits refer. -/
theorem namesAfter_eq : ∀ (f : Formula) (seen : List String),
    namesAfter f seen = gather seen (visits f)
  | .number x span, seen => rfl
  | .parameter name span, seen => rfl
  | .binary op left right span, seen => by
    rw [namesAfter, visits, gather_append, namesAfter_eq left]
    refine bind_congr fun names => ?_
    rw [gather_append, namesAfter_eq right]
    exact (bind_pure _).symm
  | .call name args span, seen => by
    have entered : gather seen [.enter name args span] = .ok seen := rfl
    rw [namesAfter, namesAfterAll_eq args, visits, ← List.singleton_append, gather_append, entered]
    exact ((gather_append seen (visitsAll args) _).trans (bind_pure _)).symm
  | .foreign label, seen => rfl

theorem namesAfterAll_eq : ∀ (args : List Formula) (seen : List String),
    namesAfterAll args seen = gather seen (visitsAll args)
  | [], seen => rfl
  | arg :: rest, seen => by
    rw [namesAfterAll, visitsAll, gather_append, namesAfter_eq arg]
    exact bind_congr fun names => namesAfterAll_eq rest names

end

/-- A formula without foreign nodes has names. -/
theorem names_eq_ok {f : Formula} (native : ∀ label, .leave (.foreign label) ∉ visits f) :
    f.names = .ok (addNames [] (references (visits f))) := by
  have none_foreign : foreignLabels (visits f) = [] := by
    refine List.filterMap_eq_nil_iff.2 fun v member => ?_
    split
    · next label => exact absurd member (native label)
    · rfl
  rw [names, namesAfter_eq, gather, none_foreign]

theorem eq_addNames_of_names {f : Formula} {names : List String} (success : f.names = .ok names) :
    names = addNames [] (references (visits f)) := by
  rw [Formula.names, namesAfter_eq, gather] at success
  split at success
  · exact (Except.ok.inj success).symm
  · cases success

/-- Adding names and leaving some out can be exchanged. -/
theorem addNames_filter (p : String → Bool) (refs : List (String × Option Span))
    (seen : List String) :
    addNames (seen.filter p) (refs.filter fun ref => p ref.1) = (addNames seen refs).filter p := by
  induction refs generalizing seen with
  | nil => rfl
  | cons ref rest ih =>
    rw [addNames_cons, ← ih]
    cases hp : p ref.1 with
    | false =>
      rw [List.filter_cons_of_neg (by simp [hp])]
      congr 1
      split <;> simp [hp]
    | true =>
      have kept : (ref :: rest).filter (fun ref => p ref.1) =
          ref :: rest.filter fun ref => p ref.1 :=
        List.filter_cons_of_pos hp
      rw [kept, addNames_cons]
      congr 1
      simp only [List.mem_filter, hp, and_true]
      split <;> simp [hp]

/-- Behind names met before, the names of references are added each one once. -/
theorem addNames_eq (refs : List (String × Option Span)) (seen : List String) :
    addNames seen refs = seen ++ ((refs.map Prod.fst).filter (· ∉ seen)).eraseDups := by
  induction refs generalizing seen with
  | nil => simp [addNames]
  | cons ref rest ih =>
    rw [addNames_cons, List.map_cons]
    split
    next h => rw [ih, List.filter_cons_of_neg (by simp [h])]
    next h =>
      rw [ih, List.filter_cons_of_pos (by simp [h]), List.eraseDups_cons, List.filter_filter,
        List.append_assoc, List.singleton_append]
      congr 3
      refine List.filter_congr fun name _ => ?_
      simp [Bool.beq_eq_decide_eq, and_comm]

theorem addNames_nil (refs : List (String × Option Span)) :
    addNames [] refs = (refs.map Prod.fst).eraseDups := by
  rw [addNames_eq, List.filter_eq_self.2 (by simp), List.nil_append]

/-- The names of a formula are those of its references. -/
theorem mem_names_iff {f : Formula} {names : List String} (success : f.names = .ok names)
    {name : String} : name ∈ names ↔ ∃ span, (name, span) ∈ references (visits f) := by
  rw [eq_addNames_of_names success, addNames_nil, List.mem_eraseDups]
  simp

/-- When an evaluation succeeds, the names that it misses are those of the formula that have no
value, in order of first use. -/
theorem eraseDups_missing (f : Formula)
    (passed : ∀ v ∈ visits f, v.failure? functions context = none) :
    ∃ names, f.names = .ok names ∧ ((missing context (visits f)).map Prod.fst).eraseDups =
      names.filter fun name => (context name).isNull := by
  have native : ∀ label, .leave (.foreign label) ∉ visits f :=
    fun label member => absurd (passed _ member) nofun
  refine ⟨_, names_eq_ok native, ?_⟩
  rw [← addNames_nil, missing, ← addNames_filter, List.filter_nil]

end Joinery.Formula
