import Joinery.Proofs.Binding.Chains
import Joinery.Proofs.Binding.Reading

/-!
# Chains around chains

A chain can wrap a binding that is a chain itself. Every layer keeps the reason of its last
rejection, while parameters change, handlers come and go, and values are resolved, checked and
written, at any depth. What a layer keeps follows from its own last return alone: no reason if all
its handlers accepted, else the reason of the first that did not. A resolution that fails on its way
leaves the layers that it did not come back from as they were.
-/
namespace Joinery

/-! ### The ends of a chain -/

namespace Handler

/-- Every handler of a chain accepts, each taking what the one before it gave. -/
inductive Through : List Handler → Value → Value → Prop
  | nil (value : Value) : Through [] value value
  | cons {h : Handler} {rest : List Handler} {value next result : Value} :
    h.process value = .ok ⟨next, none⟩ → Through rest next result →
    Through (h :: rest) value result

/-- The first handler that does not accept rejects, for a reason. -/
def RejectsWith (hs : List Handler) (value : Value) (reason : String) : Prop :=
  ∃ before h after taken given, hs = before ++ h :: after ∧ Through before value taken ∧
    h.process taken = .ok ⟨given, some reason⟩

/-- The first handler that does not accept fails, for a cause. -/
def BreaksWith (hs : List Handler) (value : Value) (cause : Misuse) : Prop :=
  ∃ before h after taken, hs = before ++ h :: after ∧ Through before value taken ∧
    h.process taken = .error cause

variable {hs : List Handler} {value result : Value} {reason : String} {cause : Misuse}

theorem runChain_append_of_through (through : Through hs value result) (rest : List Handler) :
    runChain (hs ++ rest) value = runChain rest result := by
  induction through with
  | nil => rfl
  | cons accepted _ ih => exact (runChain_of_accepted _ accepted).trans ih

theorem runChain_of_through (through : Through hs value result) :
    runChain hs value = .ok ⟨result, none⟩ := by
  simpa [runChain] using runChain_append_of_through through []

theorem runChain_of_rejectsWith (rejects : RejectsWith hs value reason) :
    ∃ given, runChain hs value = .ok ⟨given, some reason⟩ := by
  obtain ⟨before, h, after, taken, given, rfl, through, rejected⟩ := rejects
  exact ⟨given, (runChain_append_of_through through _).trans
    (runChain_of_rejected after rejected rfl)⟩

theorem runChain_of_breaksWith (breaks : BreaksWith hs value cause) :
    runChain hs value = .error cause := by
  obtain ⟨before, h, after, taken, rfl, through, failed⟩ := breaks
  rw [runChain_append_of_through through, runChain_cons, failed]
  rfl

theorem rejectsWith_cons {h : Handler} {rest : List Handler} {next : Value}
    (accepted : h.process value = .ok ⟨next, none⟩) (rejects : RejectsWith rest next reason) :
    RejectsWith (h :: rest) value reason := by
  obtain ⟨before, h', after, taken, given, rfl, through, rejected⟩ := rejects
  exact ⟨h :: before, h', after, taken, given, rfl, .cons accepted through, rejected⟩

theorem breaksWith_cons {h : Handler} {rest : List Handler} {next : Value}
    (accepted : h.process value = .ok ⟨next, none⟩) (breaks : BreaksWith rest next cause) :
    BreaksWith (h :: rest) value cause := by
  obtain ⟨before, h', after, taken, rfl, through, failed⟩ := breaks
  exact ⟨h :: before, h', after, taken, rfl, .cons accepted through, failed⟩

/-- A chain accepts, rejects or fails. -/
theorem runChain_ends (hs : List Handler) (value : Value) :
    (∃ result, Through hs value result) ∨ (∃ reason, RejectsWith hs value reason) ∨
      ∃ cause, BreaksWith hs value cause := by
  induction hs generalizing value with
  | nil => exact .inl ⟨value, .nil value⟩
  | cons h rest ih =>
    cases answer : h.process value with
    | error cause => exact .inr (.inr ⟨cause, [], h, rest, value, rfl, .nil value, answer⟩)
    | ok checked =>
      obtain ⟨next, rejection⟩ := checked
      cases rejection with
      | some reason =>
        exact .inr (.inl ⟨reason, [], h, rest, value, next, rfl, .nil value, answer⟩)
      | none =>
        obtain ⟨result, through⟩ | ⟨reason, rejects⟩ | ⟨cause, breaks⟩ := ih next
        · exact .inl ⟨result, .cons answer through⟩
        · exact .inr (.inl ⟨reason, rejectsWith_cons answer rejects⟩)
        · exact .inr (.inr ⟨cause, breaksWith_cons answer breaks⟩)

end Handler

/-! ### Layers -/

namespace Binding

/-- One chain of handlers around a binding, and the reason of its last rejection. -/
structure Layer where
  handlers : List Handler
  lastError : Option String

/-- The chains around a binding, the outermost first. -/
def layers : Binding → List Layer
  | .processed wrapped handlers lastError => ⟨handlers, lastError⟩ :: wrapped.layers
  | _ => []

/-- The binding inside all chains. -/
def core : Binding → Binding
  | .processed wrapped _ _ => wrapped.core
  | b => b

/-- Puts chains around a binding. -/
def nest (base : Binding) : List Layer → Binding
  | [] => base
  | l :: rest => .processed (base.nest rest) l.handlers l.lastError

theorem nest_core_layers (b : Binding) : b.core.nest b.layers = b := by
  induction b with
  | processed wrapped handlers lastError ih => rw [core, layers, nest, ih]
  | literal | parameter | expression | foreign => rfl

@[simp] theorem layers_nest (base : Binding) (ls : List Layer) :
    (base.nest ls).layers = ls ++ base.layers := by
  induction ls with
  | nil => rfl
  | cons l rest ih => rw [nest, layers, ih, List.cons_append]

@[simp] theorem core_nest (base : Binding) (ls : List Layer) : (base.nest ls).core = base.core := by
  induction ls with
  | nil => rfl
  | cons l rest ih => exact ih

theorem nest_nest (base : Binding) (outer inner : List Layer) :
    (base.nest inner).nest outer = base.nest (outer ++ inner) := by
  induction outer with
  | nil => rfl
  | cons l rest ih => rw [nest, ih, List.cons_append, nest]

@[simp] theorem layers_core (b : Binding) : b.core.layers = [] := by
  induction b with
  | processed wrapped handlers lastError ih => exact ih
  | literal | parameter | expression | foreign => rfl

/-- What is no chain stays none when it is resolved. -/
theorem layers_resolve {b : Binding} (bare : b.layers = []) (env : Environment) :
    (b.resolve env).binding.layers = [] := by
  cases b with
  | processed => cases bare
  | literal | foreign => rfl
  | parameter id =>
    rw [resolve]
    cases env.store <;> rfl
  | expression text last =>
    rw [resolve]
    cases env.store <;> cases env.functions <;> try rfl
    dsimp only
    cases reading text last <;> rfl

theorem core_eq_self {b : Binding} (bare : b.layers = []) : b.core = b := by
  cases b with
  | processed => cases bare
  | literal | parameter | expression | foreign => rfl

/-! ### One resolution -/

/-- What a layer that returns gives, and the reason if a handler rejected. -/
structure Return where
  value : Value
  error : Option String

/-- The warning of a rejection. -/
def rejection (reason : String) : Formula.Diagnostic :=
  ⟨"W203", s!"binding validation failed: {reason}", .warning, none, none, []⟩

/-- What resolving chains around chains comes to, when resolving what they wrap came to the first
outcome: the return of each layer or nothing, the result, and the warnings in order. -/
inductive Resolves (first : Outcome Value) : List (List Handler) → List (Option Return) →
    Except Failure Value → List Formula.Diagnostic → Prop
  | core : Resolves first [] [] first.result (Notice.warnings first.notices)
  /-- All handlers accept: the layer gives what the last of them gave. -/
  | accepted {hs inner returns raw value warnings} :
    Resolves first inner returns (.ok raw) warnings → Handler.Through hs raw value →
    Resolves first (hs :: inner) (some ⟨value, none⟩ :: returns) (.ok value) warnings
  /-- A handler rejects: the layer gives what it wraps, and warns after that. -/
  | rejected {hs inner returns raw reason warnings} :
    Resolves first inner returns (.ok raw) warnings → Handler.RejectsWith hs raw reason →
    Resolves first (hs :: inner) (some ⟨raw, some reason⟩ :: returns) (.ok raw)
      (warnings ++ [rejection reason])
  /-- A handler fails. -/
  | failed {hs inner returns raw cause warnings} :
    Resolves first inner returns (.ok raw) warnings → Handler.BreaksWith hs raw cause →
    Resolves first (hs :: inner) (none :: returns) (.error (.misuse cause)) warnings
  /-- What the layer wraps gave nothing. -/
  | stopped {hs inner returns failure warnings} :
    Resolves first inner returns (.error failure) warnings →
    Resolves first (hs :: inner) (none :: returns) (.error failure) warnings

/-- A layer after a resolution: one that returned keeps the reason of that return. -/
def Layer.after (l : Layer) : Option Return → Layer
  | some r => { l with lastError := r.error }
  | none => l

theorem length_of_resolves {first : Outcome Value} {chains : List (List Handler)}
    {returns : List (Option Return)} {result : Except Failure Value}
    {warnings : List Formula.Diagnostic} (h : Resolves first chains returns result warnings) :
    returns.length = chains.length := by
  induction h with
  | core => rfl
  | accepted _ _ ih | rejected _ _ ih | failed _ _ ih | stopped _ ih =>
    rw [List.length_cons, List.length_cons, ih]

theorem warnings_snoc (notices : List Notice) (reason : String) :
    Notice.warnings (notices ++ [.rejected reason]) =
      Notice.warnings notices ++ [rejection reason] :=
  List.filterMap_append

/-- Resolving chains around a binding: each layer goes on with what the one inside it gave, and
only the layers that return change what they keep. -/
theorem resolve_nest (env : Environment) (base : Binding) (ls : List Layer) :
    ∃ returns, Resolves (base.resolve env).outcome (ls.map Layer.handlers) returns
        ((base.nest ls).resolve env).outcome.result
        (Notice.warnings ((base.nest ls).resolve env).outcome.notices) ∧
      ((base.nest ls).resolve env).binding =
        (base.resolve env).binding.nest (ls.zipWith Layer.after returns) := by
  induction ls with
  | nil => exact ⟨[], .core, rfl⟩
  | cons l rest ih =>
    obtain ⟨returns, inside, binding⟩ := ih
    rw [nest, resolve]
    cases given : ((base.nest rest).resolve env).outcome.result with
    | error failure =>
      rw [given] at inside
      rw [afterChain_of_stopped _ _ given, binding, given]
      exact ⟨none :: returns, .stopped inside, rfl⟩
    | ok value =>
      rw [given] at inside
      obtain ⟨result, through⟩ | ⟨reason, rejects⟩ | ⟨cause, breaks⟩ :=
        Handler.runChain_ends l.handlers value
      · rw [afterChain_of_accepted _ given (Handler.runChain_of_through through), binding]
        exact ⟨some ⟨result, none⟩ :: returns, .accepted inside through, rfl⟩
      · obtain ⟨ignored, answer⟩ := Handler.runChain_of_rejectsWith rejects
        rw [afterChain_of_rejected _ given answer, binding, warnings_snoc]
        exact ⟨some ⟨value, some reason⟩ :: returns, .rejected inside rejects, rfl⟩
      · rw [afterChain_of_failed _ given (Handler.runChain_of_breaksWith breaks), binding]
        exact ⟨none :: returns, .failed inside breaks, rfl⟩

/-- A document does not show what layers keep. -/
theorem toValue_nest (base : Binding) (ls : List Layer) :
    (base.nest ls).toValue = (base.nest (ls.map fun l => ⟨l.handlers, none⟩)).toValue := by
  induction ls with
  | nil => rfl
  | cons l rest ih => rw [List.map_cons, nest, nest, toValue, toValue, ih]

end Binding

/-! ### Uses -/

/-- A change of the handlers of a chain. -/
inductive HandlerEdit where
  /-- Adds a handler at the end; what is no handler is refused. -/
  | add (h : Option Handler)
  /-- Removes all handlers of a kind, given by its word. -/
  | remove (word : Value)
  | clear

namespace HandlerEdit

/-- A changed chain. -/
def chain (c : Binding.Chain) : HandlerEdit → Except Failure Binding.Chain
  | .add (some h) => .ok (c.add h)
  | .add none => .error (.binding .notHandler)
  | .remove word => .ok (c.remove word)
  | .clear => .ok c.clear

/-- Changed handlers. -/
def handlers (hs : List Handler) : HandlerEdit → Except Failure (List Handler)
  | .add (some h) => .ok (hs ++ [h])
  | .add none => .error (.binding .notHandler)
  | .remove word => .ok (hs.filter fun h => !word.equals (.text h.kind.label))
  | .clear => .ok []

/-- A change of a chain is one of its handlers alone. -/
theorem chain_eq (c : Binding.Chain) (e : HandlerEdit) :
    e.chain c = (e.handlers c.handlers).map fun hs => { c with handlers := hs } := by
  cases e with
  | add h => cases h <;> rfl
  | remove | clear => rfl

end HandlerEdit

/-- What is done to chains around chains and to the parameters. A depth counts the chains around
the binding that is meant. -/
inductive LayerUse where
  | change (next : ParameterStore → ParameterStore)
  | edit (depth : Nat) (e : HandlerEdit)
  | validate (depth : Nat) (value : Value)
  | write (depth : Nat)
  /-- With or without the parameters and functions; the warnings go to one of the collectors, or to
  none. -/
  | resolve (depth : Nat) (withStore : Bool) (functions : Option Formula.Functions)
    (collector : Option Nat)

/-- There is no such layer. -/
def LayerUse.Misses (count : Nat) : LayerUse → Prop
  | .change _ => False
  | .edit depth _ | .validate depth _ => count ≤ depth
  | .write depth | .resolve depth .. => count < depth

inductive LayerAnswer where
  | done
  | refused (failure : Failure)
  | checked (answer : Except Misuse Checked)
  | written (document : Except Misuse Value)
  | resolved (result : Except Failure Value)

namespace Binding

variable {α : Type}

/-- Works on the binding at a depth. -/
def within (work : Binding → Option (α × Binding)) : Nat → Binding → Option (α × Binding)
  | 0, b => work b
  | depth + 1, .processed wrapped handlers lastError =>
    (within work depth wrapped).map fun r => (r.1, .processed r.2 handlers lastError)
  | _ + 1, _ => none

/-- Changes the handlers of a chain. -/
def edited (e : HandlerEdit) (b : Binding) : Option (LayerAnswer × Binding) :=
  b.asChain.toOption.map fun c =>
    match e.chain c with
    | .ok c' => (.done, ofChain c')
    | .error failure => (.refused failure, b)

/-- Asks a chain what its handlers answer. -/
def validated (value : Value) (b : Binding) : Option (LayerAnswer × Binding) :=
  b.asChain.toOption.map fun c => (.checked (c.validate value), b)

section

variable {wrapped : Binding} {e : HandlerEdit} {hs hs' : List Handler} {failure : Failure}

theorem edited_of_ok (lastError : Option String) (edits : e.handlers hs = .ok hs') :
    edited e (.processed wrapped hs lastError) =
      some (.done, .processed wrapped hs' lastError) := by
  rw [edited, asChain]
  simp only [Except.toOption, Option.map_some, HandlerEdit.chain_eq, edits]
  rfl

theorem edited_of_error (lastError : Option String) (refuses : e.handlers hs = .error failure) :
    edited e (.processed wrapped hs lastError) =
      some (.refused failure, .processed wrapped hs lastError) := by
  rw [edited, asChain]
  simp only [Except.toOption, Option.map_some, HandlerEdit.chain_eq, refuses]
  rfl

end

theorem within_nest (work : Binding → Option (α × Binding)) (base : Binding) (outer : List Layer) :
    within work outer.length (base.nest outer) =
      (work base).map fun r => (r.1, r.2.nest outer) := by
  induction outer with
  | nil => simp [within, nest]
  | cons l rest ih =>
    rw [List.length_cons, nest, within, ih, Option.map_map]
    rfl

/-- Below the innermost chain there is one binding and no more. -/
theorem within_eq_none (work : Binding → Option (α × Binding)) {depth : Nat} {b : Binding}
    (missing : b.layers.length < depth) : within work depth b = none := by
  induction depth generalizing b with
  | zero => cases missing
  | succ depth ih =>
    cases b with
    | processed wrapped handlers lastError =>
      rw [within, ih (Nat.lt_of_succ_lt_succ missing)]
      rfl
    | literal | parameter | expression | foreign => rfl

/-- Work at a depth that there is takes place inside the outer chains. -/
theorem within_of_le (work : Binding → Option (α × Binding)) {depth : Nat} {b : Binding}
    (reached : depth ≤ b.layers.length) :
    within work depth b = (work (b.core.nest (b.layers.drop depth))).map fun r =>
      (r.1, r.2.nest (b.layers.take depth)) := by
  have split : (b.core.nest (b.layers.drop depth)).nest (b.layers.take depth) = b := by
    rw [nest_nest, List.take_append_drop, nest_core_layers]
  have found := within_nest work (b.core.nest (b.layers.drop depth)) (b.layers.take depth)
  rwa [split, List.length_take_of_le reached] at found

end Binding

/-! ### Runs -/

/-- A binding, the parameters, and the warnings in every collector. -/
structure Workbench where
  binding : Binding
  store : ParameterStore
  collected : Nat → List Formula.Diagnostic

namespace Workbench

/-- Works on the binding at a depth; where there is none, nothing is answered. -/
def workAt (w : Workbench) (depth : Nat) (work : Binding → Option (LayerAnswer × Binding)) :
    Option LayerAnswer × Workbench :=
  match w.binding.within work depth with
  | some (answer, b) => (some answer, { w with binding := b })
  | none => (none, w)

/-- One use: its answer, and what it leaves. -/
def use (w : Workbench) : LayerUse → Option LayerAnswer × Workbench
  | .change next => (some .done, { w with store := next w.store })
  | .edit depth e => w.workAt depth (Binding.edited e)
  | .validate depth value => w.workAt depth (Binding.validated value)
  | .write depth => w.workAt depth fun b => some (.written b.toValue, b)
  | .resolve depth withStore functions collector =>
    let env : Environment := ⟨if withStore then some w.store else none, functions⟩
    match w.binding.within (fun b => some ((b.resolve env).outcome, (b.resolve env).binding))
      depth with
    | some (outcome, b) =>
      (some (.resolved outcome.result), ⟨b, w.store, Desk.collect collector outcome w.collected⟩)
    | none => (none, w)

/-- The answers of a run of uses, and what it leaves. -/
def run : List LayerUse → Workbench → List (Option LayerAnswer) × Workbench
  | [], w => ([], w)
  | u :: rest, w =>
    let (answer, w') := w.use u
    let (answers, last) := run rest w'
    (answer :: answers, last)

/-- What a layer keeps, the outermost counted as zero. -/
def lastError? (w : Workbench) (i : Nat) : Option (Option String) :=
  (w.binding.layers[i]?).map Binding.Layer.lastError

end Workbench

/-! ### Runs without last errors -/

/-- What a workbench holds except for the reasons that layers keep. -/
structure LayerPlan where
  base : Binding
  chains : List (List Handler)
  store : ParameterStore
  collected : Nat → List Formula.Diagnostic

/-- The plan of a workbench. -/
def Workbench.plan (w : Workbench) : LayerPlan :=
  ⟨w.binding.core, w.binding.layers.map Binding.Layer.handlers, w.store, w.collected⟩

namespace LayerPlan

/-- The binding at a depth, whose chains have rejected nothing. -/
def below (p : LayerPlan) (depth : Nat) : Binding :=
  p.base.nest ((p.chains.drop depth).map fun hs => ⟨hs, none⟩)

/-- One use of a plan: its answer, the return of each layer that returned, and what it leaves. -/
inductive Uses (p : LayerPlan) :
    LayerUse → Option LayerAnswer → List (Option Binding.Return) → LayerPlan → Prop
  | change (next : ParameterStore → ParameterStore) :
    p.Uses (.change next) (some .done) [] { p with store := next p.store }
  | edit {depth e hs hs'} : p.chains[depth]? = some hs → e.handlers hs = .ok hs' →
    p.Uses (.edit depth e) (some .done) [] { p with chains := p.chains.set depth hs' }
  | refuse {depth e hs failure} : p.chains[depth]? = some hs → e.handlers hs = .error failure →
    p.Uses (.edit depth e) (some (.refused failure)) [] p
  | validate {depth hs} (value : Value) : p.chains[depth]? = some hs →
    p.Uses (.validate depth value) (some (.checked (Handler.runChain hs value))) [] p
  | write {depth} : depth ≤ p.chains.length →
    p.Uses (.write depth) (some (.written (p.below depth).toValue)) [] p
  /-- The layers outside of the depth do not return. -/
  | resolve {depth withStore functions collector returns result warnings} {env : Environment} :
    depth ≤ p.chains.length → env = ⟨if withStore then some p.store else none, functions⟩ →
    Binding.Resolves (p.base.resolve env).outcome (p.chains.drop depth) returns result warnings →
    p.Uses (.resolve depth withStore functions collector) (some (.resolved result))
      (List.replicate depth none ++ returns)
      { p with
        base := (p.base.resolve env).binding
        collected := fun n =>
          if collector = some n then p.collected n ++ warnings else p.collected n }
  | miss {u : LayerUse} : u.Misses p.chains.length → p.Uses u none [] p

/-- A run of uses: the answer of each, the returns in each, and what it leaves. -/
inductive Runs : LayerPlan → List LayerUse → List (Option LayerAnswer) →
    List (List (Option Binding.Return)) → LayerPlan → Prop
  | nil (p : LayerPlan) : Runs p [] [] [] p
  | cons {p u answer returns p' rest answers reports last} : p.Uses u answer returns p' →
    Runs p' rest answers reports last →
    Runs p (u :: rest) (answer :: answers) (returns :: reports) last

end LayerPlan

/-! ### What layers keep -/

namespace Binding

/-- What a layer keeps after its return in one use, if there was one. -/
def settled (returns : List (Option Return)) (i : Nat) (kept : Option String) : Option String :=
  ((returns[i]?.join).map Return.error).getD kept

/-- The last return of a layer in a run. -/
def lastReturn? (reports : List (List (Option Return))) (i : Nat) : Option Return :=
  (reports.filterMap fun returns => returns[i]?.join).getLast?

theorem settled_nil (i : Nat) : settled [] i = id := rfl

theorem lastReturn?_cons (returns : List (Option Return)) (reports : List (List (Option Return)))
    (i : Nat) (kept : Option String) :
    ((lastReturn? (returns :: reports) i).map Return.error).getD kept =
      ((lastReturn? reports i).map Return.error).getD (settled returns i kept) := by
  unfold lastReturn? settled
  rw [List.filterMap_cons]
  cases returns[i]?.join with
  | none => rfl
  | some r =>
    rw [List.getLast?_cons]
    cases (reports.filterMap fun returns => returns[i]?.join).getLast? <;> rfl

/-- Layers outside of a depth are as before when the returns stand inside of it. -/
theorem zipWith_after_replicate {ls : List Layer} {depth : Nat} (reached : depth ≤ ls.length)
    (returns : List (Option Return)) :
    ls.zipWith Layer.after (List.replicate depth none ++ returns) =
      ls.take depth ++ (ls.drop depth).zipWith Layer.after returns := by
  induction depth generalizing ls with
  | zero => rfl
  | succ depth ih =>
    cases ls with
    | nil => cases reached
    | cons l rest => exact congrArg (l :: ·) (ih (Nat.le_of_succ_le_succ reached))

section

variable {ls : List Layer} {returns : List (Option Return)}

theorem map_handlers_after (complete : returns.length = ls.length) :
    (ls.zipWith Layer.after returns).map Layer.handlers = ls.map Layer.handlers := by
  induction ls generalizing returns with
  | nil => rfl
  | cons l rest ih =>
    cases returns with
    | nil => cases complete
    | cons r others =>
      rw [List.zipWith_cons_cons, List.map_cons, List.map_cons, ih (Nat.succ.inj complete)]
      cases r <;> rfl

theorem getElem?_after (complete : returns.length = ls.length) (i : Nat) :
    (ls.zipWith Layer.after returns)[i]?.map Layer.lastError =
      (ls[i]?.map Layer.lastError).map (settled returns i) := by
  induction ls generalizing returns i with
  | nil => rfl
  | cons l rest ih =>
    cases returns with
    | nil => cases complete
    | cons r others =>
      cases i with
      | zero => cases r <;> rfl
      | succ i => exact ih (Nat.succ.inj complete) i

end

/-- Other handlers in a layer do not change what it keeps. -/
theorem lastError_set {ls : List Layer} {depth : Nat} {l : Layer} (found : ls[depth]? = some l)
    (hs : List Handler) (i : Nat) :
    (ls.set depth ⟨hs, l.lastError⟩)[i]?.map Layer.lastError = ls[i]?.map Layer.lastError := by
  by_cases same : depth = i
  · subst same
    obtain ⟨reached, -⟩ := List.getElem?_eq_some_iff.1 found
    rw [List.getElem?_set_self reached, found]
    rfl
  · rw [List.getElem?_set_ne same]

theorem toOption_asChain {b : Binding} (bare : b.layers = []) : b.asChain.toOption = none := by
  cases b with
  | processed => cases bare
  | literal | parameter | expression | foreign => rfl

end Binding

namespace Workbench

variable {w : Workbench} {depth : Nat}

theorem plan_mk (b : Binding) (store : ParameterStore)
    (collected : Nat → List Formula.Diagnostic) :
    (⟨b, store, collected⟩ : Workbench).plan =
      ⟨b.core, b.layers.map Binding.Layer.handlers, store, collected⟩ :=
  rfl

theorem lastError?_settled_nil (w : Workbench) (i : Nat) :
    w.lastError? i = (w.lastError? i).map (Binding.settled [] i) := by
  rw [Binding.settled_nil, Option.map_id_fun, id]

/-- The binding at a depth. -/
def part (w : Workbench) (depth : Nat) : Binding :=
  w.binding.core.nest (w.binding.layers.drop depth)

@[simp] theorem layers_part (w : Workbench) (depth : Nat) :
    (w.part depth).layers = w.binding.layers.drop depth := by
  rw [part, Binding.layers_nest, Binding.layers_core, List.append_nil]

@[simp] theorem core_part (w : Workbench) (depth : Nat) : (w.part depth).core = w.binding.core := by
  rw [part, Binding.core_nest, Binding.core_eq_self w.binding.layers_core]

theorem workAt_of_some {work : Binding → Option (LayerAnswer × Binding)} {answer : LayerAnswer}
    {b : Binding} (reached : depth ≤ w.binding.layers.length)
    (answered : work (w.part depth) = some (answer, b)) :
    w.workAt depth work =
      (some answer, { w with binding := b.nest (w.binding.layers.take depth) }) := by
  rw [workAt, Binding.within_of_le work reached, ← part, answered]
  rfl

/-- Work that leaves the binding as it is leaves the workbench as it is. -/
theorem workAt_of_same {work : Binding → Option (LayerAnswer × Binding)} {answer : LayerAnswer}
    (reached : depth ≤ w.binding.layers.length)
    (answered : work (w.part depth) = some (answer, w.part depth)) :
    w.workAt depth work = (some answer, w) := by
  rw [workAt_of_some reached answered, part, Binding.nest_nest, List.take_append_drop,
    Binding.nest_core_layers]

theorem workAt_of_lt (work : Binding → Option (LayerAnswer × Binding))
    (missing : w.binding.layers.length < depth) : w.workAt depth work = (none, w) := by
  rw [workAt, Binding.within_eq_none work missing]

/-- Work that only chains take is not done where there is none. -/
theorem workAt_of_le {work : Binding → Option (LayerAnswer × Binding)}
    (bare : ∀ b : Binding, b.layers = [] → work b = none)
    (missing : w.binding.layers.length ≤ depth) : w.workAt depth work = (none, w) := by
  obtain missing | rfl := Nat.lt_or_eq_of_le missing
  · exact workAt_of_lt work missing
  · rw [workAt, Binding.within_of_le work le_rfl, List.drop_length,
      bare (w.binding.core.nest []) w.binding.layers_core]
    rfl

/-- A binding around the same core changes the plan in its chains alone. -/
theorem plan_of_core {b : Binding} {chains : List (List Handler)}
    (core : b.core = w.binding.core) (same : b.layers.map Binding.Layer.handlers = chains) :
    ({ w with binding := b } : Workbench).plan = { w.plan with chains := chains } := by
  rw [plan, core, same]
  rfl

/-- The chain at a depth. -/
theorem exists_part (reached : depth < w.binding.layers.length) :
    ∃ l : Binding.Layer, w.binding.layers[depth]? = some l ∧
      w.plan.chains[depth]? = some l.handlers ∧
      w.part depth = .processed (w.part (depth + 1)) l.handlers l.lastError := by
  refine ⟨w.binding.layers[depth], List.getElem?_eq_getElem reached, ?_, ?_⟩
  · rw [plan, List.getElem?_map, List.getElem?_eq_getElem reached]
    rfl
  · rw [part, List.drop_eq_getElem_cons reached]
    rfl

/-- Another chain at a depth. -/
theorem layers_nest_part (reached : depth < w.binding.layers.length) (hs : List Handler)
    (lastError : Option String) :
    ((Binding.processed (w.part (depth + 1)) hs lastError).nest
      (w.binding.layers.take depth)).layers = w.binding.layers.set depth ⟨hs, lastError⟩ := by
  rw [Binding.layers_nest, Binding.layers, layers_part, List.set_eq_take_append_cons_drop,
    if_pos reached]

theorem core_nest_part (depth : Nat) (hs : List Handler) (lastError : Option String) :
    ((Binding.processed (w.part (depth + 1)) hs lastError).nest
      (w.binding.layers.take depth)).core = w.binding.core := by
  rw [Binding.core_nest, Binding.core, core_part]

/-- A use goes as it does on the plan, and each layer settles by its return. -/
def Follows (w : Workbench) (u : LayerUse) (answer : Option LayerAnswer) (w' : Workbench) : Prop :=
  ∃ returns, w.plan.Uses u answer returns w'.plan ∧
    ∀ i, w'.lastError? i = (w.lastError? i).map (Binding.settled returns i)

theorem follows_of_same {u : LayerUse} {answer : Option LayerAnswer}
    (used : w.plan.Uses u answer [] w.plan) : w.Follows u answer w :=
  ⟨[], used, w.lastError?_settled_nil⟩

theorem length_chains (w : Workbench) : w.plan.chains.length = w.binding.layers.length :=
  List.length_map _

theorem follows_of_misses {u : LayerUse} (missing : u.Misses w.binding.layers.length) :
    w.Follows u none w :=
  follows_of_same (.miss (w.length_chains.symm ▸ missing))

theorem follows_validate (w : Workbench) (depth : Nat) (value : Value) :
    w.Follows (.validate depth value) (w.use (.validate depth value)).1
      (w.use (.validate depth value)).2 := by
  obtain reached | missing := Nat.lt_or_ge depth w.binding.layers.length
  · obtain ⟨l, -, found, chain⟩ := exists_part reached
    have answered : Binding.validated value (w.part depth) =
        some (.checked (Handler.runChain l.handlers value), w.part depth) := by
      rw [chain]
      rfl
    rw [use, workAt_of_same reached.le answered]
    exact follows_of_same (.validate value found)
  · have bare : ∀ b : Binding, b.layers = [] → Binding.validated value b = none := by
      intro b bare
      rw [Binding.validated, Binding.toOption_asChain bare]
      rfl
    rw [use, workAt_of_le bare missing]
    exact follows_of_misses missing

theorem follows_write (w : Workbench) (depth : Nat) :
    w.Follows (.write depth) (w.use (.write depth)).1 (w.use (.write depth)).2 := by
  obtain missing | reached := Nat.lt_or_ge w.binding.layers.length depth
  · rw [use, workAt_of_lt _ missing]
    exact follows_of_misses missing
  · have document : (w.part depth).toValue = (w.plan.below depth).toValue := by
      rw [part, Binding.toValue_nest, LayerPlan.below, plan, ← List.map_drop, List.map_map]
      rfl
    rw [use, workAt_of_same reached rfl, document]
    exact follows_of_same (.write (w.length_chains.symm ▸ reached))

theorem follows_edit (w : Workbench) (depth : Nat) (e : HandlerEdit) :
    w.Follows (.edit depth e) (w.use (.edit depth e)).1 (w.use (.edit depth e)).2 := by
  obtain reached | missing := Nat.lt_or_ge depth w.binding.layers.length
  · obtain ⟨l, layer, found, chain⟩ := exists_part reached
    cases edited : e.handlers l.handlers with
    | error failure =>
      have answered : Binding.edited e (w.part depth) = some (.refused failure, w.part depth) :=
        chain ▸ Binding.edited_of_error l.lastError edited
      rw [use, workAt_of_same reached.le answered]
      exact follows_of_same (.refuse found edited)
    | ok hs =>
      have answered : Binding.edited e (w.part depth) =
          some (.done, .processed (w.part (depth + 1)) hs l.lastError) :=
        chain ▸ Binding.edited_of_ok l.lastError edited
      have changed := layers_nest_part reached hs l.lastError
      have chains : (w.binding.layers.set depth ⟨hs, l.lastError⟩).map Binding.Layer.handlers =
          w.plan.chains.set depth hs := List.map_set
      rw [use, workAt_of_some reached.le answered]
      refine ⟨[], ?_, fun i => ?_⟩
      · rw [plan_of_core (core_nest_part depth hs l.lastError) (changed ▸ chains)]
        exact .edit found edited
      · rw [← lastError?_settled_nil, lastError?, changed]
        exact Binding.lastError_set layer hs i
  · have bare : ∀ b : Binding, b.layers = [] → Binding.edited e b = none := by
      intro b bare
      rw [Binding.edited, Binding.toOption_asChain bare]
      rfl
    rw [use, workAt_of_le bare missing]
    exact follows_of_misses missing

theorem follows_resolve (w : Workbench) (depth : Nat) (withStore : Bool)
    (functions : Option Formula.Functions) (collector : Option Nat) :
    w.Follows (.resolve depth withStore functions collector)
      (w.use (.resolve depth withStore functions collector)).1
      (w.use (.resolve depth withStore functions collector)).2 := by
  obtain missing | reached := Nat.lt_or_ge w.binding.layers.length depth
  · rw [use, Binding.within_eq_none _ missing]
    exact follows_of_misses missing
  · rw [use, Binding.within_of_le _ reached]
    dsimp only [Option.map_some]
    generalize start : (⟨if withStore then some w.store else none, functions⟩ : Environment) = env
    obtain ⟨returns, resolves, binding⟩ :=
      Binding.resolve_nest env w.binding.core (w.binding.layers.drop depth)
    have complete : (List.replicate depth none ++ returns).length = w.binding.layers.length := by
      rw [List.length_append, List.length_replicate, Binding.length_of_resolves resolves,
        List.length_map, List.length_drop, Nat.add_sub_cancel' reached]
    have bare : (w.binding.core.resolve env).binding.layers = [] :=
      Binding.layers_resolve w.binding.layers_core env
    rw [binding, Binding.nest_nest, ← Binding.zipWith_after_replicate reached]
    refine ⟨List.replicate depth none ++ returns, ?_, fun i => ?_⟩
    · rw [plan_mk (Binding.nest _ _), Binding.core_nest, Binding.core_eq_self bare,
        Binding.layers_nest, bare, List.append_nil, Binding.map_handlers_after complete,
        Desk.collect_eq]
      rw [List.map_drop] at resolves
      exact .resolve (w.length_chains.symm ▸ reached) start.symm resolves
    · rw [lastError?, Binding.layers_nest, bare, List.append_nil]
      exact Binding.getElem?_after complete i

/-- What one use of a workbench does. -/
theorem follows_use (w : Workbench) (u : LayerUse) : w.Follows u (w.use u).1 (w.use u).2 := by
  cases u with
  | change next => exact ⟨[], .change next, w.lastError?_settled_nil⟩
  | edit depth e => exact w.follows_edit depth e
  | validate depth value => exact w.follows_validate depth value
  | write depth => exact w.follows_write depth
  | resolve depth withStore functions collector =>
    exact w.follows_resolve depth withStore functions collector

/-- In every run of uses of chains around chains, the answers, the parameters, the handlers and the
warnings are those of the plan; what a layer keeps after it is the error of its last return, and
what it kept before if it did not return. -/
theorem run_settles (w : Workbench) (uses : List LayerUse) :
    ∃ reports, w.plan.Runs uses (run uses w).1 reports (run uses w).2.plan ∧
      ∀ i, (run uses w).2.lastError? i = (w.lastError? i).map fun kept =>
        ((Binding.lastReturn? reports i).map Binding.Return.error).getD kept := by
  induction uses generalizing w with
  | nil => exact ⟨[], .nil w.plan, w.lastError?_settled_nil⟩
  | cons u rest ih =>
    obtain ⟨returns, used, settled⟩ := w.follows_use u
    obtain ⟨reports, runs, kept⟩ := ih (w.use u).2
    refine ⟨returns :: reports, .cons used runs, fun i => ?_⟩
    rw [run]
    dsimp only
    rw [kept, settled, Option.map_map]
    simp only [Binding.lastReturn?_cons]
    rfl

/-- A check rejects null, and keeps the reason when the chain is cleared. -/
example : (run [.resolve 0 false none none, .edit 0 .clear]
    ⟨.processed (.literal .null) [.validation .null .null .null .null] none, .empty,
      fun _ => []⟩).2.lastError? 0 = some (some "Value cannot be null") := by
  rfl

end Workbench

end Joinery
