import Joinery.Proofs.Formula.Grammar

/-!
# What the frames of the reader stand for

Between two tokens the frames on the stack account for all symbols read so far: each frame for an
opened parenthesis, a minus sign, or an operator with the finished formula on its left. Every step
of the reader keeps this account, so a formula that it finishes is one that the grammar derives.
-/
namespace Joinery.Formula

/-- After the symbols, with the frames open, something of the category may come next. -/
inductive Awaits : Category → List Frame → List Symbol → Prop where
  | start : Awaits .sum [] []
  | group {stack : List Frame} {symbols : List Symbol} (opening : Span)
      (below : Awaits .unary stack symbols) :
      Awaits .sum (.group opening :: stack) (symbols ++ [.opening])
  | arguments {stack : List Frame} {symbols : List Symbol} (name : String) (place opening : Span)
      (before : List Formula) (args : List (List Symbol × Formula))
      (each : ∀ arg ∈ args, Derives .sum arg.1 arg.2)
      (same : before.reverse.map bare = args.map Prod.snd)
      (below : Awaits .unary stack symbols) :
      Awaits .sum (.arguments name place opening before :: stack)
        (symbols ++ .name name :: .opening :: args.flatMap fun arg => arg.1 ++ [.comma])
  | summand {stack : List Frame} {symbols more : List Symbol} {left : Formula} {op : Operator}
      (below : Awaits .sum stack symbols) (operand : Derives .sum more left.bare)
      (hop : op = .plus ∨ op = .minus) :
      Awaits .term (.summand op left :: stack) (symbols ++ more ++ [.operator op])
  | factor {stack : List Frame} {symbols more : List Symbol} {left : Formula} {op : Operator}
      (below : Awaits .term stack symbols) (operand : Derives .term more left.bare)
      (hop : op = .times ∨ op = .over) :
      Awaits .unary (.factor op left :: stack) (symbols ++ more ++ [.operator op])
  | negation {stack : List Frame} {symbols : List Symbol} (minus : Span)
      (below : Awaits .unary stack symbols) :
      Awaits .unary (.negation minus :: stack) (symbols ++ [.operator .minus])
  | term {stack : List Frame} {symbols : List Symbol} (h : Awaits .sum stack symbols) :
      Awaits .term stack symbols
  | unary {stack : List Frame} {symbols : List Symbol} (h : Awaits .term stack symbols) :
      Awaits .unary stack symbols

/-- The symbols end with ones that denote the formula, and the frames account for those before. -/
def Stands (category : Category) (f : Formula) (stack : List Frame) (symbols : List Symbol) :
    Prop :=
  ∃ before own, symbols = before ++ own ∧ Awaits category stack before ∧ Derives category own f.bare

/-! ### Completing frames -/

/-- Whether there is nothing to complete on a stack when a chain of the category ends. -/
def stopsAt : Category → List Frame → Bool
  | .sum, .summand .. :: _ => false
  | .sum, .negation _ :: _ | .term, .negation _ :: _ => false
  | .sum, .factor .. :: _ | .term, .factor .. :: _ => false
  | _, _ => true

theorem stopsAt_term_of_sum {stack : List Frame} (h : stopsAt .sum stack = true) :
    stopsAt .term stack = true := by
  cases stack with
  | nil => rfl
  | cons frame stack => cases frame <;> simp_all [stopsAt]

theorem closeTerm_of_stopsAt {stack : List Frame} (f : Formula)
    (h : stopsAt .term stack = true) : closeTerm f stack = (f, stack) := by
  cases stack with
  | nil => rfl
  | cons frame stack => cases frame <;> simp_all [stopsAt, closeTerm]

theorem closeSum_of_stopsAt {f term : Formula} {stack rest : List Frame}
    (hterm : closeTerm f stack = (term, rest)) (h : stopsAt .sum rest = true) :
    closeSum f stack = (term, rest) := by
  rw [closeSum, hterm]
  cases rest with
  | nil => rfl
  | cons frame rest => cases frame <;> simp_all [stopsAt]

theorem closeSum_self {stack : List Frame} (f : Formula) (h : stopsAt .sum stack = true) :
    closeSum f stack = (f, stack) :=
  closeSum_of_stopsAt (closeTerm_of_stopsAt f (stopsAt_term_of_sum h)) h

theorem closeSum_of_summand {f left term : Formula} {op : Operator} {stack rest : List Frame}
    (hterm : closeTerm f stack = (term, .summand op left :: rest)) :
    closeSum f stack = (join op left term, rest) := by
  rw [closeSum, hterm]

/-- Frames that account for symbols stop what completes a chain. -/
theorem Awaits.stopsAt {category : Category} {stack : List Frame} {symbols : List Symbol}
    (h : Awaits category stack symbols) : stopsAt category stack = true := by
  induction h with
  | term _ ih => exact stopsAt_term_of_sum ih
  | _ => rfl

theorem awaits_negation {minus : Span} {stack : List Frame} {symbols : List Symbol}
    (h : Awaits .unary (.negation minus :: stack) symbols) :
    ∃ before, symbols = before ++ [.operator .minus] ∧ Awaits .unary stack before := by
  cases h with
  | negation _ below => exact ⟨_, rfl, below⟩
  | unary h =>
    cases h with
    | term h => cases h

theorem awaits_factor {op : Operator} {left : Formula} {stack : List Frame} {symbols : List Symbol}
    (h : Awaits .unary (.factor op left :: stack) symbols) :
    ∃ before own, symbols = before ++ own ++ [.operator op] ∧ Awaits .term stack before ∧
      Derives .term own left.bare ∧ (op = .times ∨ op = .over) := by
  cases h with
  | factor below operand hop => exact ⟨_, _, rfl, below, operand, hop⟩
  | unary h =>
    cases h with
    | term h => cases h

/-- Completing minus signs and products leaves a term. -/
theorem stands_closeTerm {f : Formula} {stack : List Frame} {symbols : List Symbol}
    (h : Stands .unary f stack symbols) :
    Stands .term (closeTerm f stack).1 (closeTerm f stack).2 symbols := by
  obtain ⟨before, own, rfl, awaits, derives⟩ := h
  induction stack generalizing f before own with
  | nil =>
    cases awaits with
    | unary awaits => exact ⟨before, own, rfl, awaits, derives.toTerm⟩
  | cons frame stack ih =>
    cases frame with
    | negation minus =>
      obtain ⟨before, rfl, below⟩ := awaits_negation awaits
      simpa [closeTerm] using ih before _ below (f := negate minus f) derives.negation
    | factor op left =>
      obtain ⟨before, first, rfl, below, operand, hop⟩ := awaits_factor awaits
      have product : Derives .term (first ++ .operator op :: own) (join op left f).bare :=
        operand.extendTerm hop derives
      rw [closeTerm, closeTerm_of_stopsAt _ below.stopsAt]
      exact ⟨before, _, by simp, below, product⟩
    | _ =>
      cases awaits with
      | unary awaits => exact ⟨before, own, rfl, awaits, derives.toTerm⟩

/-- Completing all operators leaves a sum. -/
theorem stands_closeSum {f : Formula} {stack : List Frame} {symbols : List Symbol}
    (h : Stands .unary f stack symbols) :
    Stands .sum (closeSum f stack).1 (closeSum f stack).2 symbols := by
  obtain ⟨before, own, rfl, awaits, derives⟩ := stands_closeTerm h
  cases hterm : closeTerm f stack with
  | mk term rest =>
    simp only [hterm] at awaits derives
    cases awaits with
    | summand below operand hop =>
      rw [closeSum_of_summand hterm]
      exact ⟨_, _, by simp, below, operand.extendSum hop derives⟩
    | term awaits =>
      rw [closeSum_of_stopsAt hterm awaits.stopsAt]
      exact ⟨before, own, rfl, awaits, derives.toSum⟩

/-! ### Steps -/

/-- Where the reader may stand after symbols. -/
def State.After : State → List Symbol → Prop
  | .operand stack, symbols => Awaits .unary stack symbols
  | .named name _ stack, symbols =>
    ∃ before, symbols = before ++ [.name name] ∧ Awaits .unary stack before
  | .called name _ _ stack, symbols =>
    ∃ before, symbols = before ++ [.name name, .opening] ∧ Awaits .unary stack before
  | .complete f stack, symbols => Stands .unary f stack symbols

/-- The operand that was read last, with what surrounds it. A name counts as a parameter until a
parenthesis follows. -/
def State.operand? : State → Option (Formula × List Frame)
  | .named name place stack => some (.parameter name (some place), stack)
  | .complete f stack => some (f, stack)
  | _ => none

theorem stands_of_operand? {state : State} {f : Formula} {stack : List Frame}
    {symbols : List Symbol} (after : state.After symbols)
    (operand : state.operand? = some (f, stack)) : Stands .unary f stack symbols := by
  cases state with
  | named name place =>
    cases operand
    obtain ⟨before, rfl, awaits⟩ := after
    exact ⟨before, [.name name], rfl, awaits, .primary (.parameter name)⟩
  | complete =>
    cases operand
    exact after
  | _ => cases operand

theorem step_of_operand? {source : String} {state : State} {token : Token} {f : Formula}
    {stack : List Frame} (operand : state.operand? = some (f, stack))
    (hopening : token.symbol ≠ .opening) :
    step source state token = stepComplete source f stack token := by
  cases state with
  | named =>
    cases operand
    simp only [step]
  | complete =>
    cases operand
    rfl
  | _ => cases operand

theorem finish_of_operand? {source : String} {state : State} {token : Token} {f : Formula}
    {stack : List Frame} (operand : state.operand? = some (f, stack)) :
    finish source state token =
      match closeSum f stack with
      | (whole, []) => .ok whole
      | (_, rest) => strandedAt source token rest := by
  cases state <;> cases operand <;> rfl

theorem finish_of_operand?_eq_none {source : String} {state : State} {token : Token}
    (operand : state.operand? = none) :
    finish source state token = fail source .unexpectedEnd token.span := by
  cases state <;> first | rfl | cases operand

/-- The parenthesis of a call opens its argument list. -/
theorem awaits_called {name : String} {place opening : Span} {stack : List Frame}
    {symbols : List Symbol} (h : (State.called name place opening stack).After symbols) :
    Awaits .unary (.arguments name place opening [] :: stack) symbols := by
  obtain ⟨before, rfl, awaits⟩ := h
  have inside := Awaits.arguments name place opening [] [] (by simp) rfl awaits
  exact .unary (.term (by simpa using inside))

theorem stepOperand_after {source : String} {stack : List Frame} {token : Token} {next : State}
    {symbols : List Symbol} (before : Awaits .unary stack symbols)
    (success : stepOperand source stack token = .ok next) :
    next.After (symbols ++ [token.symbol]) := by
  unfold stepOperand at success
  split at success
  next x hx =>
    cases success
    exact ⟨symbols, _, rfl, before, hx ▸ .primary (.number x)⟩
  next name hname =>
    cases success
    exact ⟨symbols, by rw [hname], before⟩
  next hopening =>
    cases success
    rw [hopening]
    exact .unary (.term (.group _ before))
  next hminus =>
    cases success
    rw [hminus]
    exact .negation _ before
  · cases success
  · cases success

theorem awaits_group {opening : Span} {stack : List Frame} {symbols : List Symbol}
    (h : Awaits .sum (.group opening :: stack) symbols) :
    ∃ before, symbols = before ++ [.opening] ∧ Awaits .unary stack before := by
  cases h with
  | group _ below => exact ⟨_, rfl, below⟩

theorem awaits_arguments {name : String} {place opening : Span} {earlier : List Formula}
    {stack : List Frame} {symbols : List Symbol}
    (h : Awaits .sum (.arguments name place opening earlier :: stack) symbols) :
    ∃ before, ∃ args : List (List Symbol × Formula),
      symbols = before ++ .name name :: .opening :: args.flatMap (fun arg => arg.1 ++ [.comma]) ∧
      (∀ arg ∈ args, Derives .sum arg.1 arg.2) ∧
      earlier.reverse.map bare = args.map Prod.snd ∧ Awaits .unary stack before := by
  cases h with
  | arguments _ _ _ _ args each same below => exact ⟨_, args, rfl, each, same, below⟩

/-- A closing parenthesis makes a primary of a group. -/
theorem stands_group {inner : Formula} {opening : Span} {rest : List Frame} {symbols : List Symbol}
    (h : Stands .sum inner (.group opening :: rest) symbols) :
    Stands .unary inner rest (symbols ++ [.closing]) := by
  obtain ⟨before, own, rfl, awaits, derives⟩ := h
  obtain ⟨before, rfl, below⟩ := awaits_group awaits
  exact ⟨before, _, by simp, below, .primary (.group derives)⟩

/-- A closing parenthesis makes a primary of a call. -/
theorem stands_call {name : String} {place opening closing : Span} {earlier : List Formula}
    {last : Formula} {rest : List Frame} {symbols : List Symbol}
    (h : Stands .sum last (.arguments name place opening earlier :: rest) symbols) :
    Stands .unary (callOf name place closing (earlier.reverse ++ [last])) rest
      (symbols ++ [.closing]) := by
  obtain ⟨before, own, rfl, awaits, derives⟩ := h
  obtain ⟨before, args, rfl, each, same, below⟩ := awaits_arguments awaits
  have call := Derives.call name (args ++ [(own, last.bare)])
    (List.forall_mem_append.2 ⟨each, List.forall_mem_singleton.2 derives⟩)
  have formula : (callOf name place closing (earlier.reverse ++ [last])).bare =
      .call (Text.lower name) ((args ++ [(own, last.bare)]).map Prod.snd) none := by
    simp [callOf, bare, bareAll_eq_map, ← same]
  refine ⟨before, _, ?_, below, .primary (formula ▸ call)⟩
  rw [List.map_append, List.map_singleton, intercalate_append_singleton]
  simp [List.flatMap_map]

/-- A comma adds an argument. -/
theorem awaits_comma {name : String} {place opening : Span} {earlier : List Formula}
    {arg : Formula} {rest : List Frame} {symbols : List Symbol}
    (h : Stands .sum arg (.arguments name place opening earlier :: rest) symbols) :
    Awaits .unary (.arguments name place opening (arg :: earlier) :: rest)
      (symbols ++ [.comma]) := by
  obtain ⟨before, own, rfl, awaits, derives⟩ := h
  obtain ⟨before, args, rfl, each, same, below⟩ := awaits_arguments awaits
  have more := Awaits.arguments name place opening (arg :: earlier) (args ++ [(own, arg.bare)])
    (List.forall_mem_append.2 ⟨each, List.forall_mem_singleton.2 derives⟩) (by simp [same]) below
  exact .unary (.term (by simpa using more))

theorem strandedAt_ne_ok {α : Type} {source : String} {token : Token} {stack : List Frame} {a : α} :
    strandedAt source token stack ≠ .ok a := by
  unfold strandedAt fail
  split <;> try simp
  split <;> simp

theorem stepComplete_after {source : String} {f : Formula} {stack : List Frame} {token : Token}
    {next : State} {symbols : List Symbol} (stands : Stands .unary f stack symbols)
    (success : stepComplete source f stack token = .ok next) :
    next.After (symbols ++ [token.symbol]) := by
  have term := stands_closeTerm stands
  have sum := stands_closeSum stands
  unfold stepComplete at success
  split at success
  next hop =>
    cases success
    obtain ⟨before, own, rfl, awaits, derives⟩ := term
    exact hop ▸ .factor awaits derives (.inl rfl)
  next hop =>
    cases success
    obtain ⟨before, own, rfl, awaits, derives⟩ := term
    exact hop ▸ .factor awaits derives (.inr rfl)
  next hop =>
    cases success
    obtain ⟨before, own, rfl, awaits, derives⟩ := sum
    exact hop ▸ .unary (.summand awaits derives (.inl rfl))
  next hop =>
    cases success
    obtain ⟨before, own, rfl, awaits, derives⟩ := sum
    exact hop ▸ .unary (.summand awaits derives (.inr rfl))
  next hclosing =>
    rw [hclosing]
    split at success
    next heq =>
      cases success
      exact stands_group (by simpa only [heq] using sum)
    next heq =>
      cases success
      exact stands_call (by simpa only [heq] using sum)
    · exact absurd success strandedAt_ne_ok
  next hcomma =>
    rw [hcomma]
    split at success
    next heq =>
      cases success
      exact awaits_comma (by simpa only [heq] using sum)
    · exact absurd success strandedAt_ne_ok
  · exact absurd success strandedAt_ne_ok

/-- Every step of the reader accounts for the symbol that it reads. -/
theorem step_after {source : String} {state next : State} {token : Token} {symbols : List Symbol}
    (after : state.After symbols) (success : step source state token = .ok next) :
    next.After (symbols ++ [token.symbol]) := by
  cases state with
  | operand stack => exact stepOperand_after after success
  | named name place stack =>
    by_cases hopening : token.symbol = .opening
    · simp only [step, hopening] at success
      cases success
      obtain ⟨before, rfl, awaits⟩ := after
      exact ⟨before, by simp [hopening], awaits⟩
    · rw [step_of_operand? rfl hopening] at success
      exact stepComplete_after (stands_of_operand? after rfl) success
  | called name place opening stack =>
    simp only [step] at success
    split at success
    next hclosing =>
      cases success
      obtain ⟨before, rfl, awaits⟩ := after
      exact ⟨before, _, by simp [hclosing], awaits, .primary (.call name [] (by simp))⟩
    · exact stepOperand_after (awaits_called after) success
  | complete f stack => exact stepComplete_after after success

/-- A formula that is complete at the end is a sum of all symbols. -/
theorem derives_finish {source : String} {state : State} {token : Token} {f : Formula}
    {symbols : List Symbol} (after : state.After symbols)
    (success : finish source state token = .ok f) : Derives .sum symbols f.bare := by
  cases operand : state.operand? with
  | none => simp [finish_of_operand?_eq_none operand, fail] at success
  | some last =>
    rw [finish_of_operand? operand] at success
    have sum := stands_closeSum (stands_of_operand? after operand)
    split at success
    next heq =>
      cases success
      simp only [heq] at sum
      obtain ⟨before, own, rfl, awaits, derives⟩ := sum
      cases awaits
      exact derives
    · exact absurd success strandedAt_ne_ok

end Joinery.Formula
