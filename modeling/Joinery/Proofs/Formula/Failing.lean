import Joinery.Proofs.Formula.Words

/-!
# Where reading fails

Reading fails at the first token with which no formula begins. What stands before that token decides
on the error: whether an operand has to start there, and which parentheses are open. Both are said
of the tokens alone; the states and frames of the reader are shown to agree with them.
-/
namespace Joinery.Formula

/-! ### Beginnings of formulas -/

/-- Some sum begins with the symbols. -/
def Viable (symbols : List Symbol) : Prop := ∃ more f, Derives .sum (symbols ++ more) f

/-- What the open frames wait for makes a sum of all symbols. -/
theorem Awaits.completes {category : Category} {stack : List Frame} {symbols : List Symbol}
    (h : Awaits category stack symbols) {own : List Symbol} {f : Formula}
    (derives : Derives category own f) : Viable (symbols ++ own) := by
  induction h generalizing own f with
  | start => exact ⟨[], f, by simpa using derives⟩
  | group opening below ih =>
    obtain ⟨more, g, whole⟩ := ih (.primary (.group derives))
    exact ⟨.closing :: more, g, by simpa using whole⟩
  | arguments name place opening before args each same below ih =>
    have call := Derives.call name (args ++ [(own, f)])
      (List.forall_mem_append.2 ⟨each, List.forall_mem_singleton.2 derives⟩)
    obtain ⟨more, g, whole⟩ := ih (.primary call)
    rw [List.map_append, List.map_singleton, intercalate_append_singleton] at whole
    exact ⟨.closing :: more, g, by simpa [List.flatMap_map] using whole⟩
  | summand below operand hop ih =>
    obtain ⟨more, g, whole⟩ := ih (operand.extendSum hop derives)
    exact ⟨more, g, by simpa using whole⟩
  | factor below operand hop ih =>
    obtain ⟨more, g, whole⟩ := ih (operand.extendTerm hop derives)
    exact ⟨more, g, by simpa using whole⟩
  | negation minus below ih =>
    obtain ⟨more, g, whole⟩ := ih derives.negation
    exact ⟨more, g, by simpa using whole⟩
  | term h ih => exact ih derives.toSum
  | unary h ih => exact ih derives.toTerm

/-- The symbols that the reader has read can be completed to a sum. -/
theorem State.After.viable {state : State} {symbols : List Symbol} (after : state.After symbols) :
    Viable symbols := by
  cases state with
  | operand stack =>
    obtain ⟨more, g, whole⟩ := Awaits.completes after (.primary (.number 0))
    exact ⟨.number 0 :: more, g, by simpa using whole⟩
  | named name place stack =>
    obtain ⟨before, rfl, awaits⟩ := after
    exact awaits.completes (.primary (.parameter name))
  | called name place opening stack =>
    obtain ⟨before, rfl, awaits⟩ := after
    obtain ⟨more, g, whole⟩ := awaits.completes (.primary (.call name [] (by simp)))
    exact ⟨.closing :: more, g, by simpa using whole⟩
  | complete f stack =>
    obtain ⟨before, own, rfl, awaits, derives⟩ := after
    exact awaits.completes derives

/-- No sum begins with the symbols of tokens at the last of which the reader fails. -/
theorem not_viable_of_step {source : String} {before : List Token} {token : Token} {state : State}
    {e : Error} (read : advance source (.operand []) before = .ok state)
    (failed : step source state token = .error e) :
    ¬ Viable ((before ++ [token]).map Token.symbol) := by
  rintro ⟨more, f, derives⟩
  let later := more.map fun symbol => (⟨symbol, "", ⟨0, 0⟩⟩ : Token)
  have hsymbols : (before ++ token :: later).map Token.symbol =
      (before ++ [token]).map Token.symbol ++ more := by
    simp [later, Function.comp_def]
  obtain ⟨g, spelled, -⟩ := derives.exists_spells (before ++ token :: later) hsymbols
  obtain ⟨next, last, rest, hnext, -⟩ := spelled.readAs.closes source [] rfl
  rw [advance_append read] at hnext
  simp [advance, failed, bind, Except.bind] at hnext

/-! ### What stands before a token -/

/-- Whether an operand has to start behind a symbol. -/
def Symbol.wantsOperand : Symbol → Bool
  | .operator _ | .opening | .comma => true
  | _ => false

/-- Whether an operand has to start behind tokens, which it has to at the beginning. -/
def wantsOperand (before : List Token) : Bool :=
  match before.getLast? with
  | some token => token.symbol.wantsOperand
  | none => true

/-- The parentheses that are open, the innermost first, when a token has been read. -/
def openBehind (opened : List Span) (token : Token) : List Span :=
  match token.symbol with
  | .opening => token.span :: opened
  | .closing => opened.tail
  | _ => opened

/-- The parentheses that are open behind tokens, the innermost first. -/
def openings (before : List Token) : List Span := before.foldl openBehind []

@[simp] theorem wantsOperand_append (before : List Token) (token : Token) :
    wantsOperand (before ++ [token]) = token.symbol.wantsOperand := by
  simp [wantsOperand]

@[simp] theorem openings_append (before : List Token) (token : Token) :
    openings (before ++ [token]) = openBehind (openings before) token := by
  simp [openings]

theorem mem_openBehind {opened : List Span} {token : Token} {opening : Span}
    (h : opening ∈ openBehind opened token) : opening ∈ opened ∨ token.span = opening := by
  unfold openBehind at h
  split at h
  · rcases List.mem_cons.1 h with rfl | h
    · exact .inr rfl
    · exact .inl h
  · exact .inl (List.mem_of_mem_tail h)
  · exact .inl h

/-- An open parenthesis is the place of a token. -/
theorem mem_openings {before : List Token} {opening : Span} (h : opening ∈ openings before) :
    ∃ token ∈ before, token.span = opening := by
  have general : ∀ (rest : List Token) (opened : List Span),
      opening ∈ rest.foldl openBehind opened →
        opening ∈ opened ∨ ∃ token ∈ rest, token.span = opening := by
    intro rest
    induction rest with
    | nil => exact fun opened h => .inl h
    | cons token rest ih =>
      intro opened h
      rcases ih _ h with h | ⟨later, member, hspan⟩
      · exact (mem_openBehind h).imp_right fun hspan => ⟨token, by simp, hspan⟩
      · exact .inr ⟨later, by simp [member], hspan⟩
  simpa using general before [] h

/-! ### What the frames say of it -/

/-- The parentheses that frames hold open, the innermost first. -/
def heldOpen : List Frame → List Span
  | [] => []
  | .group opening :: stack | .arguments _ _ opening _ :: stack => opening :: heldOpen stack
  | _ :: stack => heldOpen stack

/-- The parentheses that are open where the reader stands. -/
def State.openings : State → List Span
  | .operand stack | .named _ _ stack | .complete _ stack => heldOpen stack
  | .called _ _ opening stack => opening :: heldOpen stack

theorem heldOpen_closeTerm (f : Formula) (stack : List Frame) :
    heldOpen (closeTerm f stack).2 = heldOpen stack := by
  fun_induction closeTerm f stack with
  | case1 f minus stack ih => exact ih
  | case2 f op left stack ih => exact ih
  | case3 => rfl

theorem heldOpen_closeSum (f : Formula) (stack : List Frame) :
    heldOpen (closeSum f stack).2 = heldOpen stack := by
  rw [← heldOpen_closeTerm f stack, closeSum]
  split
  next heq => rw [heq]; rfl
  · rfl

/-- Where the reader stands behind tokens: it accounts for their symbols, it waits for an operand
where one has to start, and its frames hold the open parentheses. -/
structure State.Behind (state : State) (before : List Token) : Prop where
  after : state.After (before.map Token.symbol)
  operand : state.operand?.isNone = wantsOperand before
  openings : state.openings = Formula.openings before

theorem State.Behind.start : (State.operand []).Behind [] :=
  ⟨.unary (.term .start), rfl, rfl⟩

/-- What a step from some open parentheses leads to: it waits for an operand where the token says
so, and the token opens or closes a parenthesis. -/
def State.Follows (next : State) (opened : List Span) (token : Token) : Prop :=
  next.operand?.isNone = token.symbol.wantsOperand ∧ next.openings = openBehind opened token

theorem stepOperand_follows {source : String} {stack : List Frame} {token : Token} {next : State}
    (success : stepOperand source stack token = .ok next) :
    next.Follows (heldOpen stack) token := by
  unfold stepOperand at success
  split at success <;> cases success
  all_goals
    next h => exact ⟨by rw [h]; rfl, by rw [openBehind, h]; rfl⟩

theorem stepComplete_follows {source : String} {f : Formula} {stack : List Frame} {token : Token}
    {next : State} (success : stepComplete source f stack token = .ok next) :
    next.Follows (heldOpen stack) token := by
  have term := heldOpen_closeTerm f stack
  have sum := heldOpen_closeSum f stack
  unfold stepComplete at success
  split at success
  next h => cases success; exact ⟨by rw [h]; rfl, by rw [openBehind, h]; exact term⟩
  next h => cases success; exact ⟨by rw [h]; rfl, by rw [openBehind, h]; exact term⟩
  next h => cases success; exact ⟨by rw [h]; rfl, by rw [openBehind, h]; exact sum⟩
  next h => cases success; exact ⟨by rw [h]; rfl, by rw [openBehind, h]; exact sum⟩
  next h =>
    split at success
    next heq =>
      cases success
      exact ⟨by rw [h]; rfl, by rw [openBehind, h, ← sum, heq]; rfl⟩
    next heq =>
      cases success
      exact ⟨by rw [h]; rfl, by rw [openBehind, h, ← sum, heq]; rfl⟩
    · exact absurd success strandedAt_ne_ok
  next h =>
    split at success
    next heq =>
      cases success
      exact ⟨by rw [h]; rfl, by rw [openBehind, h, ← sum, heq]; rfl⟩
    · exact absurd success strandedAt_ne_ok
  · exact absurd success strandedAt_ne_ok

theorem step_follows {source : String} {state next : State} {token : Token}
    (success : step source state token = .ok next) : next.Follows state.openings token := by
  cases state with
  | operand stack => exact stepOperand_follows success
  | named name place stack =>
    by_cases hopening : token.symbol = .opening
    · simp only [step, hopening] at success
      cases success
      exact ⟨by rw [hopening]; rfl, by rw [openBehind, hopening]; rfl⟩
    · rw [step_of_operand? rfl hopening] at success
      exact stepComplete_follows success
  | called name place opening stack =>
    simp only [step] at success
    split at success
    next hclosing =>
      cases success
      exact ⟨by rw [hclosing]; rfl, by rw [openBehind, hclosing]; rfl⟩
    · exact stepOperand_follows success
  | complete f stack => exact stepComplete_follows success

/-- Every step leads on behind the token that it reads. -/
theorem State.Behind.step {source : String} {state next : State} {before : List Token}
    {token : Token} (behind : state.Behind before) (success : step source state token = .ok next) :
    next.Behind (before ++ [token]) := by
  obtain ⟨operand, opened⟩ := step_follows success
  refine ⟨?_, ?_, ?_⟩
  · simpa using step_after behind.after success
  · rw [operand, wantsOperand_append]
  · rw [opened, behind.openings, openings_append]

theorem State.Behind.advance {source : String} {tokens : List Token} {state next : State}
    {before : List Token} (behind : state.Behind before)
    (success : advance source state tokens = .ok next) : next.Behind (before ++ tokens) :=
  advance_invariant (motive := fun before state => state.Behind before)
    (fun behind hstep => behind.step hstep) before behind success

/-! ### Errors -/

/-- The error at a token where an operand has to start. -/
def missingOperand (source : String) (token : Token) : Error :=
  if token.symbol = .finish then ⟨.unexpectedEnd, some token.span, some source⟩
  else ⟨.unexpectedToken token.describe, some token.span, some source⟩

/-- The error at a token that cannot follow a complete operand, with parentheses open. -/
def stranded (source : String) (opened : List Span) (token : Token) : Error :=
  match opened with
  | opening :: _ =>
    ⟨.unmatchedParenthesis, some ⟨opening.start, token.span.stop⟩, some source⟩
  | [] =>
    if token.symbol = .closing then ⟨.unmatchedParenthesis, some token.span, some source⟩
    else
      ⟨.trailingInput (String.ofList (source.toList.drop token.span.start)),
        some ⟨token.span.start, source.length⟩, some source⟩

/-- The error at a token that cannot follow those before it. -/
def errorAt (source : String) (before : List Token) (token : Token) : Error :=
  if before = [] ∧ token.symbol = .finish then ⟨.empty, none, none⟩
  else if wantsOperand before then missingOperand source token
  else stranded source (openings before) token

theorem strandedAt_eq {α : Type} {source : String} {token : Token} {stack : List Frame}
    (stops : stopsAt .sum stack = true) :
    (strandedAt source token stack : Except Error α) =
      .error (stranded source (heldOpen stack) token) := by
  cases stack with
  | nil =>
    simp only [strandedAt, stranded, heldOpen]
    split
    next h => rw [if_pos h]; rfl
    next h => rw [if_neg h]; rfl
  | cons frame stack =>
    cases frame with
    | group | arguments => rfl
    | _ => cases stops

theorem stepOperand_error {source : String} {stack : List Frame} {token : Token} {e : Error}
    (failed : stepOperand source stack token = .error e) : e = missingOperand source token := by
  unfold stepOperand at failed
  split at failed
  all_goals try cases failed
  next h => rw [missingOperand, if_pos h]
  next h => rw [missingOperand, if_neg h]

theorem stepComplete_error {source : String} {f : Formula} {stack : List Frame} {token : Token}
    {e : Error} (failed : stepComplete source f stack token = .error e) :
    strandedAt source token (closeSum f stack).2 = (.error e : Except Error State) := by
  unfold stepComplete at failed
  split at failed
  all_goals try cases failed
  · split at failed
    · cases failed
    · cases failed
    next heq => rw [heq]; exact failed
  · split at failed
    · cases failed
    next heq => rw [heq]; exact failed
  · exact failed

/-- The error of a state at a token. -/
def State.errorAt (source : String) (state : State) (token : Token) : Error :=
  if state.operand?.isNone then missingOperand source token
  else stranded source state.openings token

theorem openings_of_operand? {state : State} {f : Formula} {stack : List Frame}
    (operand : state.operand? = some (f, stack)) : state.openings = heldOpen stack := by
  cases state <;> cases operand <;> rfl

theorem stranded_of_strandedAt {α : Type} {source : String} {state : State} {f : Formula}
    {stack : List Frame} {token : Token} {symbols : List Symbol} {e : Error}
    (after : state.After symbols) (operand : state.operand? = some (f, stack))
    (failed : strandedAt source token (closeSum f stack).2 = (.error e : Except Error α)) :
    e = state.errorAt source token := by
  obtain ⟨_, _, -, awaits, -⟩ := stands_closeSum (stands_of_operand? after operand)
  rw [strandedAt_eq awaits.stopsAt, heldOpen_closeSum, ← openings_of_operand? operand] at failed
  cases failed
  simp [State.errorAt, operand]

theorem step_error {source : String} {state : State} {token : Token} {symbols : List Symbol}
    {e : Error} (after : state.After symbols) (failed : step source state token = .error e) :
    e = state.errorAt source token := by
  cases state with
  | operand stack => exact stepOperand_error failed
  | named name place stack =>
    by_cases hopening : token.symbol = .opening
    · simp only [step, hopening] at failed
      cases failed
    · rw [step_of_operand? rfl hopening] at failed
      exact stranded_of_strandedAt after rfl (stepComplete_error failed)
  | called name place opening stack =>
    simp only [step] at failed
    split at failed
    · cases failed
    · exact stepOperand_error failed
  | complete f stack => exact stranded_of_strandedAt after rfl (stepComplete_error failed)

theorem finish_error {source : String} {state : State} {token : Token} {symbols : List Symbol}
    {e : Error} (after : state.After symbols) (hfinish : token.symbol = .finish)
    (failed : finish source state token = .error e) : e = state.errorAt source token := by
  cases operand : state.operand? with
  | none =>
    rw [finish_of_operand?_eq_none operand, fail] at failed
    cases failed
    simp [State.errorAt, operand, missingOperand, hfinish]
  | some last =>
    rw [finish_of_operand? operand] at failed
    split at failed
    · cases failed
    next heq => exact stranded_of_strandedAt after operand (by rw [heq]; exact failed)

/-- What a state says of an error is what the tokens before it say. -/
theorem State.Behind.errorAt {source : String} {state : State} {before : List Token}
    (behind : state.Behind before) (token : Token) (h : ¬ (before = [] ∧ token.symbol = .finish)) :
    state.errorAt source token = Formula.errorAt source before token := by
  rw [State.errorAt, Formula.errorAt, if_neg h, behind.operand, behind.openings]

/-! ### Failing runs -/

/-- A run that fails does so at one of its tokens. -/
theorem advance_error {source : String} {tokens : List Token} {state : State} {e : Error}
    (failed : advance source state tokens = .error e) :
    ∃ before token after next, tokens = before ++ token :: after ∧
      advance source state before = .ok next ∧ step source next token = .error e := by
  induction tokens generalizing state with
  | nil => cases failed
  | cons token rest ih =>
    cases hstep : step source state token with
    | error e' =>
      simp only [advance, List.foldlM_cons, hstep, bind, Except.bind] at failed
      cases failed
      exact ⟨[], token, rest, state, rfl, rfl, hstep⟩
    | ok middle =>
      rw [advance_cons hstep] at failed
      obtain ⟨before, last, after, next, rfl, hnext, hfailed⟩ := ih failed
      exact ⟨token :: before, last, after, next, rfl, by rw [advance_cons hstep, hnext], hfailed⟩

/-- The places of errors lie in the text. -/
theorem span_errorAt {source : String} {before after : List Token} {token : Token}
    (h : tokenize source = .ok (before ++ token :: after)) {span : Span}
    (place : (errorAt source before token).span = some span) :
    span.start ≤ span.stop ∧ span.stop ≤ source.length := by
  have munches := tokenize_eq_ok_iff_munches.1 h
  obtain ⟨ordered, inside⟩ := munches.ordered
  have own := inside token (by simp)
  rw [Nat.zero_add, String.length_toList] at own
  have opened : ∀ opening ∈ openings before, opening.start ≤ token.span.stop := by
    intro opening member
    obtain ⟨earlier, hearlier, rfl⟩ := mem_openings member
    have := inside earlier (by simp [hearlier])
    have := (List.pairwise_append.1 ordered).2.2 earlier hearlier token (by simp)
    omega
  rw [errorAt] at place
  split at place
  · cases place
  · split at place
    · have hspan : (missingOperand source token).span = some token.span := by
        rw [missingOperand]
        split <;> rfl
      cases hspan.symm.trans place
      exact own.2
    · cases hopenings : openings before with
      | cons opening outer =>
        rw [hopenings] at place
        cases place
        exact ⟨opened opening (by simp [hopenings]), own.2.2⟩
      | nil =>
        rw [hopenings, stranded] at place
        split at place
        · cases place
          exact own.2
        · cases place
          exact ⟨by simp only; omega, Nat.le_refl _⟩

/-- The code of the error at a token. -/
theorem code_errorAt (source : String) (before : List Token) (token : Token) :
    (errorAt source before token).fault.code =
      if before = [] ∧ token.symbol = .finish then "E100"
      else if wantsOperand before then
        if token.symbol = .finish then "E102" else "E101"
      else if openings before = [] ∧ token.symbol ≠ .closing then "E104"
      else "E103" := by
  rw [errorAt]
  split
  · rfl
  split
  · rw [missingOperand]
    split <;> rfl
  cases openings before with
  | cons opening outer => simp [stranded, Fault.code]
  | nil =>
    rw [stranded]
    split
    next h => simp [h, Fault.code]
    next h => simp [h, Fault.code]

/-- The message of trailing input quotes the text from the token on. -/
theorem message_errorAt {source : String} {before : List Token} {token : Token}
    (h : (errorAt source before token).fault.code = "E104") :
    (errorAt source before token).fault.message = "unexpected characters after expression: '" ++
      String.ofList (source.toList.drop token.span.start) ++ "'" := by
  rw [code_errorAt] at h
  split at h
  · exact absurd h (by decide)
  next hempty =>
    split at h
    · split at h <;> exact absurd h (by decide)
    next hwants =>
      split at h
      next hopen =>
        simp only [errorAt, if_neg hempty, if_neg hwants, hopen.1, stranded, if_neg hopen.2]
        rfl
      · exact absurd h (by decide)

/-- Reading the tokens of a text fails at one of them. -/
theorem readTokens_error {source : String} {words : List Token} {last : Token} {e : Error}
    (hwords : ∀ token ∈ words, token.symbol ≠ .finish) (hlast : last.symbol = .finish)
    (failed : readTokens source (words ++ [last]) = .error e) :
    ∃ before token after state, words ++ [last] = before ++ token :: after ∧
      advance source (.operand []) before = .ok state ∧ e = errorAt source before token ∧
      (token.symbol ≠ .finish → step source state token = .error e) := by
  by_cases hnonempty : words = []
  · subst hnonempty
    refine ⟨[], last, [], .operand [], rfl, rfl, ?_, fun h => absurd hlast h⟩
    simp only [List.nil_append, readTokens, hlast] at failed
    cases failed
    simp [errorAt, hlast]
  rw [readTokens_append_finish hnonempty hwords hlast] at failed
  cases hadvance : advance source (.operand []) words with
  | error e' =>
    rw [hadvance] at failed
    cases failed
    obtain ⟨before, token, after, state, rfl, hstate, hstep⟩ := advance_error hadvance
    refine ⟨before, token, after ++ [last], state, by simp, hstate, ?_, fun _ => hstep⟩
    have behind := State.Behind.start.advance hstate
    rw [List.nil_append] at behind
    rw [step_error behind.after hstep, behind.errorAt]
    exact fun h => hwords token (by simp) h.2
  | ok state =>
    rw [hadvance] at failed
    refine ⟨words, last, [], state, rfl, hadvance, ?_, fun h => absurd hlast h⟩
    have behind := State.Behind.start.advance hadvance
    rw [List.nil_append] at behind
    rw [finish_error behind.after hlast failed, behind.errorAt]
    exact fun h => hnonempty h.1

/-- The tokens of a blank text are none but the one that marks its end. -/
theorem tokens_of_blank {source : String} {tokens : List Token}
    (h : tokenize source = .ok tokens) (blank : Text.isBlankText source.toList = true) :
    tokens = [Token.finishAt source.length] := by
  have munches := tokenize_eq_ok_iff_munches.1 h
  have finished := Munches.finish 0 (List.all_eq_true.1 blank)
  rw [Nat.zero_add, String.length_toList] at finished
  cases (scanFrom_of_munches munches).symm.trans (scanFrom_of_munches finished)
  rfl

/-- Where reading the tokens of a text fails: the tokens before that place can be completed to a
formula, and with the token there they cannot, unless it marks the end. That place decides on the
error, whose own place lies in the text. -/
theorem read_error (source : String) (tokens : List Token) (e : Error)
    (h : tokenize source = .ok tokens) (failed : read source = .error e) :
    ∃ k token state, tokens[k]? = some token ∧
      advance source (.operand []) (tokens.take k) = .ok state ∧
      (token.symbol ≠ .finish → step source state token = .error e) ∧
      Viable ((tokens.take k).map Token.symbol) ∧
      (token.symbol ≠ .finish → ¬ Viable ((tokens.take (k + 1)).map Token.symbol)) ∧
      e = errorAt source (tokens.take k) token ∧
      (e.fault.code =
        if k = 0 ∧ token.symbol = .finish then "E100"
        else if wantsOperand (tokens.take k) then
          if token.symbol = .finish then "E102" else "E101"
        else if openings (tokens.take k) = [] ∧ token.symbol ≠ .closing then "E104"
        else "E103") ∧
      (e.fault.code = "E104" → e.fault.message = "unexpected characters after expression: '" ++
        String.ofList (source.toList.drop token.span.start) ++ "'") ∧
      (∀ span, e.span = some span → span.start ≤ span.stop ∧ span.stop ≤ source.length) := by
  obtain ⟨words, length, rfl, hwords⟩ := tokenize_finish h
  have located : ∃ before token after state,
      words ++ [Token.finishAt length] = before ++ token :: after ∧
      advance source (.operand []) before = .ok state ∧ e = errorAt source before token ∧
      (token.symbol ≠ .finish → step source state token = .error e) := by
    rw [read] at failed
    split at failed
    next blank =>
      cases failed
      exact ⟨[], _, [], _, tokens_of_blank h blank, rfl, rfl, fun visible => absurd rfl visible⟩
    · rw [h] at failed
      exact readTokens_error hwords rfl failed
  obtain ⟨before, token, after, state, split, hstate, rfl, hstep⟩ := located
  have behind := State.Behind.start.advance hstate
  rw [List.nil_append] at behind
  rw [split] at h ⊢
  have taken : (before ++ token :: after).take before.length = before := List.take_left ..
  have next : (before ++ token :: after).take (before.length + 1) = before ++ [token] := by
    rw [← List.singleton_append, ← List.append_assoc]
    exact List.take_left' (by simp)
  refine ⟨before.length, token, state, by simp, ?_, hstep, ?_, ?_, ?_, ?_, message_errorAt,
    fun span => span_errorAt h⟩
  · rw [taken, hstate]
  · rw [taken]
    exact behind.after.viable
  · rw [next]
    exact fun visible => not_viable_of_step hstate (hstep visible)
  · rw [taken]
  · simp only [taken, code_errorAt, List.length_eq_zero_iff]

/-- A comma in a group that is still open. -/
theorem read_error_group :
    ∃ tokens e, tokenize "2 * (a, 1)" = .ok tokens ∧ read "2 * (a, 1)" = .error e ∧
    ∃ k token state, tokens[k]? = some token ∧
      advance "2 * (a, 1)" (.operand []) (tokens.take k) = .ok state ∧
      (token.symbol ≠ .finish → step "2 * (a, 1)" state token = .error e) ∧
      Viable ((tokens.take k).map Token.symbol) ∧
      (token.symbol ≠ .finish → ¬ Viable ((tokens.take (k + 1)).map Token.symbol)) ∧
      e = errorAt "2 * (a, 1)" (tokens.take k) token ∧
      (e.fault.code =
        if k = 0 ∧ token.symbol = .finish then "E100"
        else if wantsOperand (tokens.take k) then
          if token.symbol = .finish then "E102" else "E101"
        else if openings (tokens.take k) = [] ∧ token.symbol ≠ .closing then "E104"
        else "E103") ∧
      (e.fault.code = "E104" → e.fault.message = "unexpected characters after expression: '" ++
        String.ofList ("2 * (a, 1)".toList.drop token.span.start) ++ "'") ∧
      (∀ span, e.span = some span → span.start ≤ span.stop ∧ span.stop ≤ "2 * (a, 1)".length) := by
  have scanned : (scan "2 * (a, 1)").2 = none := by decide +kernel
  have tokenized := tokenize_eq_ok_iff.2 (Prod.ext_iff.2 ⟨rfl, scanned⟩)
  have refused : (read "2 * (a, 1)").toOption.isNone = true := by decide +kernel
  cases hread : read "2 * (a, 1)" with
  | ok f => simp [hread, Except.toOption] at refused
  | error e => exact ⟨_, e, tokenized, rfl, read_error _ _ _ tokenized hread⟩

end Joinery.Formula
