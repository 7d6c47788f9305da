import Joinery.Proofs.Fails
import Joinery.Proofs.Formula.Spelling
import Joinery.Proofs.Formula.Stack

/-!
# Reading and the grammar

The reader accepts exactly the tokens of a sum and answers the formula that they denote. One half is
the account that the frames give of the symbols read so far; the other half follows the rules by
which tokens stand for a formula: where an operand has to start, the tokens of a category take the
reader to a state that no later token tells apart from one in which the formula has just been
completed.
-/
namespace Joinery.Formula

/-! ### Runs of steps -/

/-- Reads tokens one after the other. -/
def advance (source : String) (state : State) (tokens : List Token) : Except Error State :=
  tokens.foldlM (step source) state

theorem advance_cons {source : String} {state next : State} {token : Token} {rest : List Token}
    (h : step source state token = .ok next) :
    advance source state (token :: rest) = advance source next rest := by
  rw [advance, List.foldlM_cons, h]
  rfl

theorem advance_append {source : String} {state next : State} {first rest : List Token}
    (h : advance source state first = .ok next) :
    advance source state (first ++ rest) = advance source next rest := by
  rw [advance, List.foldlM_append]
  rw [advance] at h
  rw [h]
  rfl

/-- What holds of the tokens read so far and the state, and goes on to hold over every step, holds
over a run of steps. -/
theorem advance_invariant {source : String} {motive : List Token → State → Prop}
    (goesOn : ∀ {before token state next}, motive before state →
      step source state token = .ok next → motive (before ++ [token]) next)
    (before : List Token) {tokens : List Token} {state next : State} (start : motive before state)
    (success : advance source state tokens = .ok next) : motive (before ++ tokens) next := by
  induction tokens generalizing before state with
  | nil =>
    cases success
    simpa using start
  | cons token rest ih =>
    cases hstep : step source state token with
    | error e => simp [advance, hstep, bind, Except.bind] at success
    | ok middle =>
      rw [advance_cons hstep] at success
      simpa using ih (before ++ [token]) (goesOn start hstep) success

/-- A run of steps accounts for the symbols that it reads. -/
theorem advance_after {source : String} {tokens : List Token} {state next : State}
    {symbols : List Symbol} (after : state.After symbols)
    (success : advance source state tokens = .ok next) :
    next.After (symbols ++ tokens.map Token.symbol) := by
  refine advance_invariant
    (motive := fun read state => state.After (symbols ++ read.map Token.symbol))
    (fun after hstep => ?_) [] (by simpa using after) success
  simpa using step_after after hstep

/-- Up to the end of the text, reading is a run of steps. -/
theorem readFrom_append_finish {source : String} {state : State} {before : List Token}
    {last : Token} (hbefore : ∀ token ∈ before, token.symbol ≠ .finish)
    (hlast : last.symbol = .finish) :
    readFrom source state (before ++ [last]) =
      (advance source state before).bind fun next => finish source next last := by
  induction before generalizing state with
  | nil => simp [readFrom, hlast, advance, pure, Except.pure, Except.bind]
  | cons token rest ih =>
    have htoken := hbefore token (by simp)
    rw [List.cons_append, readFrom]
    split
    · contradiction
    · cases hstep : step source state token with
      | error e => simp [advance, hstep, bind, Except.bind]
      | ok next =>
        rw [advance_cons hstep]
        exact ih fun token member => hbefore token (by simp [member])

/-! ### Operands that were read -/

/-- Completes what the end of a chain of the category completes. -/
def closeTo : Category → Formula → List Frame → Formula × List Frame
  | .sum => closeSum
  | _ => closeTerm

/-- What follows a chain of the category cannot tell the state from one in which the formula has
just been completed on the stack. -/
def Holds (category : Category) (state : State) (f : Formula) (stack : List Frame) : Prop :=
  ∃ last rest, state.operand? = some (last, rest) ∧
    closeTo category last rest = closeTo category f stack

/-- Where an operand has to start, the tokens are read and give the formula. -/
def ReadAs (category : Category) (tokens : List Token) (f : Formula) : Prop :=
  ∀ (source : String) (stack : List Frame), stopsAt category stack = true →
    ∃ state, advance source (.operand stack) tokens = .ok state ∧ Holds category state f stack

theorem readAs_product {first second : List Token} {token : Token} {op : Operator} {f g : Formula}
    (left : ReadAs .term first f) (symbol : token.symbol = .operator op)
    (hop : op = .times ∨ op = .over) (right : ReadAs .unary second g) :
    ReadAs .term (first ++ token :: second) (join op f g) := by
  intro source stack stops
  obtain ⟨middle, hmiddle, last, below, hlast, hclose⟩ := left source stack stops
  have hterm : closeTerm last below = (f, stack) :=
    hclose.trans (closeTerm_of_stopsAt f stops)
  have hstep : step source middle token = .ok (.operand (.factor op f :: stack)) := by
    rw [step_of_operand? hlast (by simp [symbol])]
    rcases hop with rfl | rfl <;> simp [stepComplete, symbol, hterm]
  obtain ⟨next, hnext, holds⟩ := right source (.factor op f :: stack) rfl
  -- completing `g` behind the operator is completing the product on what is below
  exact ⟨next, by rw [advance_append hmiddle, advance_cons hstep, hnext], holds⟩

theorem readAs_sum {first second : List Token} {token : Token} {op : Operator} {f g : Formula}
    (left : ReadAs .sum first f) (symbol : token.symbol = .operator op)
    (hop : op = .plus ∨ op = .minus) (right : ReadAs .term second g) :
    ReadAs .sum (first ++ token :: second) (join op f g) := by
  intro source stack stops
  obtain ⟨middle, hmiddle, last, below, hlast, hclose⟩ := left source stack stops
  have hsum : closeSum last below = (f, stack) := hclose.trans (closeSum_self f stops)
  have hstep : step source middle token = .ok (.operand (.summand op f :: stack)) := by
    rw [step_of_operand? hlast (by simp [symbol])]
    rcases hop with rfl | rfl <;> simp [stepComplete, symbol, hsum]
  obtain ⟨next, hnext, last', below', hlast', hclose'⟩ := right source (.summand op f :: stack) rfl
  refine ⟨next, ?_, last', below', hlast', ?_⟩
  · rw [advance_append hmiddle, advance_cons hstep, hnext]
  have hterm : closeTerm last' below' = (g, .summand op f :: stack) :=
    hclose'.trans (closeTerm_of_stopsAt g rfl)
  rw [closeTo, closeSum_of_summand hterm, closeSum_self _ stops]

/-- A term alone is a sum, also for the reader. -/
theorem readAs_ofTerm {tokens : List Token} {f : Formula} (h : ReadAs .term tokens f) :
    ReadAs .sum tokens f := by
  intro source stack stops
  have below := stopsAt_term_of_sum stops
  obtain ⟨state, hstate, last, rest, hlast, hclose⟩ := h source stack below
  have hterm : closeTerm last rest = (f, stack) := hclose.trans (closeTerm_of_stopsAt f below)
  exact ⟨state, hstate, last, rest, hlast,
    (closeSum_of_stopsAt hterm stops).trans (closeSum_self f stops).symm⟩

/-- Inside parentheses a sum is read up to its completion. -/
theorem ReadAs.closes {tokens : List Token} {f : Formula} (h : ReadAs .sum tokens f)
    (source : String) (stack : List Frame) (stops : stopsAt .sum stack = true) :
    ∃ state last rest, advance source (.operand stack) tokens = .ok state ∧
      state.operand? = some (last, rest) ∧ closeSum last rest = (f, stack) := by
  obtain ⟨state, hstate, last, rest, hlast, hclose⟩ := h source stack stops
  exact ⟨state, last, rest, hstate, hlast, hclose.trans (closeSum_self f stops)⟩

/-- A group is read as what stands in it. -/
theorem readAs_group {opening closing : Token} {tokens : List Token} {f : Formula}
    (opens : opening.symbol = .opening) (inner : ReadAs .sum tokens f)
    (closes : closing.symbol = .closing) :
    ReadAs .primary (opening :: (tokens ++ [closing])) f := by
  intro source stack _
  have hopen : step source (.operand stack) opening =
      .ok (.operand (.group opening.span :: stack)) := by
    simp [step, stepOperand, opens]
  obtain ⟨state, last, rest, hstate, hlast, hclose⟩ :=
    inner.closes source (.group opening.span :: stack) rfl
  have hstep : step source state closing = .ok (.complete f stack) := by
    rw [step_of_operand? hlast (by simp [closes])]
    simp [stepComplete, closes, hclose]
  refine ⟨.complete f stack, ?_, f, stack, rfl, rfl⟩
  rw [advance_cons hopen, advance_append hstate, advance_cons hstep]
  rfl

/-- A minus sign in front of an operand multiplies it by minus one. -/
theorem readAs_negation {minus : Token} {tokens : List Token} {f : Formula}
    (symbol : minus.symbol = .operator .minus) (operand : ReadAs .unary tokens f) :
    ReadAs .unary (minus :: tokens) (negate minus.span f) := by
  intro source stack _
  have hstep : step source (.operand stack) minus =
      .ok (.operand (.negation minus.span :: stack)) := by
    simp [step, stepOperand, symbol]
  obtain ⟨state, hstate, holds⟩ := operand source (.negation minus.span :: stack) rfl
  -- completing `f` behind the minus sign is completing its negation on what is below
  exact ⟨state, by rw [advance_cons hstep, hstate], holds⟩

/-! ### Calls -/

/-- The arguments of a call up to the closing parenthesis, of which there is at least one. -/
theorem advance_arguments (arg : List Token × Formula) (args : List (List Token × Formula))
    (each : ∀ arg' ∈ arg :: args, ReadAs .sum arg'.1 arg'.2) (source name : String)
    (place opening : Span) (before : List Formula) {inside : List Token} {closing : Token}
    (stack : List Frame) (separated : Separated ((arg :: args).map Prod.fst) inside)
    (closes : closing.symbol = .closing) :
    advance source (.operand (.arguments name place opening before :: stack))
        (inside ++ [closing]) =
      .ok (.complete
        (callOf name place closing.span (before.reverse ++ (arg :: args).map Prod.snd)) stack) := by
  induction args generalizing arg before inside with
  | nil =>
    cases separated
    obtain ⟨state, last, rest, hstate, hlast, hclose⟩ := (each arg (by simp)).closes source
      (.arguments name place opening before :: stack) rfl
    have hstep : step source state closing =
        .ok (.complete (callOf name place closing.span (before.reverse ++ [arg.2])) stack) := by
      rw [step_of_operand? hlast (by simp [closes])]
      simp [stepComplete, closes, hclose]
    rw [advance_append hstate, advance_cons hstep]
    rfl
  | cons next args ih =>
    cases separated with
    | @more _ _ _ tokens comma symbol later =>
      obtain ⟨state, last, below, hstate, hlast, hclose⟩ := (each arg (by simp)).closes source
        (.arguments name place opening before :: stack) rfl
      have hstep : step source state comma =
          .ok (.operand (.arguments name place opening (arg.2 :: before) :: stack)) := by
        rw [step_of_operand? hlast (by simp [symbol])]
        simp [stepComplete, symbol, hclose]
      have others := ih next (fun arg' member => each arg' (by simp [member])) (arg.2 :: before)
        later
      rw [List.append_assoc, List.cons_append, advance_append hstate, advance_cons hstep, others]
      simp

/-- Where arguments may come and the closing parenthesis does not, the first one begins. -/
theorem advance_called {source name : String} {place opening : Span} {stack : List Frame}
    {token : Token} {rest : List Token} (hclosing : token.symbol ≠ .closing) :
    advance source (.called name place opening stack) (token :: rest) =
      advance source (.operand (.arguments name place opening [] :: stack)) (token :: rest) := by
  have same : step source (.called name place opening stack) token =
      step source (.operand (.arguments name place opening [] :: stack)) token := by
    simp only [step]
  simp only [advance, List.foldlM_cons, same]

/-- Arguments in parentheses begin like an operand. -/
theorem begins_arguments {arg : List Token × Formula} {args : List (List Token × Formula)}
    {inside : List Token} (spelled : Spells .sum arg.1 arg.2)
    (separated : Separated ((arg :: args).map Prod.fst) inside) :
    ∃ token rest, inside = token :: rest ∧ token.symbol ≠ .closing := by
  obtain ⟨token, more, hfirst, begins⟩ := spelled.begins
  have notClosing : token.symbol ≠ .closing := by
    intro closes
    rw [closes] at begins
    cases begins
  cases args with
  | nil =>
    cases separated
    exact ⟨token, more, hfirst, notClosing⟩
  | cons next args =>
    cases separated with
    | more symbol later => exact ⟨token, _, by rw [hfirst]; rfl, notClosing⟩

/-- A call is read with its arguments in order. -/
theorem readAs_call {word opening closing : Token} {name : String} {inside : List Token}
    {args : List (List Token × Formula)} (named : word.symbol = .name name)
    (opens : opening.symbol = .opening) (separated : Separated (args.map Prod.fst) inside)
    (spelled : ∀ arg ∈ args, Spells .sum arg.1 arg.2)
    (each : ∀ arg ∈ args, ReadAs .sum arg.1 arg.2) (closes : closing.symbol = .closing) :
    ReadAs .primary (word :: opening :: (inside ++ [closing]))
      (callOf name word.span closing.span (args.map Prod.snd)) := by
  intro source stack _
  have hnamed : step source (.operand stack) word = .ok (.named name word.span stack) := by
    simp [step, stepOperand, named]
  have hcalled : step source (.named name word.span stack) opening =
      .ok (.called name word.span opening.span stack) := by
    simp [step, opens]
  refine ⟨.complete (callOf name word.span closing.span (args.map Prod.snd)) stack, ?_, _, stack,
    rfl, rfl⟩
  rw [advance_cons hnamed, advance_cons hcalled]
  cases args with
  | nil =>
    cases separated
    have hstep : step source (.called name word.span opening.span stack) closing =
        .ok (.complete (callOf name word.span closing.span []) stack) := by
      simp [step, closes]
    exact advance_cons hstep
  | cons arg args =>
    obtain ⟨token, rest, rfl, notClosing⟩ := begins_arguments (spelled arg (by simp)) separated
    rw [List.cons_append, advance_called notClosing, ← List.cons_append]
    exact advance_arguments arg args each source name word.span opening.span [] stack separated
      closes

/-! ### Reading whole texts -/

/-- Tokens are read as the formula that they stand for. -/
theorem Spells.readAs {category : Category} {tokens : List Token} {f : Formula}
    (h : Spells category tokens f) : ReadAs category tokens f := by
  induction h with
  | @number token x symbol =>
    intro source stack _
    have hstep : step source (.operand stack) token =
        .ok (.complete (.number x (some token.span)) stack) := by
      simp [step, stepOperand, symbol]
    exact ⟨_, advance_cons hstep, _, _, rfl, rfl⟩
  | @parameter token name symbol =>
    intro source stack _
    have hstep : step source (.operand stack) token = .ok (.named name token.span stack) := by
      simp [step, stepOperand, symbol]
    exact ⟨_, advance_cons hstep, _, _, rfl, rfl⟩
  | call named opens separated each closes ih =>
    exact readAs_call named opens separated each ih closes
  | group opens inner closes ih => exact readAs_group opens ih closes
  | negation symbol operand ih => exact readAs_negation symbol ih
  | product left symbol hop right ihl ihr => exact readAs_product ihl symbol hop ihr
  | sum left symbol hop right ihl ihr => exact readAs_sum ihl symbol hop ihr
  | ofPrimary h ih => exact ih
  | ofUnary h ih => exact fun source stack _ => ih source stack rfl
  | ofTerm h ih => exact readAs_ofTerm ih

/-- A word never marks the end. -/
theorem word?_ne_finish {cs word : List Char} {symbol : Symbol}
    (h : word? cs = some (symbol, word)) : symbol ≠ .finish := by
  cases cs with
  | nil => cases h
  | cons c rest =>
    simp only [word?] at h
    split at h
    · split at h
      · cases h
      · cases h
        simp
    · split at h
      · cases h
        simp
      · obtain ⟨found, hfound, hs⟩ := Option.map_eq_some_iff.1 h
        cases hs
        unfold symbolOf? at hfound
        split at hfound <;> cases hfound <;> simp

/-- Scanning that does not fail gives words and then the end. -/
theorem scanFrom_finish {offset : Nat} {cs : List Char}
    (h : (scanFrom offset cs).2 = none) :
    ∃ before length, (scanFrom offset cs).1 = before ++ [Token.finishAt length] ∧
      ∀ token ∈ before, token.symbol ≠ .finish := by
  fun_induction scanFrom offset cs with
  | case1 offset cs blanks start hblank => exact ⟨[], start, rfl, by simp⟩
  | case2 => cases h
  | case3 offset cs blanks start c rest hrest symbol word hword stop tokens failure heq ih =>
    rw [heq] at ih
    obtain ⟨before, length, rfl, hbefore⟩ := ih h
    refine ⟨_ :: before, length, rfl, fun token member => ?_⟩
    rcases List.mem_cons.1 member with rfl | member
    · exact word?_ne_finish hword
    · exact hbefore token member

theorem tokenize_eq_ok_iff {source : String} {tokens : List Token} :
    tokenize source = .ok tokens ↔ scan source = (tokens, none) := by
  rw [tokenize]
  split
  next heq => simp [heq]
  next heq => simp [heq]

/-- The tokens of a text are words and then the end. -/
theorem tokenize_finish {source : String} {tokens : List Token} (h : tokenize source = .ok tokens) :
    ∃ before length, tokens = before ++ [Token.finishAt length] ∧
      ∀ token ∈ before, token.symbol ≠ .finish := by
  rw [tokenize_eq_ok_iff, scan, Prod.mk.injEq, Option.map_eq_none_iff] at h
  exact h.1 ▸ scanFrom_finish h.2

theorem readTokens_append_finish {source : String} {before : List Token} {last : Token}
    (hnonempty : before ≠ []) (hbefore : ∀ token ∈ before, token.symbol ≠ .finish)
    (hlast : last.symbol = .finish) :
    readTokens source (before ++ [last]) =
      (advance source (.operand []) before).bind fun next => finish source next last := by
  rw [← readFrom_append_finish hbefore hlast]
  cases before with
  | nil => contradiction
  | cons token rest =>
    have htoken := hbefore token (by simp)
    rw [List.cons_append, readTokens]
    split
    · contradiction
    · rfl

/-- Tokens of a whole text are read as the sum that they stand for. -/
theorem readTokens_of_spells {source : String} {before : List Token} {last : Token} {f : Formula}
    (spelled : Spells .sum before f) (hbefore : ∀ token ∈ before, token.symbol ≠ .finish)
    (hlast : last.symbol = .finish) : readTokens source (before ++ [last]) = .ok f := by
  have hnonempty : before ≠ [] := by
    obtain ⟨token, rest, rfl, -⟩ := spelled.begins
    exact List.cons_ne_nil _ _
  obtain ⟨state, operand, rest, hstate, hoperand, hclose⟩ := spelled.readAs.closes source [] rfl
  rw [readTokens_append_finish hnonempty hbefore hlast, hstate, Except.bind,
    finish_of_operand? hoperand, hclose]

/-- What the grammar derives is read. -/
theorem readTokens_of_derives {source : String} {before : List Token} {last : Token}
    {meaning : Formula} (derives : Derives .sum (before.map Token.symbol) meaning)
    (hbefore : ∀ token ∈ before, token.symbol ≠ .finish) (hlast : last.symbol = .finish) :
    ∃ f, readTokens source (before ++ [last]) = .ok f ∧ f.bare = meaning := by
  obtain ⟨f, spelled, same⟩ := derives.exists_spells before rfl
  exact ⟨f, readTokens_of_spells spelled hbefore hlast, same⟩

/-- What is read, the grammar derives. -/
theorem derives_of_readTokens {source : String} {before : List Token} {last : Token} {f : Formula}
    (success : readTokens source (before ++ [last]) = .ok f)
    (hbefore : ∀ token ∈ before, token.symbol ≠ .finish) (hlast : last.symbol = .finish) :
    Derives .sum (before.map Token.symbol) f.bare := by
  by_cases hnonempty : before = []
  · subst hnonempty
    simp [readTokens, hlast] at success
  · rw [readTokens_append_finish hnonempty hbefore hlast] at success
    cases hadvance : advance source (.operand []) before with
    | error e => simp [hadvance, Except.bind] at success
    | ok next =>
      rw [hadvance] at success
      have initial : (State.operand []).After [] := .unary (.term .start)
      simpa using derives_finish (advance_after initial hadvance) success

/-- What is read, its tokens stand for. -/
theorem spells_of_readTokens {source : String} {before : List Token} {last : Token} {f : Formula}
    (success : readTokens source (before ++ [last]) = .ok f)
    (hbefore : ∀ token ∈ before, token.symbol ≠ .finish) (hlast : last.symbol = .finish) :
    Spells .sum before f := by
  have derives := derives_of_readTokens success hbefore hlast
  obtain ⟨g, spelled, -⟩ := derives.exists_spells before rfl
  cases success.symm.trans (readTokens_of_spells spelled hbefore hlast)
  exact spelled

/-- The words of a text that is read stand for the formula. -/
theorem exists_spells_of_read {source : String} {f : Formula} (success : read source = .ok f) :
    ∃ words length, tokenize source = .ok (words ++ [Token.finishAt length]) ∧
      (∀ token ∈ words, token.symbol ≠ .finish) ∧ Spells .sum words f := by
  rw [read] at success
  split at success
  · cases success
  obtain ⟨tokens, tokenized, success⟩ := bind_eq_ok_iff.1 success
  obtain ⟨words, length, rfl, hwords⟩ := tokenize_finish tokenized
  exact ⟨words, length, tokenized, hwords, spells_of_readTokens success hwords rfl⟩

/-- The tokens of a text are words and then the end. They are read, whatever text the messages
quote, exactly if the grammar derives a sum from the words; the formula without its places is then
the only one that they denote. -/
theorem readTokens_iff_derives (text source : String) (tokens : List Token)
    (h : tokenize source = .ok tokens) :
    ∃ before length, tokens = before ++ [Token.finishAt length] ∧
      (∀ token ∈ before, token.symbol ≠ .finish) ∧
      ((∃ f, readTokens text tokens = .ok f) ↔
        ∃ meaning, Derives .sum (before.map Token.symbol) meaning) ∧
      ∀ f, readTokens text tokens = .ok f →
        ∀ meaning, Derives .sum (before.map Token.symbol) meaning ↔ meaning = f.bare := by
  obtain ⟨before, length, rfl, hbefore⟩ := tokenize_finish h
  refine ⟨before, length, rfl, hbefore, ⟨?_, ?_⟩, fun f success meaning => ⟨fun derives => ?_, ?_⟩⟩
  · rintro ⟨f, success⟩
    exact ⟨f.bare, derives_of_readTokens success hbefore rfl⟩
  · rintro ⟨meaning, derives⟩
    obtain ⟨f, success, -⟩ :=
      readTokens_of_derives derives hbefore (rfl : (Token.finishAt length).symbol = .finish)
    exact ⟨f, success⟩
  · obtain ⟨g, read, rfl⟩ :=
      readTokens_of_derives derives hbefore (rfl : (Token.finishAt length).symbol = .finish)
    cases success.symm.trans read
    rfl
  · rintro rfl
    exact derives_of_readTokens success hbefore rfl

/-- A call behind a minus sign, an operator and a blank. -/
theorem readTokens_iff_derives_call :
    ∃ tokens, tokenize "-a * Max(b, 2)" = .ok tokens ∧
    ∃ before length, tokens = before ++ [Token.finishAt length] ∧
      (∀ token ∈ before, token.symbol ≠ .finish) ∧
      ((∃ f, readTokens "-a * Max(b, 2)" tokens = .ok f) ↔
        ∃ meaning, Derives .sum (before.map Token.symbol) meaning) ∧
      ∀ f, readTokens "-a * Max(b, 2)" tokens = .ok f →
        ∀ meaning, Derives .sum (before.map Token.symbol) meaning ↔ meaning = f.bare := by
  have scanned : (scan "-a * Max(b, 2)").2 = none := by decide +kernel
  have tokenized := tokenize_eq_ok_iff.2 (Prod.ext_iff.2 ⟨rfl, scanned⟩)
  exact ⟨_, tokenized, readTokens_iff_derives _ _ _ tokenized⟩

end Joinery.Formula
