import Joinery.Proofs.Formula.Contexts
import Joinery.Proofs.Formula.Wording

/-!
# Formulas in place of names

A name in a text may be replaced by another formula in parentheses: a group stands where a name
stands, and no word runs into a parenthesis. The longer text is read as the formula in which the
name is replaced, and where the replacement has a value, it evaluates as the first formula does with
that value for the name.
-/
namespace Joinery

/-! ### Results but for their places -/

/-- A failure without its place in a formula. -/
def Failure.placeless : Failure → Failure
  | .formula e => .formula { e with span := none }
  | failure => failure

namespace Outcome

variable {α β : Type}

/-- The result of an outcome: a value, or why there is none, but not where. -/
def verdict (x : Outcome α) : Except Failure α := x.result.mapError Failure.placeless

theorem verdict_bind (x : Outcome α) (f : α → Outcome β) :
    (x >>= f).verdict = x.verdict.bind fun a => (f a).verdict := by
  obtain ⟨result, notices⟩ := x
  cases result <;> rfl

theorem verdict_of_result {x : Outcome α} {a : α} (h : x.result = .ok a) : x.verdict = .ok a := by
  rw [verdict, h]
  rfl

end Outcome

namespace Formula

variable (functions : Functions) (context : Context)

theorem verdict_apply (op : Operator) (x y : Binary64) (span span' : Option Span) :
    (liftM (op.apply x y span) : Outcome Binary64).verdict =
      (liftM (op.apply x y span') : Outcome Binary64).verdict := by
  match op with
  | .over =>
    unfold Operator.apply
    dsimp only
    split <;> rfl
  | .plus | .minus | .times | .other _ => rfl

theorem verdict_placed (result : Except Failure Binary64) (span span' : Option Span) :
    (liftM (placed span result) : Outcome Binary64).verdict =
      (liftM (placed span' result) : Outcome Binary64).verdict := by
  have same : ∀ span, (placed span result).mapError Failure.placeless =
      result.mapError Failure.placeless := by
    intro span
    unfold placed
    split <;> rfl
  exact (same span).trans (same span').symm

mutual

/-- The places of a formula have no part in its value. -/
theorem verdict_bare : ∀ f : Formula,
    (evaluate functions context f.bare).verdict = (evaluate functions context f).verdict
  | .number x span => rfl
  | .parameter name span => by
    rw [bare, evaluate, evaluate]
    cases (context name).isNull <;> rfl
  | .binary op left right span => by
    rw [bare, evaluate, evaluate, Outcome.verdict_bind, Outcome.verdict_bind, verdict_bare left]
    refine congrArg _ (funext fun x => ?_)
    rw [Outcome.verdict_bind, Outcome.verdict_bind, verdict_bare right]
    exact congrArg _ (funext fun y => verdict_apply op x y _ _)
  | .call name args span => by
    rw [bare, evaluate, evaluate, bareAll_eq_map, List.length_map, ← bareAll_eq_map]
    split
    · rfl
    · split
      · rw [Outcome.verdict_bind, Outcome.verdict_bind, verdict_bareAll args]
        exact congrArg _ (funext fun xs => verdict_placed _ _ _)
      · rfl
  | .foreign label => rfl

theorem verdict_bareAll : ∀ args : List Formula,
    (evaluateAll functions context (bareAll args)).verdict =
      (evaluateAll functions context args).verdict
  | [] => rfl
  | arg :: rest => by
    rw [bareAll, evaluateAll, evaluateAll, Outcome.verdict_bind, Outcome.verdict_bind,
      verdict_bare arg]
    refine congrArg _ (funext fun x => ?_)
    rw [Outcome.verdict_bind, Outcome.verdict_bind, verdict_bareAll rest]

end

/-! ### A formula in place of a name -/

mutual

/-- A formula with another one in place of a name. -/
def substitute (name : String) (g : Formula) : Formula → Formula
  | .number x span => .number x span
  | .parameter other span => if other = name then g else .parameter other span
  | .binary op left right span =>
    .binary op (substitute name g left) (substitute name g right) span
  | .call function args span => .call function (substituteAll name g args) span
  | .foreign label => .foreign label

def substituteAll (name : String) (g : Formula) : List Formula → List Formula
  | [] => []
  | arg :: rest => substitute name g arg :: substituteAll name g rest

end

theorem substituteAll_eq_map (name : String) (g : Formula) (args : List Formula) :
    substituteAll name g args = args.map (substitute name g) := by
  induction args with
  | nil => rfl
  | cons arg rest ih => rw [substituteAll, ih, List.map_cons]

section

variable {name : String} {g : Formula} {v : Binary64}

mutual

/-- In place of a name, a formula that has a value counts as that value does for the name. -/
theorem verdict_substitute (value : (evaluate functions context g).verdict = .ok v) :
    ∀ f : Formula, (evaluate functions context (substitute name g f)).verdict =
      (evaluate functions (context.assign (· == name) (.float v)) f).verdict
  | .number x span => rfl
  | .parameter other span => by
    by_cases same : other = name
    · have given : context.assign (· == name) (.float v) other = .float v :=
        if_pos (beq_iff_eq.2 same)
      rw [substitute, if_pos same, value, evaluate, given]
      rfl
    · have given : context.assign (· == name) (.float v) other = context other :=
        if_neg (by simpa using same)
      rw [substitute, if_neg same, evaluate, evaluate, given]
  | .binary op left right span => by
    rw [substitute, evaluate, evaluate, Outcome.verdict_bind, Outcome.verdict_bind,
      verdict_substitute value left]
    refine congrArg _ (funext fun x => ?_)
    rw [Outcome.verdict_bind, Outcome.verdict_bind, verdict_substitute value right]
  | .call function args span => by
    rw [substitute, evaluate, evaluate, substituteAll_eq_map, List.length_map,
      ← substituteAll_eq_map]
    split
    · rfl
    · split
      · rw [Outcome.verdict_bind, Outcome.verdict_bind, verdict_substituteAll value args]
      · rfl
  | .foreign label => rfl

theorem verdict_substituteAll (value : (evaluate functions context g).verdict = .ok v) :
    ∀ args : List Formula, (evaluateAll functions context (substituteAll name g args)).verdict =
      (evaluateAll functions (context.assign (· == name) (.float v)) args).verdict
  | [] => rfl
  | arg :: rest => by
    rw [substituteAll, evaluateAll, evaluateAll, Outcome.verdict_bind, Outcome.verdict_bind,
      verdict_substitute value arg]
    refine congrArg _ (funext fun x => ?_)
    rw [Outcome.verdict_bind, Outcome.verdict_bind, verdict_substituteAll value rest]

end

end

/-! ### Symbols in place of a name -/

/-- Whether a symbol with another one behind it refers to a name: it is the name, and no call. -/
def refersTo (name : String) (symbol : Symbol) (next : Option Symbol) : Bool :=
  symbol = .name name && next ≠ some .opening

/-- Symbols with others in parentheses in place of a name. -/
def inlinedSymbols (name : String) (others : List Symbol) : List Symbol → List Symbol
  | [] => []
  | symbol :: rest =>
    (if refersTo name symbol rest.head? then .opening :: (others ++ [.closing]) else [symbol]) ++
      inlinedSymbols name others rest

variable {name : String} {others : List Symbol}

theorem inlinedSymbols_append {first second : List Symbol}
    (apart : second.head? ≠ some .opening) :
    inlinedSymbols name others (first ++ second) =
      inlinedSymbols name others first ++ inlinedSymbols name others second := by
  induction first with
  | nil => rfl
  | cons symbol rest ih =>
    have next : refersTo name symbol (rest ++ second).head? = refersTo name symbol rest.head? := by
      cases rest with
      | nil => simp [refersTo, apart]
      | cons => rfl
    rw [List.cons_append, inlinedSymbols, inlinedSymbols, next, ih, List.append_assoc]

/-- What is no name stays. -/
theorem inlinedSymbols_cons {symbol : Symbol} {rest : List Symbol}
    (stays : refersTo name symbol rest.head? = false) :
    inlinedSymbols name others (symbol :: rest) = symbol :: inlinedSymbols name others rest := by
  rw [inlinedSymbols, stays]
  rfl

theorem inlinedSymbols_name {symbol : Symbol} {rest : List Symbol}
    (refers : refersTo name symbol rest.head? = true) :
    inlinedSymbols name others (symbol :: rest) =
      .opening :: (others ++ .closing :: inlinedSymbols name others rest) := by
  rw [inlinedSymbols, refers]
  simp

theorem Separated.inlinedSymbols {parts : List (List Token)} {tokens : List Token}
    (h : Separated parts tokens) :
    inlinedSymbols name others (tokens.map Token.symbol) = [.comma].intercalate
      (parts.map fun part => Formula.inlinedSymbols name others (part.map Token.symbol)) := by
  induction h with
  | none => rfl
  | last tokens => simp
  | more symbol later ih =>
    rw [List.map_append, List.map_cons, symbol, inlinedSymbols_append (by simp),
      inlinedSymbols_cons rfl, ih]
    simp [List.intercalate_cons_cons]

/-- A group in place of a name: the grammar derives the formula in which the name is replaced. -/
theorem Spells.derives_inlined {category : Category} {tokens : List Token} {f g : Formula}
    (h : Spells category tokens f) (other : Derives .sum others g) :
    Derives category (inlinedSymbols name others (tokens.map Token.symbol))
      (substitute name g f.bare) := by
  induction h with
  | @number token x symbol =>
    rw [List.map_singleton, symbol, inlinedSymbols_cons rfl]
    exact .number x
  | @parameter token word symbol =>
    rw [List.map_singleton, symbol, inlinedSymbols]
    by_cases same : word = name
    · simpa [same, refersTo, bare, substitute, inlinedSymbols] using Derives.group other
    · simpa [same, refersTo, bare, substitute, inlinedSymbols] using Derives.parameter word
  | @call word opening closing called inside args named opens separated each closes ih =>
    have call := Derives.call called (args.map fun arg =>
      (inlinedSymbols name others (arg.1.map Token.symbol), substitute name g arg.2.bare))
      (List.forall_mem_map.2 ih)
    have noName : refersTo name word.symbol (some opening.symbol) = false := by
      simp [refersTo, opens]
    rw [List.map_cons, inlinedSymbols_cons noName, List.map_cons, opens, inlinedSymbols_cons rfl,
      List.map_append, List.map_singleton, closes, inlinedSymbols_append (by simp),
      inlinedSymbols_cons rfl, separated.inlinedSymbols, named]
    simpa [callOf, bare, substitute, bareAll_eq_map, substituteAll_eq_map, inlinedSymbols,
      Function.comp_def] using call
  | @group opening closing tokens f opens inner closes ih =>
    rw [List.map_cons, opens, inlinedSymbols_cons rfl, List.map_append, List.map_singleton, closes,
      inlinedSymbols_append (by simp), inlinedSymbols_cons rfl]
    exact .group ih
  | negation symbol operand ih =>
    rw [List.map_cons, symbol, inlinedSymbols_cons rfl]
    exact .negation ih
  | product left symbol hop right ihl ihr =>
    rw [List.map_append, List.map_cons, symbol, inlinedSymbols_append (by simp),
      inlinedSymbols_cons rfl]
    exact ihl.extendTerm hop ihr
  | sum left symbol hop right ihl ihr =>
    rw [List.map_append, List.map_cons, symbol, inlinedSymbols_append (by simp),
      inlinedSymbols_cons rfl]
    exact ihl.extendSum hop ihr
  | ofPrimary h ih => exact .primary ih
  | ofUnary h ih => exact ih.toTerm
  | ofTerm h ih => exact ih.toSum

/-! ### A text in place of a name -/

/-- What the tokens and the characters from an offset on become: each token that refers to the name
is replaced by a text in parentheses, all else stays. -/
def inlinedFrom (name : String) (text : List Char) (offset : Nat) (cs : List Char) :
    List Token → List Char
  | [] => cs
  | token :: rest =>
    let gap := cs.take (token.span.start - offset)
    let word :=
      if refersTo name token.symbol (rest.head?.map Token.symbol) then '(' :: (text ++ [')'])
      else token.lexeme.toList
    gap ++ (word ++
      inlinedFrom name text token.span.stop (cs.drop (token.span.stop - offset)) rest)

/-- A text with another one, in parentheses, in place of each reference to a name. -/
def inlined (name text source : String) : String :=
  String.ofList (inlinedFrom name text.toList 0 source.toList (scan source).1)

section

variable {text : List Char} {offset : Nat}

theorem inlinedFrom_word {gap word rest : List Char} {symbol : Symbol} {tokens : List Token} :
    inlinedFrom name text offset (gap ++ (word ++ rest))
        (Token.ofWord (offset + gap.length) symbol word :: tokens) =
      gap ++ ((if refersTo name symbol (tokens.head?.map Token.symbol) then '(' :: (text ++ [')'])
        else word) ++ inlinedFrom name text (offset + gap.length + word.length) rest tokens) := by
  have start : offset + gap.length - offset = gap.length := by omega
  have stop : offset + gap.length + word.length - offset = (gap ++ word).length := by
    rw [List.length_append]
    omega
  have behind : (gap ++ (word ++ rest)).drop (offset + gap.length + word.length - offset) =
      rest := by
    rw [stop, ← List.append_assoc, List.drop_left]
  simp only [inlinedFrom, Token.ofWord, start, behind, List.take_left, String.toList_ofList]

theorem inlinedFrom_finish (gap : List Char) :
    inlinedFrom name text offset gap [Token.finishAt (offset + gap.length)] = gap := by
  have place : offset + gap.length - offset = gap.length := by omega
  simp [inlinedFrom, Token.finishAt, place, refersTo]

/-- A text goes on as it did, or with a parenthesis. -/
theorem head?_inlinedFrom {cs : List Char} {tokens : List Token} {failure : Option (Char × Nat)}
    (h : Munches offset cs tokens failure) {c : Char}
    (next : (inlinedFrom name text offset cs tokens).head? = some c) :
    endsWord c = true ∨ cs.head? = some c := by
  cases h with
  | finish offset blank =>
    rw [inlinedFrom_finish] at next
    exact .inr next
  | failure offset blank visible none => exact .inr next
  | @word _ gap word rest symbol tokens _ blank longest later =>
    rw [inlinedFrom_word] at next
    cases gap with
    | cons d gap => exact .inr next
    | nil =>
      split at next
      · cases next
        exact .inl rfl
      · obtain ⟨d, tail, rfl⟩ := List.exists_cons_of_ne_nil longest.isWord.ne_nil
        exact .inr next

/-- With a text in place of a name, a text has the symbols of the other in their place. -/
theorem Munches.worded_inlined {cs : List Char} {tokens : List Token}
    {failure : Option (Char × Nat)} (h : Munches offset cs tokens failure)
    (success : failure = none) (other : Worded text others) :
    ∃ words, tokens = words ++ [Token.finishAt (offset + cs.length)] ∧
      Worded (inlinedFrom name text offset cs tokens)
        (inlinedSymbols name others (words.map Token.symbol)) := by
  induction h with
  | finish offset blank =>
    rw [inlinedFrom_finish]
    exact ⟨[], rfl, .finish blank⟩
  | failure => cases success
  | @word offset gap word rest symbol tokens failure blank longest later ih =>
    obtain ⟨words, same, worded⟩ := ih success
    refine ⟨Token.ofWord (offset + gap.length) symbol word :: words, ?_, ?_⟩
    · rw [same]
      simp [Nat.add_assoc]
    · have next : refersTo name symbol (tokens.head?.map Token.symbol) =
          refersTo name symbol (words.map Token.symbol).head? := by
        rw [same]
        cases words with
        | nil => simp [refersTo, Token.finishAt]
        | cons => rfl
      have written : (Token.ofWord (offset + gap.length) symbol word :: words).map Token.symbol =
          symbol :: words.map Token.symbol := rfl
      rw [inlinedFrom_word, next, written]
      cases refers : refersTo name symbol (words.map Token.symbol).head? with
      | true =>
        have behind := other.append worded.closing fun c found => by
          cases found
          rfl
        rw [inlinedSymbols_name refers]
        simpa using behind.opening.behind_blanks blank
      | false =>
        rw [inlinedSymbols_cons refers]
        exact .word blank (longest.of_behind fun c => head?_inlinedFrom later) worded

end

/-- A text is read, and another one is read as a formula that has a value. With the other text, in
parentheses, in place of each reference to a name, the first one is read again; it evaluates as it
did with that value for the name, to the same number or to a failure that differs in its place at
most. -/
theorem read_inlined (functions : Functions) (context : Context) (name : String)
    {text source : String} {f g : Formula} {v : Binary64} (reads : read source = .ok f)
    (other : read text = .ok g) (value : (evaluate functions context g).result = .ok v) :
    ∃ f', read (inlined name text source) = .ok f' ∧
      (evaluate functions context f').verdict =
        (evaluate functions (context.assign (· == name) (.float v)) f).verdict := by
  obtain ⟨words, length, tokenized, -, spelled⟩ := exists_spells_of_read reads
  obtain ⟨others, worded, derives⟩ := read_iff_worded.1 ⟨g, other, rfl⟩
  have munches := tokenize_eq_ok_iff_munches.1 tokenized
  obtain ⟨words', same, longer⟩ : ∃ words', _ = words' ++ [_] ∧
      Worded (inlinedFrom name text.toList 0 source.toList _) _ :=
    munches.worded_inlined rfl worded
  obtain ⟨rfl, -⟩ := List.append_inj' same rfl
  have written : (inlined name text source).toList =
      inlinedFrom name text.toList 0 source.toList (words ++ [Token.finishAt length]) := by
    rw [inlined, tokenize_eq_ok_iff.1 tokenized, String.toList_ofList]
  obtain ⟨f', success, replaced⟩ :=
    read_iff_worded.2 ⟨_, written ▸ longer, spelled.derives_inlined derives⟩
  have value' : (evaluate functions context g.bare).verdict = .ok v :=
    (verdict_bare functions context g).trans (Outcome.verdict_of_result value)
  refine ⟨f', success, ?_⟩
  calc (evaluate functions context f').verdict
      = (evaluate functions context (substitute name g.bare f.bare)).verdict := by
        rw [← replaced, verdict_bare]
    _ = (evaluate functions (context.assign (· == name) (.float v)) f.bare).verdict :=
        verdict_substitute functions context value' f.bare
    _ = (evaluate functions (context.assign (· == name) (.float v)) f).verdict :=
        verdict_bare functions _ f

/-- A name that is called and referred to, in front of a minus sign as well. -/
theorem read_inlined_max :
    let context : Context := fun name => if name = "a" then .int 1 else .null
    inlined "max" "a + 1" "max(max, 2) * -max" = "max((a + 1), 2) * -(a + 1)" ∧
      ∃ f g f', read "max(max, 2) * -max" = .ok f ∧ read "a + 1" = .ok g ∧
        (evaluate .builtin context g).result = .ok 2 ∧
        read (inlined "max" "a + 1" "max(max, 2) * -max") = .ok f' ∧
        (evaluate .builtin context f').verdict =
          (evaluate .builtin (context.assign (· == "max") (.float 2)) f).verdict := by
  intro context
  obtain ⟨f, reads, -⟩ := exists_of_any_toOption (x := read "max(max, 2) * -max")
    (P := fun _ => True) (by decide +kernel)
  obtain ⟨g, other, value⟩ := exists_of_any_toOption (x := read "a + 1")
    (P := fun g => (evaluate .builtin context g).result = .ok 2) (by decide +kernel)
  obtain ⟨f', again, same⟩ := read_inlined .builtin context "max" reads other value
  exact ⟨by decide +kernel, f, g, f', reads, other, value, again, same⟩

end Formula

end Joinery
