import Joinery.Proofs.Formula.Failing
import Joinery.Proofs.Number.Doubles
import Mathlib.Data.List.Infix

/-!
# Tokens at other places

Reading goes by the symbols of tokens. The same symbols at other places, and in another text, read
as the same formula but for its places, or fail at the same one with an error of the same code.
-/
namespace Joinery.Formula

variable {move : Token → Token}

/-! ### What stands before a token -/

theorem map_symbol_map (keeps : ∀ t, (move t).symbol = t.symbol) (tokens : List Token) :
    (tokens.map move).map Token.symbol = tokens.map Token.symbol := by
  simp [keeps]

theorem wantsOperand_map (keeps : ∀ t, (move t).symbol = t.symbol) (before : List Token) :
    wantsOperand (before.map move) = wantsOperand before := by
  unfold wantsOperand
  rw [List.getLast?_map]
  cases before.getLast? with
  | none => rfl
  | some t => exact congrArg Symbol.wantsOperand (keeps t)

theorem length_openBehind {opened opened' : List Span} {t t' : Token}
    (same : t'.symbol = t.symbol) (lengths : opened'.length = opened.length) :
    (openBehind opened' t').length = (openBehind opened t).length := by
  unfold openBehind
  rw [same]
  split <;> simp [lengths]

theorem length_openings_map (keeps : ∀ t, (move t).symbol = t.symbol) (before : List Token) :
    (openings (before.map move)).length = (openings before).length := by
  induction before using List.reverseRec with
  | nil => rfl
  | append_singleton before t ih =>
    rw [List.map_append, List.map_singleton, openings_append, openings_append]
    exact length_openBehind (keeps t) ih

/-- The code of the error at a token goes by symbols. -/
theorem code_errorAt_map (keeps : ∀ t, (move t).symbol = t.symbol) (source source' : String)
    (before : List Token) (token : Token) :
    (errorAt source' (before.map move) (move token)).fault.code =
      (errorAt source before token).fault.code := by
  simp only [code_errorAt, wantsOperand_map keeps, keeps,
    ← List.length_eq_zero_iff, length_openings_map keeps, List.length_map]

theorem isReading_errorAt (source : String) (before : List Token) (token : Token) :
    (errorAt source before token).fault.isReading = true := by
  unfold errorAt missingOperand stranded
  split
  · rfl
  · split
    · split <;> rfl
    · split
      · rfl
      · split <;> rfl

/-! ### Where reading fails -/

theorem Viable.of_append {symbols more : List Symbol} (h : Viable (symbols ++ more)) :
    Viable symbols := by
  obtain ⟨rest, f, derives⟩ := h
  exact ⟨more ++ rest, f, by rwa [← List.append_assoc]⟩

/-- Reading fails at the token behind some others: a formula begins with these, but with the token
behind them none does, unless it is the last. -/
structure FailsAt (tokens before : List Token) (token : Token) : Prop where
  front : before ++ [token] <+: tokens
  viable : Viable (before.map Token.symbol)
  stops : before ++ [token] = tokens ∨ ¬ Viable ((before ++ [token]).map Token.symbol)

theorem exists_failsAt {source : String} {words : List Token} {last : Token} {e : Error}
    (hwords : ∀ token ∈ words, token.symbol ≠ .finish) (hlast : last.symbol = .finish)
    (failed : readTokens source (words ++ [last]) = .error e) :
    ∃ before token, FailsAt (words ++ [last]) before token ∧ e = errorAt source before token := by
  obtain ⟨before, token, after, state, split, hstate, he, hstep⟩ :=
    readTokens_error hwords hlast failed
  have behind := State.Behind.start.advance hstate
  rw [List.nil_append] at behind
  refine ⟨before, token, ⟨⟨after, by rw [split]; simp⟩, behind.after.viable, ?_⟩, he⟩
  by_cases hfinish : token.symbol = .finish
  -- A finish is the last token, so nothing is left behind it.
  · left
    cases after using List.reverseRec with
    | nil => exact split.symm
    | append_singleton rest final =>
      have inside : words = before ++ token :: rest := by
        rw [← List.cons_append, ← List.append_assoc] at split
        exact (List.append_inj' split rfl).1
      exact absurd hfinish (hwords token (by simp [inside]))
  · exact .inr (not_viable_of_step hstate (hstep hfinish))

namespace FailsAt

variable {tokens tokens' before before' : List Token} {token token' : Token}

/-- With the same symbols reading does not fail further on. -/
theorem length_le (same : tokens'.map Token.symbol = tokens.map Token.symbol)
    (h : FailsAt tokens before token) (h' : FailsAt tokens' before' token') :
    before'.length ≤ before.length := by
  have lengths : tokens'.length = tokens.length := by simpa using congrArg List.length same
  have inside := h'.front.length_le
  rw [List.length_append, List.length_singleton] at inside
  refine Nat.le_of_not_lt fun further => ?_
  -- What is in front of the second failure is viable, and it would contain the first one.
  obtain whole | refused := h.stops
  · have last := congrArg List.length whole
    rw [List.length_append, List.length_singleton] at last
    omega
  · have front : (before ++ [token]).map Token.symbol <+: tokens.map Token.symbol :=
      h.front.map Token.symbol
    have front' : before'.map Token.symbol <+: tokens.map Token.symbol :=
      same ▸ ((List.prefix_append before' [token']).trans h'.front).map Token.symbol
    obtain ⟨more, hmore⟩ := List.prefix_of_prefix_length_le front front' (by simp; omega)
    exact refused (Viable.of_append (hmore ▸ h'.viable))

/-- Tokens at other places fail at the same one. -/
theorem eq_map (keeps : ∀ t, (move t).symbol = t.symbol) (h : FailsAt tokens before token)
    (h' : FailsAt (tokens.map move) before' token') :
    before' = before.map move ∧ token' = move token := by
  have same := map_symbol_map keeps tokens
  have lengths := Nat.le_antisymm (h.length_le same h') (h'.length_le same.symm h)
  have front : (before ++ [token]).map move <+: tokens.map move := h.front.map move
  have long : (before' ++ [token']).length = ((before ++ [token]).map move).length := by
    simp [lengths]
  have equal := (List.prefix_of_prefix_length_le h'.front front long.le).eq_of_length long
  rw [List.map_append, List.map_singleton] at equal
  obtain ⟨first, second⟩ := List.append_inj' equal rfl
  exact ⟨first, List.cons.inj second |>.1⟩

end FailsAt

/-- Tokens at other places read alike: both times the same formula but for its places, or both times
an error of the same code. -/
theorem readTokens_map (keeps : ∀ t, (move t).symbol = t.symbol) (source source' : String)
    {words : List Token} {last : Token} (hwords : ∀ token ∈ words, token.symbol ≠ .finish)
    (hlast : last.symbol = .finish) :
    (∃ f f', readTokens source (words ++ [last]) = .ok f ∧
        readTokens source' ((words ++ [last]).map move) = .ok f' ∧
        Derives .sum (words.map Token.symbol) f.bare ∧ f'.bare = f.bare) ∨
      ∃ e e', readTokens source (words ++ [last]) = .error e ∧
        readTokens source' ((words ++ [last]).map move) = .error e' ∧
        e.fault.isReading = true ∧ e'.fault.isReading = true ∧ e'.fault.code = e.fault.code := by
  have hwords' : ∀ token ∈ words.map move, token.symbol ≠ .finish :=
    List.forall_mem_map.2 fun token member => keeps token ▸ hwords token member
  have hlast' : (move last).symbol = .finish := (keeps last).trans hlast
  have moved : (words ++ [last]).map move = words.map move ++ [move last] := by
    rw [List.map_append, List.map_singleton]
  cases hread : readTokens source (words ++ [last]) with
  | ok f =>
    have derives := derives_of_readTokens hread hwords hlast
    obtain ⟨f', hread', same⟩ :
        ∃ f', readTokens source' (words.map move ++ [move last]) = .ok f' ∧ f'.bare = f.bare :=
      readTokens_of_derives ((map_symbol_map keeps words).symm ▸ derives) hwords' hlast'
    exact .inl ⟨f, f', rfl, moved ▸ hread', derives, same⟩
  | error e =>
    cases hread' : readTokens source' ((words ++ [last]).map move) with
    | ok f' =>
      have derives := derives_of_readTokens (moved ▸ hread') hwords' hlast'
      rw [map_symbol_map keeps] at derives
      obtain ⟨f, success, -⟩ :
          ∃ f, readTokens source (words ++ [last]) = .ok f ∧ f.bare = f'.bare :=
        readTokens_of_derives derives hwords hlast
      cases hread.symm.trans success
    | error e' =>
      obtain ⟨before, token, fails, rfl⟩ := exists_failsAt hwords hlast hread
      obtain ⟨before', token', fails', rfl⟩ := exists_failsAt hwords' hlast' (moved ▸ hread')
      obtain ⟨rfl, rfl⟩ := fails.eq_map keeps (moved.symm ▸ fails')
      exact .inr ⟨_, _, rfl, rfl, isReading_errorAt .., isReading_errorAt ..,
        code_errorAt_map keeps source source' before token⟩

/-- A text that is tokenized is read as its tokens are, also when it is blank. -/
theorem read_of_tokenize {source : String} {tokens : List Token}
    (tokenized : tokenize source = .ok tokens) : read source = readTokens source tokens := by
  rw [read]
  split
  next blank =>
    rw [tokens_of_blank tokenized blank]
    rfl
  · rw [tokenized]
    rfl

/-! ### Formulas that differ in places -/

mutual

theorem same_bare : ∀ f g : Formula, same f.bare g.bare = same f g
  | .number x _, g => by cases g <;> rfl
  | .parameter name _, g => by cases g <;> rfl
  | .binary op left right _, g => by
    cases g with
    | binary op' left' right' =>
      simp only [bare, same, same_bare left left', same_bare right right']
    | _ => rfl
  | .call name args _, g => by
    cases g with
    | call name' args' => simp only [bare, same, sameAll_bareAll args args']
    | _ => rfl
  | .foreign label, g => by cases g <;> rfl

theorem sameAll_bareAll : ∀ args others : List Formula,
    sameAll (bareAll args) (bareAll others) = sameAll args others
  | [], others => by cases others <;> rfl
  | arg :: rest, others => by
    cases others with
    | nil => rfl
    | cons other more =>
      simp only [bareAll, sameAll, same_bare arg other, sameAll_bareAll rest more]

end

theorem same_binary_self {op : Operator} {left right : Formula} {span : Option Span}
    (hleft : left.same left = true) (hright : right.same right = true) :
    same (.binary op left right span) (.binary op left right span) = true := by
  simp [same, hleft, hright]

/-- A chain of operators. -/
theorem same_foldl_extend {links : List Link} {first : Formula} (hfirst : first.same first = true)
    (operands : ∀ link ∈ links, link.operand.same link.operand = true) :
    (links.foldl Link.extend first).same (links.foldl Link.extend first) = true := by
  induction links generalizing first with
  | nil => exact hfirst
  | cons link rest ih =>
    obtain ⟨operand, others⟩ := List.forall_mem_cons.1 operands
    exact ih (same_binary_self hfirst operand) others

theorem sameAll_self {args : List Formula} (each : ∀ arg ∈ args, arg.same arg = true) :
    sameAll args args = true := by
  induction args with
  | nil => rfl
  | cons arg rest ih =>
    obtain ⟨first, others⟩ := List.forall_mem_cons.1 each
    rw [sameAll, first, ih others]
    rfl

theorem subset_intercalate {α : Type} (separator : List α) {parts : List (List α)} {part : List α}
    (member : part ∈ parts) : part ⊆ separator.intercalate parts := by
  induction parts with
  | nil => cases member
  | cons first rest ih =>
    cases rest with
    | nil =>
      rw [List.mem_singleton.1 member, List.intercalate_singleton]
      exact List.Subset.refl _
    | cons next rest =>
      rw [List.intercalate_cons_cons]
      cases member with
      | head => exact fun a ha => by simp [ha]
      | tail _ member => exact fun a ha => List.mem_append_right _ (ih member ha)

/-- A formula of the grammar equals itself, if NaN is not among its numbers. -/
theorem Derives.same_self {category : Category} {symbols : List Symbol} {f : Formula}
    (derives : Derives category symbols f)
    (numbers : ∀ x, .number x ∈ symbols → x.isNaN = false) : f.same f = true := by
  induction derives with
  | number x => exact Binary64.equals_self (numbers x (.head _))
  | parameter name => exact beq_self_eq_true name
  | call name args each ih =>
    have arguments : ∀ arg ∈ args.map Prod.snd, arg.same arg = true := by
      refine List.forall_mem_map.2 fun arg member => ih arg member fun x inside => numbers x ?_
      have inside := subset_intercalate [.comma] (List.mem_map_of_mem member) inside
      simp [inside]
    simp [same, sameAll_self arguments]
  | group inner ih => exact ih fun x member => numbers x (by simp [member])
  | primary operand ih => exact ih numbers
  | negation operand ih =>
    -- A minus sign stands for a product with minus one.
    have minusOne := Binary64.equals_self (x := -1) (by decide +kernel)
    exact same_binary_self minusOne (ih fun x member => numbers x (.tail _ member))
  | term links first ops operands hfirst ih =>
    refine same_foldl_extend (hfirst fun x member => numbers x (by simp [member])) ?_
    refine fun link member => ih link member fun x inside => numbers x ?_
    exact List.mem_append_right _ (List.mem_flatMap.2 ⟨link, member, .tail _ inside⟩)
  | sum links first ops operands hfirst ih =>
    refine same_foldl_extend (hfirst fun x member => numbers x (by simp [member])) ?_
    refine fun link member => ih link member fun x inside => numbers x ?_
    exact List.mem_append_right _ (List.mem_flatMap.2 ⟨link, member, .tail _ inside⟩)

/-- Formulas of the same symbols are equal but for their places. -/
theorem same_of_bare_eq {f f' : Formula} {symbols : List Symbol}
    (derives : Derives .sum symbols f.bare)
    (numbers : ∀ x, .number x ∈ symbols → x.isNaN = false) (equal : f'.bare = f.bare) :
    f.same f' = true := by
  rw [← same_bare, equal]
  exact derives.same_self numbers

end Joinery.Formula
