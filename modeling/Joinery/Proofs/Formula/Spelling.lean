import Joinery.Proofs.Formula.Grammar

/-!
# Formulas and their tokens

Which formula tokens stand for, with the places of its nodes. The rules are those of the grammar,
with one operator at a time: a chain is a shorter chain, an operator and an operand. Each rule makes
the node that the reader makes, so a node takes its place from its tokens or from the nodes below.
-/
namespace Joinery.Formula

/-- Lists of tokens with a comma between each two neighbours. -/
inductive Separated : List (List Token) → List Token → Prop where
  | none : Separated [] []
  | last (tokens : List Token) : Separated [tokens] tokens
  | more {first next : List Token} {rest : List (List Token)} {tokens : List Token} {comma : Token}
      (symbol : comma.symbol = .comma) (later : Separated (next :: rest) tokens) :
      Separated (first :: next :: rest) (first ++ comma :: tokens)

/-- Tokens of a category together with the formula that they are read as. -/
inductive Spells : Category → List Token → Formula → Prop where
  | number {token : Token} {x : Binary64} (symbol : token.symbol = .number x) :
      Spells .primary [token] (.number x (some token.span))
  | parameter {token : Token} {name : String} (symbol : token.symbol = .name name) :
      Spells .primary [token] (.parameter name (some token.span))
  | call {word opening closing : Token} {name : String} {inside : List Token}
      {args : List (List Token × Formula)} (named : word.symbol = .name name)
      (opens : opening.symbol = .opening) (separated : Separated (args.map Prod.fst) inside)
      (each : ∀ arg ∈ args, Spells .sum arg.1 arg.2) (closes : closing.symbol = .closing) :
      Spells .primary (word :: opening :: (inside ++ [closing]))
        (callOf name word.span closing.span (args.map Prod.snd))
  | group {opening closing : Token} {tokens : List Token} {f : Formula}
      (opens : opening.symbol = .opening) (inner : Spells .sum tokens f)
      (closes : closing.symbol = .closing) : Spells .primary (opening :: (tokens ++ [closing])) f
  | negation {minus : Token} {tokens : List Token} {f : Formula}
      (symbol : minus.symbol = .operator .minus) (operand : Spells .unary tokens f) :
      Spells .unary (minus :: tokens) (negate minus.span f)
  | product {first second : List Token} {token : Token} {op : Operator} {f g : Formula}
      (left : Spells .term first f) (symbol : token.symbol = .operator op)
      (hop : op = .times ∨ op = .over) (right : Spells .unary second g) :
      Spells .term (first ++ token :: second) (join op f g)
  | sum {first second : List Token} {token : Token} {op : Operator} {f g : Formula}
      (left : Spells .sum first f) (symbol : token.symbol = .operator op)
      (hop : op = .plus ∨ op = .minus) (right : Spells .term second g) :
      Spells .sum (first ++ token :: second) (join op f g)
  | ofPrimary {tokens : List Token} {f : Formula} (h : Spells .primary tokens f) :
      Spells .unary tokens f
  | ofUnary {tokens : List Token} {f : Formula} (h : Spells .unary tokens f) :
      Spells .term tokens f
  | ofTerm {tokens : List Token} {f : Formula} (h : Spells .term tokens f) : Spells .sum tokens f

/-! ### The grammar -/

theorem Separated.symbols {parts : List (List Token)} {tokens : List Token}
    (h : Separated parts tokens) :
    tokens.map Token.symbol = [.comma].intercalate (parts.map (List.map Token.symbol)) := by
  induction h with
  | none => rfl
  | last tokens => simp
  | more symbol later ih => simp [List.intercalate_cons_cons, symbol, ih]

/-- Tokens between commas can be found again from their symbols. -/
theorem exists_separated (parts : List (List Symbol)) (tokens : List Token)
    (h : tokens.map Token.symbol = [.comma].intercalate parts) :
    ∃ cut, Separated cut tokens ∧ cut.map (List.map Token.symbol) = parts := by
  induction parts generalizing tokens with
  | nil =>
    obtain rfl : tokens = [] := by simpa using h
    exact ⟨[], .none, rfl⟩
  | cons first rest ih =>
    cases rest with
    | nil => exact ⟨[tokens], .last tokens, by simpa using h⟩
    | cons next rest =>
      rw [List.intercalate_cons_cons, List.append_assoc] at h
      obtain ⟨own, others, rfl, hown, hothers⟩ := List.map_eq_append_iff.mp h
      obtain ⟨comma, later, rfl, hcomma, hlater⟩ := List.map_eq_cons_iff.mp hothers
      obtain ⟨cut, separated, same⟩ := ih later hlater
      cases cut with
      | nil => cases same
      | cons second cut =>
        exact ⟨own :: second :: cut, .more hcomma separated, by rw [List.map_cons, hown, same]⟩

namespace Spells

variable {category : Category} {tokens : List Token} {f : Formula}

/-- What tokens stand for, the grammar derives from their symbols. -/
theorem derives (h : Spells category tokens f) :
    Derives category (tokens.map Token.symbol) f.bare := by
  induction h with
  | @number token x symbol =>
    rw [List.map_singleton, symbol]
    exact .number x
  | @parameter token name symbol =>
    rw [List.map_singleton, symbol]
    exact .parameter name
  | @call word opening closing name inside args named opens separated each closes ih =>
    have call := Derives.call name (args.map fun arg => (arg.1.map Token.symbol, arg.2.bare))
      (List.forall_mem_map.2 ih)
    simpa [named, opens, closes, separated.symbols, callOf, bare, bareAll_eq_map,
      Function.comp_def] using call
  | group opens inner closes ih => simpa [opens, closes] using Derives.group ih
  | negation symbol operand ih => simpa [symbol, negate, bare] using Derives.negation ih
  | product left symbol hop right ihl ihr => simpa [symbol, join, bare] using ihl.extendTerm hop ihr
  | sum left symbol hop right ihl ihr => simpa [symbol, join, bare] using ihl.extendSum hop ihr
  | ofPrimary h ih => exact .primary ih
  | ofUnary h ih => exact ih.toTerm
  | ofTerm h ih => exact ih.toSum

/-- What stands for a formula of some category stands for it as a whole. -/
theorem toSum (h : Spells category tokens f) : Spells .sum tokens f := by
  cases category with
  | primary => exact .ofTerm (.ofUnary (.ofPrimary h))
  | unary => exact .ofTerm (.ofUnary h)
  | term => exact .ofTerm h
  | sum => exact h

/-- An operand can begin with the first token. -/
theorem begins (h : Spells category tokens f) :
    ∃ token rest, tokens = token :: rest ∧ token.symbol.beginsOperand = true := by
  obtain ⟨first, others, symbols, begins⟩ := h.derives.begins
  obtain ⟨token, rest, rfl, rfl, -⟩ := List.map_eq_cons_iff.mp symbols
  exact ⟨token, rest, rfl, begins⟩

end Spells

/-- Behind a chain, tokens of links make the chain longer. -/
theorem exists_spells_links {category operand : Category} {links : List Link}
    (longer : ∀ {first second : List Token} {token : Token} {f g : Formula}, ∀ link ∈ links,
      Spells category first f → token.symbol = .operator link.op → Spells operand second g →
      Spells category (first ++ token :: second) (join link.op f g))
    (each : ∀ link ∈ links, ∀ tokens : List Token, tokens.map Token.symbol = link.symbols →
      ∃ g, Spells operand tokens g ∧ g.bare = link.operand)
    {front back : List Token} {f : Formula} (first : Spells category front f)
    (symbols : back.map Token.symbol = links.flatMap Link.written) :
    ∃ g, Spells category (front ++ back) g ∧ g.bare = links.foldl Link.extend f.bare := by
  induction links generalizing front back f with
  | nil =>
    obtain rfl : back = [] := by simpa using symbols
    exact ⟨f, by rwa [List.append_nil], rfl⟩
  | cons link links ih =>
    rw [List.flatMap_cons] at symbols
    obtain ⟨own, rest, rfl, hown, hrest⟩ := List.map_eq_append_iff.mp symbols
    obtain ⟨token, more, rfl, htoken, hmore⟩ := List.map_eq_cons_iff.mp hown
    obtain ⟨g, spelled, meaning⟩ := each link (.head _) more hmore
    have chain := longer link (.head _) first htoken spelled
    obtain ⟨whole, hwhole, bare⟩ := ih (fun link member => longer link (.tail _ member))
      (fun link member => each link (.tail _ member)) chain hrest
    refine ⟨whole, by simpa using hwhole, ?_⟩
    rw [bare, List.foldl_cons, Link.extend, ← meaning, join, Formula.bare]

/-- What holds of the arguments of a call one by one holds of them together. -/
theorem exists_spells_each {args : List (List Symbol × Formula)} {cut : List (List Token)}
    (each : ∀ arg ∈ args, ∀ tokens : List Token, tokens.map Token.symbol = arg.1 →
      ∃ f, Spells .sum tokens f ∧ f.bare = arg.2)
    (symbols : cut.map (List.map Token.symbol) = args.map Prod.fst) :
    ∃ spelled : List (List Token × Formula), spelled.map Prod.fst = cut ∧
      (spelled.map Prod.snd).map bare = args.map Prod.snd ∧
      ∀ arg ∈ spelled, Spells .sum arg.1 arg.2 := by
  induction args generalizing cut with
  | nil =>
    obtain rfl : cut = [] := by simpa using symbols
    exact ⟨[], rfl, rfl, nofun⟩
  | cons arg args ih =>
    obtain ⟨own, others, rfl, hown, hothers⟩ := List.map_eq_cons_iff.mp symbols
    obtain ⟨f, hf, meaning⟩ := each arg (.head _) own hown
    obtain ⟨spelled, rfl, meanings, all⟩ :=
      ih (fun arg member => each arg (.tail _ member)) hothers
    exact ⟨(own, f) :: spelled, rfl, by simp [meaning, ← meanings],
      List.forall_mem_cons.2 ⟨hf, all⟩⟩

/-- Tokens of symbols that the grammar derives stand for a formula of the meaning. -/
theorem Derives.exists_spells {category : Category} {symbols : List Symbol} {meaning : Formula}
    (h : Derives category symbols meaning) :
    ∀ tokens : List Token, tokens.map Token.symbol = symbols →
      ∃ f, Spells category tokens f ∧ f.bare = meaning := by
  induction h with
  | number x =>
    intro tokens same
    obtain ⟨token, rfl, symbol⟩ := List.map_eq_singleton_iff.mp same
    exact ⟨_, .number symbol, rfl⟩
  | parameter name =>
    intro tokens same
    obtain ⟨token, rfl, symbol⟩ := List.map_eq_singleton_iff.mp same
    exact ⟨_, .parameter symbol, rfl⟩
  | call name args each ih =>
    intro tokens same
    obtain ⟨word, rest, rfl, named, same⟩ := List.map_eq_cons_iff.mp same
    obtain ⟨opening, rest, rfl, opens, same⟩ := List.map_eq_cons_iff.mp same
    obtain ⟨inside, ends, rfl, hinside, hends⟩ := List.map_eq_append_iff.mp same
    obtain ⟨closing, rfl, closes⟩ := List.map_eq_singleton_iff.mp hends
    obtain ⟨cut, separated, hcut⟩ := exists_separated _ inside hinside
    obtain ⟨spelled, rfl, meanings, all⟩ := exists_spells_each ih hcut
    refine ⟨_, .call named opens separated all closes, ?_⟩
    simp [callOf, bare, bareAll_eq_map, ← meanings]
  | group inner ih =>
    intro tokens same
    obtain ⟨opening, rest, rfl, opens, same⟩ := List.map_eq_cons_iff.mp same
    obtain ⟨own, ends, rfl, hown, hends⟩ := List.map_eq_append_iff.mp same
    obtain ⟨closing, rfl, closes⟩ := List.map_eq_singleton_iff.mp hends
    obtain ⟨f, spelled, meaning⟩ := ih own hown
    exact ⟨f, .group opens spelled closes, meaning⟩
  | primary operand ih =>
    intro tokens same
    obtain ⟨f, spelled, meaning⟩ := ih tokens same
    exact ⟨f, .ofPrimary spelled, meaning⟩
  | negation operand ih =>
    intro tokens same
    obtain ⟨minus, rest, rfl, symbol, same⟩ := List.map_eq_cons_iff.mp same
    obtain ⟨f, spelled, rfl⟩ := ih rest same
    exact ⟨_, .negation symbol spelled, rfl⟩
  | term links first ops operands ih ihs =>
    intro tokens same
    obtain ⟨front, back, rfl, hfront, hback⟩ := List.map_eq_append_iff.mp same
    obtain ⟨f, spelled, rfl⟩ := ih front hfront
    exact exists_spells_links (fun link member left symbol right =>
      .product left symbol (ops link member) right) ihs (.ofUnary spelled) hback
  | sum links first ops operands ih ihs =>
    intro tokens same
    obtain ⟨front, back, rfl, hfront, hback⟩ := List.map_eq_append_iff.mp same
    obtain ⟨f, spelled, rfl⟩ := ih front hfront
    exact exists_spells_links (fun link member left symbol right =>
      .sum left symbol (ops link member) right) ihs (.ofTerm spelled) hback

end Joinery.Formula
