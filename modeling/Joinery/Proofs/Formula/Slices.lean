import Joinery.Proofs.Formula.Nodes
import Joinery.Proofs.Formula.Wording

/-!
# The part of a text that a node covers

The place of a node covers its tokens but for the parentheses of groups at either end. What it
covers is the node again once these parentheses are put back, and it is a formula of its own exactly
if there are none: if its parentheses pair off.
-/
namespace Joinery.Formula

/-! ### Parentheses that pair off -/

/-- How many parentheses of a text have no partner in it: those that close come first, those that
open come behind them. -/
structure Unpaired where
  closing : Nat
  opening : Nat
  deriving DecidableEq

namespace Unpaired

/-- Of two texts one behind the other: what opens in the first pairs off with what closes in the
second. -/
def before (a b : Unpaired) : Unpaired where
  closing := a.closing + (b.closing - a.opening)
  opening := b.opening + (a.opening - b.closing)

/-- Of texts one behind the other. -/
def all (parts : List Unpaired) : Unpaired := parts.foldr before ⟨0, 0⟩

@[simp] theorem all_nil : all [] = ⟨0, 0⟩ := rfl

@[simp] theorem all_cons (a : Unpaired) (parts : List Unpaired) :
    all (a :: parts) = a.before (all parts) := rfl

@[simp] theorem zero_before (a : Unpaired) : before ⟨0, 0⟩ a = a := by simp [before]

@[simp] theorem before_zero (a : Unpaired) : a.before ⟨0, 0⟩ = a := by simp [before]

theorem before_assoc (a b c : Unpaired) : (a.before b).before c = a.before (b.before c) := by
  simp only [before, mk.injEq]
  omega

@[simp] theorem all_append (first second : List Unpaired) :
    all (first ++ second) = (all first).before (all second) := by
  induction first with
  | nil => simp
  | cons a first ih => simp [ih, before_assoc]

theorem all_eq_zero {parts : List Unpaired} (zero : ∀ a ∈ parts, a = ⟨0, 0⟩) :
    all parts = ⟨0, 0⟩ := by
  induction parts with
  | nil => rfl
  | cons a parts ih =>
    obtain ⟨rfl, others⟩ := List.forall_mem_cons.1 zero
    simp [ih others]

/-- Behind parentheses that open and are all paired off, as many are left over that close. -/
theorem eq_of_opening_before {n : Nat} {a : Unpaired} (h : before ⟨0, n⟩ a = ⟨0, 0⟩) :
    a = ⟨n, 0⟩ := by
  obtain ⟨closing, opening⟩ := a
  simp only [before, mk.injEq] at h ⊢
  omega

/-- In front of parentheses that close and are all paired off, as many are left over that open. -/
theorem eq_of_before_closing {n : Nat} {a : Unpaired} (h : a.before ⟨n, 0⟩ = ⟨0, 0⟩) :
    a = ⟨0, n⟩ := by
  obtain ⟨closing, opening⟩ := a
  simp only [before, mk.injEq] at h ⊢
  omega

/-- Of a single character. -/
def ofChar : Char → Unpaired
  | '(' => ⟨0, 1⟩
  | ')' => ⟨1, 0⟩
  | _ => ⟨0, 0⟩

/-- Of a single symbol. -/
def ofSymbol : Symbol → Unpaired
  | .opening => ⟨0, 1⟩
  | .closing => ⟨1, 0⟩
  | _ => ⟨0, 0⟩

end Unpaired

/-- The parentheses of a text that have no partner in it. -/
def unpaired (cs : List Char) : Unpaired := .all (cs.map Unpaired.ofChar)

/-- The parentheses among tokens that have no partner among them. -/
def unpairedTokens (tokens : List Token) : Unpaired :=
  .all (tokens.map fun t => .ofSymbol t.symbol)

@[simp] theorem unpaired_cons (c : Char) (cs : List Char) :
    unpaired (c :: cs) = (Unpaired.ofChar c).before (unpaired cs) := rfl

@[simp] theorem unpaired_append (cs more : List Char) :
    unpaired (cs ++ more) = (unpaired cs).before (unpaired more) := by
  simp [unpaired]

@[simp] theorem unpairedTokens_nil : unpairedTokens [] = ⟨0, 0⟩ := rfl

@[simp] theorem unpairedTokens_cons (t : Token) (tokens : List Token) :
    unpairedTokens (t :: tokens) = (Unpaired.ofSymbol t.symbol).before (unpairedTokens tokens) :=
  rfl

@[simp] theorem unpairedTokens_append (first second : List Token) :
    unpairedTokens (first ++ second) = (unpairedTokens first).before (unpairedTokens second) := by
  simp [unpairedTokens]

theorem unpairedTokens_opening {tokens : List Token} (h : ∀ t ∈ tokens, t.symbol = .opening) :
    unpairedTokens tokens = ⟨0, tokens.length⟩ := by
  induction tokens with
  | nil => rfl
  | cons t tokens ih =>
    obtain ⟨own, others⟩ := List.forall_mem_cons.1 h
    simp [own, ih others, Unpaired.ofSymbol, Unpaired.before]

theorem unpairedTokens_closing {tokens : List Token} (h : ∀ t ∈ tokens, t.symbol = .closing) :
    unpairedTokens tokens = ⟨tokens.length, 0⟩ := by
  induction tokens with
  | nil => rfl
  | cons t tokens ih =>
    obtain ⟨own, others⟩ := List.forall_mem_cons.1 h
    simp [own, ih others, Unpaired.ofSymbol, Unpaired.before, Nat.add_comm]

theorem Separated.unpairedTokens {parts : List (List Token)} {tokens : List Token}
    (h : Separated parts tokens) (each : ∀ part ∈ parts, unpairedTokens part = ⟨0, 0⟩) :
    unpairedTokens tokens = ⟨0, 0⟩ := by
  induction h with
  | none => rfl
  | last tokens => exact each tokens (.head _)
  | more symbol later ih =>
    obtain ⟨own, others⟩ := List.forall_mem_cons.1 each
    simp [own, symbol, ih others, Unpaired.ofSymbol]

/-- In a formula all parentheses pair off. -/
theorem Spells.unpairedTokens {category : Category} {tokens : List Token} {f : Formula}
    (h : Spells category tokens f) : unpairedTokens tokens = ⟨0, 0⟩ := by
  induction h with
  | number symbol => simp [symbol, Unpaired.ofSymbol]
  | parameter symbol => simp [symbol, Unpaired.ofSymbol]
  | call named opens separated each closes ih =>
    have inside := separated.unpairedTokens (List.forall_mem_map.2 ih)
    simp [named, opens, inside, closes, Unpaired.ofSymbol, Unpaired.before]
  | group opens inner closes ih => simp [opens, ih, closes, Unpaired.ofSymbol, Unpaired.before]
  | negation symbol operand ih => simp [symbol, ih, Unpaired.ofSymbol]
  | product left symbol hop right ihl ihr => simp [ihl, symbol, ihr, Unpaired.ofSymbol]
  | sum left symbol hop right ihl ihr => simp [ihl, symbol, ihr, Unpaired.ofSymbol]
  | ofPrimary h ih => exact ih
  | ofUnary h ih => exact ih
  | ofTerm h ih => exact ih

/-! ### Parentheses of a text and of its tokens -/

theorem Unpaired.ofChar_eq_zero {c : Char} {p : Char → Bool} (h : p c = true)
    (opening : p '(' = false) (closing : p ')' = false) : ofChar c = ⟨0, 0⟩ := by
  unfold ofChar
  split
  · cases opening.symm.trans h
  · cases closing.symm.trans h
  · rfl

theorem unpaired_eq_zero {cs : List Char} {p : Char → Bool} (h : ∀ c ∈ cs, p c = true)
    (opening : p '(' = false) (closing : p ')' = false) : unpaired cs = ⟨0, 0⟩ :=
  Unpaired.all_eq_zero (List.forall_mem_map.2 fun c member =>
    Unpaired.ofChar_eq_zero (h c member) opening closing)

theorem IsWord.unpaired {word : List Char} {symbol : Symbol} (h : IsWord word symbol) :
    unpaired word = Unpaired.ofSymbol symbol := by
  have digits : ∀ {cs : List Char}, (∀ c ∈ cs, isDigit c = true) → Formula.unpaired cs = ⟨0, 0⟩ :=
    fun all => unpaired_eq_zero all rfl rfl
  have point : Unpaired.ofChar '.' = ⟨0, 0⟩ := rfl
  cases h with
  | @name first others letter rest =>
    refine unpaired_eq_zero (p := isNameChar) (List.forall_mem_cons.2 ?_) rfl rfl
    exact ⟨isNameChar_iff.2 (.inl letter), fun c member => isNameChar_iff.2 (rest c member)⟩
  | whole some all => exact digits all
  | decimal some all fraction => simp [digits all, point, digits fraction, Unpaired.ofSymbol]
  | fraction some all => simp [point, digits all, Unpaired.ofSymbol]
  | _ => rfl

/-- The parentheses of a text are those among its symbols. -/
theorem Worded.unpaired {cs : List Char} {tokens : List Token}
    (h : Worded cs (tokens.map Token.symbol)) : unpaired cs = unpairedTokens tokens := by
  generalize symbols : tokens.map Token.symbol = written at h
  induction h generalizing tokens with
  | finish blank =>
    rw [List.map_eq_nil_iff.1 symbols, unpaired_eq_zero blank rfl rfl]
    rfl
  | @word gap word rest symbol written blank longest later ih =>
    obtain ⟨t, tokens, rfl, rfl, others⟩ := List.map_eq_cons_iff.1 symbols
    rw [unpaired_append, unpaired_append, unpaired_eq_zero blank rfl rfl,
      longest.isWord.unpaired, ih others]
    simp

/-! ### The tokens of a node -/

/-- Tokens that stand for a formula and are no group: what its place reaches over, with parentheses
at either end that pair off with some within. -/
structure Owns (opens core closes : List Token) (f : Formula) (place : Span) : Prop where
  spells : ∃ category, Spells category (opens ++ (core ++ closes)) f
  fenced : Fenced opens core closes place
  place : f.span? = some place
  unpaired : unpairedTokens core = ⟨opens.length, closes.length⟩

namespace Fenced

variable {before core behind before' core' behind' : List Token} {place place' : Span}

/-- What pairs off with the parentheses in front is left over behind them. -/
theorem unpaired_front (h : Fenced before core behind place)
    (pairs : unpairedTokens (before ++ (core ++ behind)) = ⟨0, 0⟩) :
    unpairedTokens (core ++ behind) = ⟨before.length, 0⟩ := by
  rw [unpairedTokens_append, unpairedTokens_opening h.opening] at pairs
  exact Unpaired.eq_of_opening_before pairs

/-- What pairs off with the parentheses behind is left over in front of them. -/
theorem unpaired_back (h : Fenced before core behind place)
    (pairs : unpairedTokens (before ++ (core ++ behind)) = ⟨0, 0⟩) :
    unpairedTokens (before ++ core) = ⟨0, behind.length⟩ := by
  rw [← List.append_assoc, unpairedTokens_append, unpairedTokens_closing h.closing] at pairs
  exact Unpaired.eq_of_before_closing pairs

end Fenced

/-- What stands for a formula and has no parentheses at either end is owned as it is. -/
theorem owns_of_place {category : Category} {tokens : List Token} {f : Formula} {place : Span}
    (spells : Spells category tokens f) (placed : IsPlaceOf tokens place)
    (hplace : f.span? = some place) : Owns [] tokens [] f place :=
  ⟨⟨category, by simpa using spells⟩, .of_place placed, hplace, spells.unpairedTokens⟩

/-- An operator owns what stands for its operands, groups included. -/
theorem owns_join {category first second : Category} {before core behind before' core' behind' :
    List Token} {token : Token} {op : Operator} {f g : Formula} {a b : Span}
    (spells : Spells category
      (before ++ (core ++ behind) ++ token :: (before' ++ (core' ++ behind'))) (join op f g))
    (left : Spells first (before ++ (core ++ behind)) f) (symbol : token.symbol = .operator op)
    (right : Spells second (before' ++ (core' ++ behind')) g) (hf : f.span? = some a)
    (hg : g.span? = some b) (fenced : Fenced before core behind a)
    (fenced' : Fenced before' core' behind' b) :
    Owns before (core ++ (behind ++ token :: before' ++ core')) behind' (join op f g)
      ⟨a.start, b.stop⟩ := by
  refine ⟨⟨category, by simpa using spells⟩, fenced.join fenced' token,
    by rw [join, hf, hg]; rfl, ?_⟩
  have front := fenced.unpaired_front left.unpairedTokens
  have back := fenced'.unpaired_back right.unpairedTokens
  have cut : core ++ (behind ++ token :: before' ++ core') =
      (core ++ behind) ++ token :: (before' ++ core') := by simp
  rw [cut, unpairedTokens_append, front, unpairedTokens_cons, back, symbol]
  simp [Unpaired.ofSymbol, Unpaired.before]

/-- A formula owns tokens among those that stand for it: without the groups around them. -/
theorem Spells.owns {category : Category} {tokens : List Token} {f : Formula}
    (h : Spells category tokens f) : ∃ opens core closes place,
      opens ++ (core ++ closes) <:+: tokens ∧ Owns opens core closes f place := by
  induction h with
  | @number token x symbol =>
    exact ⟨[], [token], [], _, List.infix_refl _,
      owns_of_place (.number symbol) (isPlaceOf_singleton token) rfl⟩
  | @parameter token name symbol =>
    exact ⟨[], [token], [], _, List.infix_refl _,
      owns_of_place (.parameter symbol) (isPlaceOf_singleton token) rfl⟩
  | call named opens separated each closes ih =>
    refine ⟨[], _, [], _, ?_,
      owns_of_place (.call named opens separated each closes) (isPlaceOf_call ..) rfl⟩
    rw [List.append_nil]
    exact List.infix_refl _
  | @group opening closing tokens f opens inner closes ih =>
    obtain ⟨before, core, behind, place, inside, owns⟩ := ih
    exact ⟨before, core, behind, place, inside.trans ⟨[opening], [closing], rfl⟩, owns⟩
  | @negation minus tokens f symbol operand ih =>
    obtain ⟨before, core, behind, place, rfl, fenced, hplace⟩ := operand.fenced
    have back := fenced.unpaired_back operand.unpairedTokens
    have whole : [] ++ (minus :: (before ++ core) ++ behind) =
        minus :: (before ++ (core ++ behind)) := by simp
    have spells := Spells.negation symbol operand
    rw [← whole] at spells ⊢
    refine ⟨[], _, behind, _, List.infix_refl _, ⟨_, spells⟩, fenced.negate minus,
      by rw [negate, hplace]; rfl, ?_⟩
    rw [unpairedTokens_cons, back, symbol]
    rfl
  | product left symbol hop right ihl ihr =>
    obtain ⟨before, core, behind, place, rfl, fenced, hplace⟩ := left.fenced
    obtain ⟨before', core', behind', place', rfl, fenced', hplace'⟩ := right.fenced
    refine ⟨_, _, _, _, ?_, owns_join (.product left symbol hop right) left symbol right hplace
      hplace' fenced fenced'⟩
    simp
  | sum left symbol hop right ihl ihr =>
    obtain ⟨before, core, behind, place, rfl, fenced, hplace⟩ := left.fenced
    obtain ⟨before', core', behind', place', rfl, fenced', hplace'⟩ := right.fenced
    refine ⟨_, _, _, _, ?_, owns_join (.sum left symbol hop right) left symbol right hplace
      hplace' fenced fenced'⟩
    simp
  | ofPrimary h ih => exact ih
  | ofUnary h ih => exact ih
  | ofTerm h ih => exact ih

/-! ### The part of the text -/

/-- The part of a text that a place covers. -/
def Span.slice (place : Span) (source : String) : String :=
  String.ofList ((source.toList.drop place.start).take (place.stop - place.start))

/-- A text in parentheses that pair off with those left over in it. -/
def paired (text : String) : String :=
  String.ofList (List.replicate (unpaired text.toList).closing '(' ++
    (text.toList ++ List.replicate (unpaired text.toList).opening ')'))

/-- What the place of tokens covers are these tokens. -/
theorem Munches.slice {source : String} {before core after : List Token} {place : Span}
    {failure : Option (Char × Nat)}
    (h : Munches 0 source.toList (before ++ (core ++ after)) failure)
    (words : ∀ t ∈ before ++ core, t.symbol ≠ .finish) (placed : IsPlaceOf core place) :
    Worded (place.slice source).toList (core.map Token.symbol) := by
  obtain ⟨first, hfirst, last, hlast, rfl⟩ := placed
  obtain ⟨behind, rfl⟩ := List.head?_eq_some_iff.1 hfirst
  obtain ⟨front, hfront⟩ := List.getLast?_eq_some_iff.1 hlast
  have whole : first :: behind ++ after = front ++ last :: after := by
    rw [hfront]
    simp
  have back : Munches _ _ (first :: behind ++ after) failure :=
    h.drop fun t member => words t (by simp at member ⊢; tauto)
  rw [whole] at back
  have cut := back.take fun t member => words t (hfront ▸ List.mem_append_right before member)
  rw [Span.slice, String.toList_ofList, hfront]
  exact cut

theorem Worded.openings {cs : List Char} {symbols : List Symbol} (h : Worded cs symbols) (n : Nat) :
    Worded (List.replicate n '(' ++ cs) (List.replicate n .opening ++ symbols) := by
  induction n with
  | zero => exact h
  | succ n ih => exact ih.opening

theorem worded_closings (n : Nat) :
    Worded (List.replicate n ')') (List.replicate n .closing) := by
  induction n with
  | zero => exact .finish nofun
  | succ n ih => exact ih.closing

/-- Parentheses around a text are the tokens at either end. -/
theorem Worded.fenced {cs : List Char} {opens core closes : List Token} {place : Span}
    (h : Worded cs (core.map Token.symbol)) (fenced : Fenced opens core closes place) :
    Worded (List.replicate opens.length '(' ++ (cs ++ List.replicate closes.length ')'))
      ((opens ++ (core ++ closes)).map Token.symbol) := by
  have front : opens.map Token.symbol = List.replicate opens.length .opening :=
    List.eq_replicate_iff.2 ⟨List.length_map _, List.forall_mem_map.2 fenced.opening⟩
  have back : closes.map Token.symbol = List.replicate closes.length .closing :=
    List.eq_replicate_iff.2 ⟨List.length_map _, List.forall_mem_map.2 fenced.closing⟩
  have ends : ∀ c, (List.replicate closes.length ')').head? = some c → endsWord c = true := by
    intro c found
    rw [List.eq_of_mem_replicate (List.mem_of_mem_head? found)]
    rfl
  rw [List.map_append, List.map_append, front, back]
  exact (h.append (worded_closings _) ends).openings _

/-- The parentheses of a text that is read pair off. -/
theorem unpaired_of_read {source : String} {f : Formula} (success : read source = .ok f) :
    unpaired source.toList = ⟨0, 0⟩ := by
  obtain ⟨words, worded, spelled⟩ := exists_worded_of_read success
  exact worded.unpaired.trans spelled.unpairedTokens

/-- A text with the symbols of a formula is read as the formula. -/
theorem read_of_spells {source : String} {category : Category} {tokens : List Token} {g : Formula}
    (spells : Spells category tokens g)
    (worded : Worded source.toList (tokens.map Token.symbol)) :
    ∃ h, read source = .ok h ∧ g.same h = true := by
  have derives := spells.toSum.derives
  obtain ⟨h, success, bare⟩ := read_iff_worded.2 ⟨_, worded, derives⟩
  exact ⟨h, success, same_of_bare_eq derives (fun x member => worded.isNaN_eq_false member) bare⟩

/-- In a formula that is read from a text, each node but the minus ones that stand for minus signs
covers a part of the text. With parentheses around it that pair off with those left over in it, this
part is read as an equal node. By itself it is exactly if none are left over. -/
theorem read_slice_iff {source : String} {f g : Formula} (success : read source = .ok f)
    (node : f.HasNode g) (notMinusOne : ∀ span, g ≠ .number (-1) span) :
    ∃ place, g.span? = some place ∧
      ((∃ h, read (place.slice source) = .ok h ∧ g.same h = true) ↔
        unpaired (place.slice source).toList = ⟨0, 0⟩) ∧
      ∃ h, read (paired (place.slice source)) = .ok h ∧ g.same h = true := by
  obtain ⟨words, length, tokenized, hwords, spelled⟩ := exists_spells_of_read success
  have munches := tokenize_eq_ok_iff_munches.1 tokenized
  cases spelled.standsIn g node with
  | minusOne member => exact absurd rfl (notMinusOne _)
  | spelled inside spells =>
    obtain ⟨opens, core, closes, place, inside', owns⟩ := spells.owns
    obtain ⟨before, after, rfl⟩ := inside'.trans inside
    have cut : before ++ (opens ++ (core ++ closes)) ++ after ++ [Token.finishAt length] =
        (before ++ opens) ++ (core ++ (closes ++ (after ++ [Token.finishAt length]))) := by simp
    rw [cut] at munches
    have worded := munches.slice
      (fun t member => hwords t (by simp at member ⊢; tauto)) owns.fenced.placed
    have left := worded.unpaired.trans owns.unpaired
    have whole : ∃ h, read (paired (place.slice source)) = .ok h ∧ g.same h = true := by
      obtain ⟨category, own⟩ := owns.spells
      refine read_of_spells own ?_
      rw [paired, String.toList_ofList, left]
      exact worded.fenced owns.fenced
    refine ⟨place, owns.place, ⟨fun ⟨h, reads, _⟩ => unpaired_of_read reads, fun none => ?_⟩,
      whole⟩
    have same : paired (place.slice source) = place.slice source := by simp [paired, none]
    rwa [same] at whole

/-- A product whose first factor is a group: the parenthesis that closes the group lies within the
place of the product, the one that opens it does not. -/
theorem exists_product_of_group :
    ∃ f, read "(a + b) * c" = .ok f ∧ f.span? = some ⟨1, 11⟩ ∧ ∀ span, f ≠ .number (-1) span := by
  obtain ⟨f, success, place, two⟩ := exists_of_any_toOption (x := read "(a + b) * c")
    (P := fun f => f.span? = some ⟨1, 11⟩ ∧ f.parts.length = 2) (by decide +kernel)
  refine ⟨f, success, place, ?_⟩
  rintro span rfl
  cases two

/-- What the product covers is read with the parenthesis put back. -/
theorem read_slice_iff_group :
    ∃ f, read "(a + b) * c" = .ok f ∧ f.HasNode f ∧ (∀ span, f ≠ .number (-1) span) ∧
      ∃ place, f.span? = some place ∧ place.slice "(a + b) * c" = "a + b) * c" ∧
        ((∃ h, read (place.slice "(a + b) * c") = .ok h ∧ f.same h = true) ↔
          unpaired (place.slice "(a + b) * c").toList = ⟨0, 0⟩) ∧
        ∃ h, read (paired (place.slice "(a + b) * c")) = .ok h ∧ f.same h = true := by
  obtain ⟨f, success, own, notMinusOne⟩ := exists_product_of_group
  obtain ⟨place, hplace, slices⟩ := read_slice_iff success (.self f) notMinusOne
  cases own.symm.trans hplace
  exact ⟨f, success, .self f, notMinusOne, _, own, by decide +kernel, slices⟩

/-- Not every node is read again from the part of the text that it covers. -/
theorem not_forall_read_slice :
    ¬ ∀ (source : String) (f g : Formula) (place : Span), read source = .ok f → f.HasNode g →
      (∀ span, g ≠ .number (-1) span) → g.span? = some place →
      ∃ h, read (place.slice source) = .ok h ∧ g.same h = true := by
  intro all
  obtain ⟨f, success, own, notMinusOne⟩ := exists_product_of_group
  obtain ⟨h, reads, -⟩ := all _ f f _ success (.self f) notMinusOne own
  have refused : (read (Span.slice ⟨1, 11⟩ "(a + b) * c")).toOption.isNone = true := by
    decide +kernel
  rw [reads] at refused
  cases refused

end Joinery.Formula
