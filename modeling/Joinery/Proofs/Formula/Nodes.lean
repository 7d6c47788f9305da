import Joinery.Proofs.Formula.Words

/-!
# Nodes and their places

A node is read from tokens that stand together, and its place reaches from the first to the last of
them, but for parentheses of groups at either end: an operator takes the places of its operands, and
a group has none of its own. As tokens stand one behind the other, the places of the operands or
arguments of a node lie within its own place, in order and apart.
-/
namespace Joinery.Formula

/-! ### Nodes -/

/-- The operands of an operator or the arguments of a call, in order. -/
def parts : Formula → List Formula
  | .binary _ left right _ => [left, right]
  | .call _ args _ => args
  | _ => []

/-- A formula has itself and the nodes of its parts for nodes. -/
inductive HasNode : Formula → Formula → Prop where
  | self (f : Formula) : HasNode f f
  | within {f part g : Formula} (member : part ∈ f.parts) (node : HasNode part g) : HasNode f g

/-- A node that belongs to tokens: the minus one of a minus sign among them, or what some of them
stand for. -/
inductive StandsIn (tokens : List Token) : Formula → Prop where
  | minusOne {minus : Token} (member : minus ∈ tokens) :
      StandsIn tokens (.number (-1) (some minus.span))
  | spelled {category : Category} {own : List Token} {g : Formula} (inside : own <:+: tokens)
      (spells : Spells category own g) : StandsIn tokens g

theorem StandsIn.mono {part tokens : List Token} {g : Formula} (h : StandsIn part g)
    (inside : part <:+: tokens) : StandsIn tokens g := by
  cases h with
  | minusOne member => exact .minusOne (inside.subset member)
  | spelled within spells => exact .spelled (within.trans inside) spells

/-- What belongs to the node itself and to those of its parts belongs to all its nodes. -/
theorem standsIn_of_parts {category : Category} {tokens : List Token} {f : Formula}
    (own : Spells category tokens f)
    (parts : ∀ part ∈ f.parts, ∀ g, part.HasNode g → StandsIn tokens g) :
    ∀ g, f.HasNode g → StandsIn tokens g := by
  intro g node
  cases node with
  | self => exact .spelled (List.infix_refl tokens) own
  | within member node => exact parts _ member g node

theorem Separated.isInfix {parts : List (List Token)} {tokens : List Token}
    (h : Separated parts tokens) : ∀ part ∈ parts, part <:+: tokens := by
  induction h with
  | none => nofun
  | last tokens => exact List.forall_mem_singleton.2 (List.infix_refl tokens)
  | @more first next rest tokens comma symbol later ih =>
    have behind : tokens <:+: first ++ comma :: tokens := ⟨first ++ [comma], [], by simp⟩
    exact List.forall_mem_cons.2
      ⟨(List.prefix_append _ _).isInfix, fun part member => (ih part member).trans behind⟩

/-- The nodes of an operator between two operands. -/
theorem standsIn_join {category : Category} {first second : List Token} {token : Token}
    {op : Operator} {f g : Formula}
    (own : Spells category (first ++ token :: second) (join op f g))
    (left : ∀ h, f.HasNode h → StandsIn first h) (right : ∀ h, g.HasNode h → StandsIn second h) :
    ∀ h, (join op f g).HasNode h → StandsIn (first ++ token :: second) h := by
  refine standsIn_of_parts own (List.forall_mem_cons.2 ⟨fun h node => ?_,
    List.forall_mem_singleton.2 fun h node => ?_⟩)
  · exact (left h node).mono (List.prefix_append _ _).isInfix
  · exact (right h node).mono ⟨first ++ [token], [], by simp⟩

/-- All nodes of a formula belong to its tokens. -/
theorem Spells.standsIn {category : Category} {tokens : List Token} {f : Formula}
    (h : Spells category tokens f) : ∀ g, f.HasNode g → StandsIn tokens g := by
  induction h with
  | number symbol => exact standsIn_of_parts (.number symbol) nofun
  | parameter symbol => exact standsIn_of_parts (.parameter symbol) nofun
  | @call word opening closing name inside args named opens separated each closes ih =>
    refine standsIn_of_parts (.call named opens separated each closes) ?_
    refine List.forall_mem_map.2 fun arg member g node => (ih arg member g node).mono ?_
    exact (separated.isInfix _ (List.mem_map_of_mem member)).trans ⟨[word, opening], [closing], rfl⟩
  | @group opening closing tokens f opens inner closes ih =>
    exact fun g node => (ih g node).mono ⟨[opening], [closing], rfl⟩
  | @negation minus tokens f symbol operand ih =>
    refine standsIn_of_parts (.negation symbol operand) (List.forall_mem_cons.2
      ⟨fun g node => ?_, List.forall_mem_singleton.2 fun g node => ?_⟩)
    · cases node with
      | self => exact .minusOne (.head _)
      | within member => cases member
    · exact (ih g node).mono (List.suffix_cons minus tokens).isInfix
  | product left symbol hop right ihl ihr =>
    exact standsIn_join (.product left symbol hop right) ihl ihr
  | sum left symbol hop right ihl ihr => exact standsIn_join (.sum left symbol hop right) ihl ihr
  | ofPrimary h ih => exact ih
  | ofUnary h ih => exact ih
  | ofTerm h ih => exact ih

/-! ### The place of a node -/

/-- A place from the start of the first to the stop of the last one of some tokens. -/
def IsPlaceOf (tokens : List Token) (place : Span) : Prop :=
  ∃ first ∈ tokens.head?, ∃ last ∈ tokens.getLast?, place = ⟨first.span.start, last.span.stop⟩

/-- Tokens are parentheses that open, others that a place reaches over, and parentheses that
close. -/
structure Fenced (opens core closes : List Token) (place : Span) : Prop where
  opening : ∀ t ∈ opens, t.symbol = .opening
  closing : ∀ t ∈ closes, t.symbol = .closing
  placed : IsPlaceOf core place

theorem IsPlaceOf.mid {front back middle : List Token} {a b : Span} (hfront : IsPlaceOf front a)
    (hback : IsPlaceOf back b) : IsPlaceOf (front ++ (middle ++ back)) ⟨a.start, b.stop⟩ := by
  obtain ⟨first, hfirst, -, -, rfl⟩ := hfront
  obtain ⟨-, -, last, hlast, rfl⟩ := hback
  refine ⟨first, ?_, last, ?_, rfl⟩
  · rw [List.head?_append]
    exact Option.mem_def.2 (by rw [Option.mem_def.1 hfirst, Option.some_or])
  · rw [← List.append_assoc, List.getLast?_append]
    exact Option.mem_def.2 (by rw [Option.mem_def.1 hlast, Option.some_or])

theorem isPlaceOf_singleton (token : Token) : IsPlaceOf [token] token.span :=
  ⟨token, rfl, token, rfl, rfl⟩

namespace Fenced

variable {before core behind before' core' behind' : List Token} {place place' : Span}

theorem of_place (h : IsPlaceOf core place) : Fenced [] core [] place := ⟨nofun, nofun, h⟩

theorem group (h : Fenced before core behind place) {opening closing : Token}
    (opens : opening.symbol = .opening) (closes : closing.symbol = .closing) :
    Fenced (opening :: before) core (behind ++ [closing]) place :=
  ⟨List.forall_mem_cons.2 ⟨opens, h.opening⟩,
    List.forall_mem_append.2 ⟨h.closing, List.forall_mem_singleton.2 closes⟩, h.placed⟩

/-- Behind a minus sign the parentheses in front lie within the place. -/
theorem negate (h : Fenced before core behind place) (minus : Token) :
    Fenced [] (minus :: (before ++ core)) behind ⟨minus.span.start, place.stop⟩ :=
  ⟨nofun, h.closing, (isPlaceOf_singleton minus).mid h.placed⟩

/-- Between two operands all parentheses lie within the place. -/
theorem join (h : Fenced before core behind place) (h' : Fenced before' core' behind' place')
    (token : Token) :
    Fenced before (core ++ (behind ++ token :: before' ++ core')) behind'
      ⟨place.start, place'.stop⟩ :=
  ⟨h.opening, h'.closing, h.placed.mid h'.placed⟩

end Fenced

theorem isPlaceOf_call (word opening closing : Token) (inside : List Token) :
    IsPlaceOf (word :: opening :: (inside ++ [closing])) ⟨word.span.start, closing.span.stop⟩ := by
  have ends : IsPlaceOf ([word] ++ (opening :: inside ++ [closing])) _ :=
    (isPlaceOf_singleton word).mid (isPlaceOf_singleton closing)
  exact ends

/-- But for parentheses at either end, a formula has the place of its tokens. -/
theorem Spells.fenced {category : Category} {tokens : List Token} {f : Formula}
    (h : Spells category tokens f) : ∃ opens core closes place,
      tokens = opens ++ (core ++ closes) ∧ Fenced opens core closes place ∧
        f.span? = some place := by
  induction h with
  | @number token x symbol =>
    exact ⟨[], [token], [], _, rfl, .of_place (isPlaceOf_singleton token), rfl⟩
  | @parameter token name symbol =>
    exact ⟨[], [token], [], _, rfl, .of_place (isPlaceOf_singleton token), rfl⟩
  | call named opens separated each closes ih =>
    exact ⟨[], _, [], _, (List.append_nil _).symm, .of_place (isPlaceOf_call ..), rfl⟩
  | @group opening closing tokens f opens inner closes ih =>
    obtain ⟨before, core, behind, place, rfl, fenced, hplace⟩ := ih
    exact ⟨_, core, _, place, by simp, fenced.group opens closes, hplace⟩
  | @negation minus tokens f symbol operand ih =>
    obtain ⟨before, core, behind, place, rfl, fenced, hplace⟩ := ih
    exact ⟨[], _, behind, _, by simp, fenced.negate minus, by rw [Formula.negate, hplace]; rfl⟩
  | @product first second token op f g left symbol hop right ihl ihr
  | @sum first second token op f g left symbol hop right ihl ihr =>
    obtain ⟨before, core, behind, place, rfl, fenced, hplace⟩ := ihl
    obtain ⟨before', core', behind', place', rfl, fenced', hplace'⟩ := ihr
    exact ⟨before, _, behind', _, by simp, fenced.join fenced' token,
      by rw [Formula.join, hplace, hplace']; rfl⟩
  | ofPrimary h ih => exact ih
  | ofUnary h ih => exact ih
  | ofTerm h ih => exact ih

/-! ### Places in order -/

/-- Tokens that stand one behind the other, none of them empty. -/
structure InOrder (tokens : List Token) : Prop where
  apart : tokens.Pairwise (fun a b => a.span.stop ≤ b.span.start)
  nonempty : ∀ t ∈ tokens, t.span.start < t.span.stop

theorem InOrder.sublist {part tokens : List Token} (h : InOrder tokens)
    (inside : part.Sublist tokens) : InOrder part :=
  ⟨h.apart.sublist inside, fun t member => h.nonempty t (inside.subset member)⟩

/-- A place of one character at least, from the start of a token to the stop of one. -/
structure LiesIn (tokens : List Token) (place : Span) : Prop where
  start : ∃ t ∈ tokens, t.span.start = place.start
  stop : ∃ t ∈ tokens, t.span.stop = place.stop
  nonempty : place.start < place.stop

theorem IsPlaceOf.liesIn {tokens : List Token} {place : Span} (h : IsPlaceOf tokens place)
    (ordered : InOrder tokens) : LiesIn tokens place := by
  obtain ⟨first, hfirst, last, hlast, rfl⟩ := h
  have inside := List.mem_of_mem_head? hfirst
  have inside' := List.mem_of_mem_getLast? hlast
  refine ⟨⟨first, inside, rfl⟩, ⟨last, inside', rfl⟩, ?_⟩
  cases tokens with
  | nil => cases hfirst
  | cons token rest =>
    cases hfirst
    obtain rfl | behind := List.mem_cons.1 inside'
    · exact ordered.nonempty last inside
    · have later := (List.pairwise_cons.1 ordered.apart).1 last behind
      have own := ordered.nonempty first inside
      have other := ordered.nonempty last inside'
      dsimp only
      omega

theorem LiesIn.mono {part tokens : List Token} {place : Span} (h : LiesIn part place)
    (inside : part ⊆ tokens) : LiesIn tokens place := by
  obtain ⟨⟨first, hfirst, start⟩, ⟨last, hlast, stop⟩, nonempty⟩ := h
  exact ⟨⟨first, inside hfirst, start⟩, ⟨last, inside hlast, stop⟩, nonempty⟩

/-- Places of tokens stand in the order of the tokens. -/
theorem LiesIn.stop_le_start {first second : List Token} {a b : Span} (ha : LiesIn first a)
    (hb : LiesIn second b) (apart : ∀ s ∈ first, ∀ t ∈ second, s.span.stop ≤ t.span.start) :
    a.stop ≤ b.start := by
  obtain ⟨s, hs, stop⟩ := ha.stop
  obtain ⟨t, ht, start⟩ := hb.start
  exact stop ▸ start ▸ apart s hs t ht

/-- The place of a formula is one of its tokens. -/
theorem Spells.liesIn {category : Category} {tokens : List Token} {f : Formula}
    (h : Spells category tokens f) (ordered : InOrder tokens) :
    ∃ place, f.span? = some place ∧ LiesIn tokens place := by
  obtain ⟨opens, core, closes, place, rfl, fenced, hplace⟩ := h.fenced
  have inside : core.Sublist (opens ++ (core ++ closes)) :=
    (List.sublist_append_left core closes).trans (List.sublist_append_right opens _)
  exact ⟨place, hplace, (fenced.placed.liesIn (ordered.sublist inside)).mono inside.subset⟩

/-- One formula has its place in front of that of another. -/
def Precedes (f g : Formula) : Prop :=
  ∃ a b, f.span? = some a ∧ g.span? = some b ∧ a.stop ≤ b.start

/-- The places of some formulas lie within a place, in order and apart. -/
structure Nested (place : Span) (parts : List Formula) : Prop where
  inside : ∀ part ∈ parts, ∃ inner, part.span? = some inner ∧
    place.start ≤ inner.start ∧ inner.stop ≤ place.stop
  apart : parts.Pairwise Precedes

/-- Two operands lie within the place that covers them. -/
theorem nested_pair {f g : Formula} {first second : List Token} {a b : Span}
    (hf : f.span? = some a) (hg : g.span? = some b) (ha : LiesIn first a) (hb : LiesIn second b)
    (apart : ∀ s ∈ first, ∀ t ∈ second, s.span.stop ≤ t.span.start) :
    Nested ⟨a.start, b.stop⟩ [f, g] := by
  have order := ha.stop_le_start hb apart
  have left := ha.nonempty
  have right := hb.nonempty
  refine ⟨List.forall_mem_cons.2 ⟨⟨a, hf, Nat.le_refl _, ?_⟩, List.forall_mem_singleton.2
    ⟨b, hg, ?_, Nat.le_refl _⟩⟩, List.pairwise_pair.2 ⟨a, b, hf, hg, order⟩⟩
  · dsimp only
    omega
  · dsimp only
    omega

theorem Separated.pairwise {R : Token → Token → Prop} {parts : List (List Token)}
    {tokens : List Token} (h : Separated parts tokens) (pairwise : tokens.Pairwise R) :
    parts.Pairwise fun first second => ∀ s ∈ first, ∀ t ∈ second, R s t := by
  induction h with
  | none => exact .nil
  | last tokens => exact List.pairwise_singleton _ _
  | @more first next rest tokens comma symbol later ih =>
    obtain ⟨-, others, apart⟩ := List.pairwise_append.1 pairwise
    refine List.pairwise_cons.2 ⟨fun part member s hs t ht => ?_, ih (List.pairwise_cons.1 others).2⟩
    exact apart s hs t (.tail _ ((later.isInfix part member).subset ht))

/-- Arguments lie within the place of their call. -/
theorem nested_arguments {word closing : Token} {between : List Token}
    {args : List (List Token × Formula)} (ordered : InOrder (word :: (between ++ [closing])))
    (each : ∀ arg ∈ args, arg.1 ⊆ between ∧
      ∃ place, arg.2.span? = some place ∧ LiesIn arg.1 place)
    (apart : (args.map Prod.fst).Pairwise fun first second =>
      ∀ s ∈ first, ∀ t ∈ second, s.span.stop ≤ t.span.start) :
    Nested ⟨word.span.start, closing.span.stop⟩ (args.map Prod.snd) := by
  obtain ⟨front, behind⟩ := List.pairwise_cons.1 ordered.apart
  obtain ⟨-, -, back⟩ := List.pairwise_append.1 behind
  constructor
  · refine List.forall_mem_map.2 fun arg member => ?_
    obtain ⟨among, place, hplace, lies⟩ := each arg member
    obtain ⟨s, hs, start⟩ := lies.start
    obtain ⟨t, ht, stop⟩ := lies.stop
    have low := front s (List.mem_append_left _ (among hs))
    have high := back t (among ht) closing (.head _)
    have first := ordered.nonempty word (.head _)
    have last := ordered.nonempty closing (by simp)
    refine ⟨place, hplace, ?_, ?_⟩
    · dsimp only
      omega
    · dsimp only
      omega
  · rw [List.pairwise_map] at apart ⊢
    refine apart.imp_of_mem fun {arg other} hmem hmem' before => ?_
    obtain ⟨-, a, ha, lies⟩ := each arg hmem
    obtain ⟨-, b, hb, lies'⟩ := each other hmem'
    exact ⟨a, b, ha, hb, lies.stop_le_start lies' before⟩

/-- The parts of a formula lie within its place. -/
theorem Spells.nested {category : Category} {tokens : List Token} {f : Formula}
    (h : Spells category tokens f) (ordered : InOrder tokens) :
    ∃ place, f.span? = some place ∧ Nested place f.parts := by
  induction h with
  | number symbol => exact ⟨_, rfl, nofun, .nil⟩
  | parameter symbol => exact ⟨_, rfl, nofun, .nil⟩
  | @call word opening closing name inside args named opens separated each closes ih =>
    have within : inside.Sublist (word :: opening :: (inside ++ [closing])) :=
      ((List.sublist_append_left inside _).cons _).cons _
    have whole : InOrder (word :: (opening :: inside ++ [closing])) := ordered
    refine ⟨_, rfl, nested_arguments whole (fun arg member => ?_)
      (separated.pairwise (ordered.apart.sublist within))⟩
    have among := separated.isInfix _ (List.mem_map_of_mem member)
    exact ⟨fun t ht => .tail _ (among.subset ht),
      (each arg member).liesIn (ordered.sublist (among.sublist.trans within))⟩
  | @group opening closing tokens f opens inner closes ih =>
    exact ih (ordered.sublist ((List.sublist_append_left tokens _).cons _))
  | @negation minus tokens f symbol operand ih =>
    obtain ⟨place, hplace, lies⟩ := operand.liesIn (ordered.sublist (List.sublist_cons_self _ _))
    have own := (isPlaceOf_singleton minus).liesIn (ordered.sublist (by simp))
    have apart := (List.pairwise_cons.1 ordered.apart).1
    refine ⟨_, by rw [negate, hplace]; rfl,
      nested_pair rfl hplace own lies (List.forall_mem_singleton.2 apart)⟩
  | @product first second token op f g left symbol hop right ihl ihr
  | @sum first second token op f g left symbol hop right ihl ihr =>
    have behind : second.Sublist (token :: second) := List.sublist_cons_self _ _
    obtain ⟨a, ha, lies⟩ := left.liesIn (ordered.sublist (List.sublist_append_left _ _))
    obtain ⟨b, hb, lies'⟩ :=
      right.liesIn (ordered.sublist (behind.trans (List.sublist_append_right _ _)))
    obtain ⟨-, -, apart⟩ := List.pairwise_append.1 ordered.apart
    exact ⟨_, by rw [join, ha, hb]; rfl,
      nested_pair ha hb lies lies' fun s hs t ht => apart s hs t (.tail _ ht)⟩
  | ofPrimary h ih => exact ih ordered
  | ofUnary h ih => exact ih ordered
  | ofTerm h ih => exact ih ordered

/-- A node that belongs to tokens has a place of theirs, and its parts lie within. -/
theorem StandsIn.nested {tokens : List Token} {g : Formula} (h : StandsIn tokens g)
    (ordered : InOrder tokens) :
    ∃ place, g.span? = some place ∧ LiesIn tokens place ∧ Nested place g.parts := by
  cases h with
  | @minusOne minus member =>
    have own := (isPlaceOf_singleton minus).liesIn
      (ordered.sublist (List.singleton_sublist.2 member))
    exact ⟨minus.span, rfl, own.mono (List.cons_subset.2 ⟨member, List.nil_subset _⟩), nofun, .nil⟩
  | spelled inside spells =>
    have ordered' := ordered.sublist inside.sublist
    obtain ⟨place, hplace, lies⟩ := spells.liesIn ordered'
    obtain ⟨place', hplace', nested⟩ := spells.nested ordered'
    cases hplace.symm.trans hplace'
    exact ⟨place, hplace, lies.mono inside.subset, nested⟩

/-! ### Nodes of a text -/

/-- A word takes up at least one character. -/
theorem Munches.start_lt_stop {offset : Nat} {cs : List Char} {tokens : List Token}
    {failure : Option (Char × Nat)} (h : Munches offset cs tokens failure) :
    ∀ t ∈ tokens, t.symbol ≠ .finish → t.span.start < t.span.stop := by
  induction h with
  | finish => exact List.forall_mem_singleton.2 fun word => absurd rfl word
  | failure => nofun
  | word blank longest later ih =>
    refine List.forall_mem_cons.2 ⟨fun _ => ?_, ih⟩
    have some := List.length_pos_of_ne_nil longest.isWord.ne_nil
    dsimp only [Token.ofWord]
    omega

/-- In a formula that is read from a text every node has a place there of at least one character,
with columns that count from one. The places of its operands or arguments lie within its own, one
behind the other; in a negation the minus one has the place of the minus sign. -/
theorem read_nodes_nested {source : String} {f g : Formula} (success : read source = .ok f)
    (node : f.HasNode g) :
    ∃ place, g.span? = some place ∧ place.start < place.stop ∧ place.stop ≤ source.length ∧
      Span.column place.start = place.start + 1 ∧ Span.column place.stop = place.stop + 1 ∧
      (∀ part ∈ g.parts, ∃ inner, part.span? = some inner ∧
        place.start ≤ inner.start ∧ inner.stop ≤ place.stop) ∧
      g.parts.Pairwise Precedes := by
  obtain ⟨words, length, tokenized, hwords, spelled⟩ := exists_spells_of_read success
  have munches := tokenize_eq_ok_iff_munches.1 tokenized
  obtain ⟨apart, bounds⟩ := munches.ordered
  have among : ∀ t ∈ words, t ∈ words ++ [Token.finishAt length] :=
    fun t member => List.mem_append_left _ member
  have ordered : InOrder words :=
    ⟨apart.sublist (List.sublist_append_left _ _),
      fun t member => munches.start_lt_stop t (among t member) (hwords t member)⟩
  obtain ⟨place, hplace, lies, nested⟩ := (spelled.standsIn g node).nested ordered
  obtain ⟨t, member, stop⟩ := lies.stop
  have high := (bounds t (among t member)).2.2
  rw [Nat.zero_add, String.length_toList, stop] at high
  exact ⟨place, hplace, lies.nonempty, high, rfl, rfl, nested.inside, nested.apart⟩

/-- The call behind a negated group. -/
theorem read_nodes_nested_call :
    ∃ f call, read "-(a + 1) * max(b, 2)" = .ok f ∧ f.HasNode call ∧
      call.parts.length = 2 ∧ call.span? = some ⟨11, 20⟩ ∧
      (∀ part ∈ call.parts, ∃ inner, part.span? = some inner ∧
        11 ≤ inner.start ∧ inner.stop ≤ 20) ∧ call.parts.Pairwise Precedes := by
  obtain ⟨f, hread, call, member, two, place⟩ :=
    exists_of_any_toOption (x := read "-(a + 1) * max(b, 2)")
      (P := fun f => ∃ call ∈ f.parts, call.parts.length = 2 ∧ call.span? = some ⟨11, 20⟩)
      (by decide +kernel)
  have node : f.HasNode call := .within member (.self call)
  obtain ⟨place', hplace', -, -, -, -, inside, apart⟩ := read_nodes_nested hread node
  cases place.symm.trans hplace'
  exact ⟨f, call, hread, node, two, place, inside, apart⟩

end Joinery.Formula
