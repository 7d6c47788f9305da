import Joinery.Proofs.Formula.Spacing

/-!
# Texts and their symbols

Which symbols a text is cut into, without the places of its words. Texts can be put one behind the
other where no word goes on, and be cut where a token starts or stops; what a text is read as goes
by its symbols alone.
-/
namespace Joinery.Formula

/-- A text and the symbols of its words, each one the longest that there is behind the blanks. -/
inductive Worded : List Char → List Symbol → Prop where
  | finish {gap : List Char} (blank : ∀ c ∈ gap, Text.isBlank c = true) : Worded gap []
  | word {gap word rest : List Char} {symbol : Symbol} {symbols : List Symbol}
      (blank : ∀ c ∈ gap, Text.isBlank c = true) (longest : Longest (word ++ rest) word symbol)
      (later : Worded rest symbols) : Worded (gap ++ (word ++ rest)) (symbol :: symbols)

/-- Where a text is cut to its end, the symbols are those of the tokens in front of the last. -/
theorem Munches.worded {offset : Nat} {cs : List Char} {tokens : List Token}
    {failure : Option (Char × Nat)} (h : Munches offset cs tokens failure)
    (success : failure = none) :
    ∃ words, tokens = words ++ [Token.finishAt (offset + cs.length)] ∧
      Worded cs (words.map Token.symbol) := by
  induction h with
  | finish offset blank => exact ⟨[], rfl, .finish blank⟩
  | failure => cases success
  | @word offset gap word rest symbol tokens failure blank longest later ih =>
    obtain ⟨words, rfl, worded⟩ := ih success
    refine ⟨Token.ofWord (offset + gap.length) symbol word :: words, ?_,
      .word blank longest worded⟩
    simp [Nat.add_assoc]

namespace Worded

variable {cs rest : List Char} {symbols more : List Symbol}

/-- The tokens of a text that starts at an offset. -/
theorem munches (h : Worded cs symbols) (offset : Nat) :
    ∃ words length, Munches offset cs (words ++ [Token.finishAt length]) none ∧
      words.map Token.symbol = symbols := by
  induction h generalizing offset with
  | finish blank => exact ⟨[], _, .finish offset blank, rfl⟩
  | @word gap word rest symbol symbols blank longest later ih =>
    obtain ⟨words, length, munches, rfl⟩ := ih (offset + gap.length + word.length)
    exact ⟨_ :: words, length, .word blank longest munches, rfl⟩

theorem ne_finish (h : Worded cs symbols) : ∀ symbol ∈ symbols, symbol ≠ .finish := by
  induction h with
  | finish => nofun
  | word blank longest later ih =>
    exact List.forall_mem_cons.2 ⟨word?_ne_finish (word?_eq_some_iff.2 longest), ih⟩

theorem isNaN_eq_false (h : Worded cs symbols) {x : Binary64} (member : .number x ∈ symbols) :
    x.isNaN = false := by
  induction h with
  | finish => cases member
  | word blank longest later ih =>
    cases member with
    | head => exact longest.isWord.isNaN_eq_false
    | tail _ member => exact ih member

/-! ### Texts one behind the other -/

/-- Blanks in front change nothing. -/
theorem behind_blanks {gap : List Char} (blank : ∀ c ∈ gap, Text.isBlank c = true)
    (h : Worded rest more) : Worded (gap ++ rest) more := by
  cases h with
  | finish blank' => exact .finish (List.forall_mem_append.2 ⟨blank, blank'⟩)
  | word blank' longest later =>
    rw [← List.append_assoc]
    exact .word (List.forall_mem_append.2 ⟨blank, blank'⟩) longest later

/-- Two texts one behind the other, where the last word of the first does not go on. -/
theorem append (h : Worded cs symbols) (later : Worded rest more)
    (ends : ∀ c, rest.head? = some c → endsWord c = true) :
    Worded (cs ++ rest) (symbols ++ more) := by
  induction h with
  | finish blank => exact behind_blanks blank later
  | @word gap word others symbol symbols blank longest _ ih =>
    have next : ∀ c, (others ++ rest).head? = some c →
        endsWord c = true ∨ others.head? = some c := by
      intro c found
      cases others with
      | nil => exact .inl (ends c found)
      | cons d others => exact .inr found
    rw [List.append_assoc, List.append_assoc]
    exact .word blank (longest.of_behind next) ih

/-- A character that stands alone in front of a text. -/
theorem cons {c : Char} {symbol : Symbol} (h : Worded cs symbols)
    (alone : word? (c :: cs) = some (symbol, [c])) : Worded (c :: cs) (symbol :: symbols) := by
  have front : Worded ([] ++ ([c] ++ cs)) (symbol :: symbols) :=
    .word nofun (word?_eq_some_iff.1 alone) h
  exact front

theorem opening (h : Worded cs symbols) : Worded ('(' :: cs) (.opening :: symbols) := h.cons rfl

theorem closing (h : Worded cs symbols) : Worded (')' :: cs) (.closing :: symbols) := h.cons rfl

end Worded

/-! ### Texts cut at a token -/

section

variable {offset : Nat} {cs : List Char} {before after : List Token} {t : Token}
  {failure : Option (Char × Nat)}

/-- A token that does not mark the end is a word behind blanks. -/
theorem Munches.of_cons (h : Munches offset cs (t :: after) failure)
    (more : t.symbol ≠ .finish) :
    ∃ gap word rest, cs = gap ++ (word ++ rest) ∧ (∀ c ∈ gap, Text.isBlank c = true) ∧
      Longest (word ++ rest) word t.symbol ∧
      t = Token.ofWord (offset + gap.length) t.symbol word ∧
      Munches (offset + gap.length + word.length) rest after failure := by
  cases h with
  | finish => exact absurd rfl more
  | word blank longest later => exact ⟨_, _, _, rfl, blank, longest, rfl, later⟩

/-- From the start of a token on, a text has that token and those behind it. -/
theorem Munches.drop (h : Munches offset cs (before ++ t :: after) failure)
    (words : ∀ s ∈ before ++ [t], s.symbol ≠ .finish) :
    Munches t.span.start (cs.drop (t.span.start - offset)) (t :: after) failure := by
  induction before generalizing offset cs with
  | nil =>
    obtain ⟨gap, word, rest, rfl, blank, longest, ht, later⟩ := h.of_cons (words t (.head _))
    have start : t.span.start = offset + gap.length := by rw [ht]; rfl
    have place : t.span.start - offset = gap.length := by omega
    have front : Munches (offset + gap.length) ([] ++ (word ++ rest)) _ failure :=
      .word nofun longest later
    rw [place, List.drop_left, start, ht]
    exact front
  | cons first before ih =>
    obtain ⟨own, others⟩ := List.forall_mem_cons.1 words
    obtain ⟨gap, word, rest, rfl, blank, longest, hfirst, later⟩ := h.of_cons own
    have low := (later.ordered.2 t (by simp)).1
    have place : t.span.start - offset =
        (gap ++ word).length + (t.span.start - (offset + gap.length + word.length)) := by
      rw [List.length_append]
      omega
    rw [place, ← List.append_assoc, List.drop_length_add_append]
    exact ih later others

/-- Up to the stop of a token, a text has that token and those in front of it. -/
theorem Munches.take (h : Munches offset cs (before ++ t :: after) failure)
    (words : ∀ s ∈ before ++ [t], s.symbol ≠ .finish) :
    Worded (cs.take (t.span.stop - offset)) ((before ++ [t]).map Token.symbol) := by
  induction before generalizing offset cs with
  | nil =>
    obtain ⟨gap, word, rest, rfl, blank, longest, ht, later⟩ := h.of_cons (words t (.head _))
    have stop : t.span.stop = offset + gap.length + word.length := by rw [ht]; rfl
    have place : t.span.stop - offset = (gap ++ word).length := by
      rw [List.length_append]
      omega
    have last : Worded (gap ++ (word ++ [])) [t.symbol] :=
      .word blank (longest.of_behind nofun) (.finish nofun)
    rw [place, ← List.append_assoc, List.take_left]
    rwa [List.append_nil] at last
  | cons first before ih =>
    obtain ⟨own, others⟩ := List.forall_mem_cons.1 words
    obtain ⟨gap, word, rest, rfl, blank, longest, hfirst, later⟩ := h.of_cons own
    obtain ⟨low, high, -⟩ := later.ordered.2 t (by simp)
    have place : t.span.stop - offset =
        (gap ++ word).length + (t.span.stop - (offset + gap.length + word.length)) := by
      rw [List.length_append]
      omega
    have next : ∀ c, (rest.take (t.span.stop - (offset + gap.length + word.length))).head? =
        some c → endsWord c = true ∨ rest.head? = some c := by
      intro c found
      rw [List.head?_take] at found
      split at found
      · cases found
      · exact .inr found
    rw [place, ← List.append_assoc, List.take_length_add_append, List.append_assoc]
    exact .word blank (longest.of_behind next) (ih later others)

end

/-! ### Reading -/

/-- The words of a text that is read stand for the formula. -/
theorem exists_worded_of_read {source : String} {f : Formula} (success : read source = .ok f) :
    ∃ words : List Token, Worded source.toList (words.map Token.symbol) ∧ Spells .sum words f := by
  obtain ⟨words, length, tokenized, -, spelled⟩ := exists_spells_of_read success
  obtain ⟨words', same, worded⟩ := (tokenize_eq_ok_iff_munches.1 tokenized).worded rfl
  obtain ⟨rfl, -⟩ := List.append_inj' same rfl
  exact ⟨words, worded, spelled⟩

/-- A text is read as a formula exactly if the grammar derives the formula from its symbols. -/
theorem read_iff_worded {source : String} {meaning : Formula} :
    (∃ f, read source = .ok f ∧ f.bare = meaning) ↔
      ∃ symbols, Worded source.toList symbols ∧ Derives .sum symbols meaning := by
  constructor
  · rintro ⟨f, success, rfl⟩
    obtain ⟨words, worded, spelled⟩ := exists_worded_of_read success
    exact ⟨_, worded, spelled.derives⟩
  · rintro ⟨symbols, worded, derives⟩
    obtain ⟨words, length, munches, rfl⟩ := worded.munches 0
    have hwords : ∀ token ∈ words, token.symbol ≠ .finish :=
      fun token member => worded.ne_finish _ (List.mem_map_of_mem member)
    rw [read_of_tokenize (tokenize_eq_ok_iff_munches.2 munches)]
    exact readTokens_of_derives derives hwords rfl

end Joinery.Formula
