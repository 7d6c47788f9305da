import Joinery.Proofs.Formula.Moving

/-!
# Blanks between tokens

Blanks that are put into a text between its tokens, before the first one or behind the last one move
the tokens and change nothing else. The longest word at a place goes by the word and the character
behind it, and no word goes on with a blank; what is read goes by the symbols of the tokens.
-/
namespace Joinery.Formula

/-! ### The character behind a word -/

/-- What a word begins with is a word, but for a point alone. -/
theorem IsWord.of_begins {word front : List Char} {symbol : Symbol} (h : IsWord word symbol)
    (begins : front <+: word) (nonempty : front ≠ []) (point : front ≠ ['.']) :
    ∃ symbol', IsWord front symbol' := by
  have whole : ∀ {digits : List Char}, (∀ c ∈ digits, isDigit c = true) → front <+: digits →
      ∃ symbol', IsWord front symbol' :=
    fun all begins => ⟨_, .whole nonempty fun c member => all c (begins.subset member)⟩
  cases h with
  | name letter rest =>
    obtain rfl | ⟨others, rfl, more⟩ := List.prefix_cons_iff.1 begins
    · exact absurd rfl nonempty
    · exact ⟨_, .name letter fun c member => rest c (more.subset member)⟩
  | whole some all => exact whole all begins
  | @decimal digits places some all fraction =>
    -- Cut behind its point a decimal is one still, cut before it is a whole number.
    obtain inside | ⟨behind, rfl⟩ :=
      List.prefix_or_prefix_of_prefix begins (List.prefix_append digits _)
    · exact whole all inside
    · rw [List.prefix_append_right_inj] at begins
      obtain rfl | ⟨others, rfl, more⟩ := List.prefix_cons_iff.1 begins
      · exact whole all (by simp)
      · exact ⟨_, .decimal some all fun c member => fraction c (more.subset member)⟩
  | fraction some all =>
    obtain rfl | ⟨others, rfl, more⟩ := List.prefix_cons_iff.1 begins
    · exact absurd rfl nonempty
    · exact ⟨_, .fraction (by rintro rfl; exact point rfl) fun c member =>
        all c (more.subset member)⟩
  | _ =>
    obtain rfl | ⟨others, rfl, more⟩ := List.prefix_cons_iff.1 begins
    · exact absurd rfl nonempty
    · rw [List.prefix_nil.1 more]
      exact ⟨_, by constructor⟩

/-- Characters with which no word goes on. -/
def endsWord (c : Char) : Bool := !isNameChar c && c != '.'

theorem endsWord_of_isBlank {c : Char} (h : Text.isBlank c = true) : endsWord c = true := by
  have name : isNameChar c = false := by
    cases found : isNameChar c with
    | false => rfl
    | true => cases (isBlank_of_isNameChar found).symm.trans h
  have point : c ≠ '.' := by
    rintro rfl
    cases h
  simp [endsWord, name, point]

/-- Behind its first character a word is letters, digits and points. -/
theorem IsWord.endsWord_eq_false {front more : List Char} {c : Char} {symbol : Symbol}
    (h : IsWord (front ++ c :: more) symbol) (nonempty : front ≠ []) : endsWord c = false := by
  have letters : ∀ {word : List Char}, (∀ d ∈ word, isNameChar d = true) →
      ∀ d ∈ word, endsWord d = false := fun all d member => by simp [endsWord, all d member]
  have digits : ∀ {word : List Char}, (∀ d ∈ word, isDigit d = true) →
      ∀ d ∈ word, endsWord d = false :=
    fun all => letters fun d member => isNameChar_iff.2 (.inr (all d member))
  have point : endsWord '.' = false := rfl
  have inside : c ∈ front ++ c :: more := by simp
  generalize whole : front ++ c :: more = word at h inside
  cases h with
  | name letter rest =>
    exact letters (List.forall_mem_cons.2 ⟨isNameChar_iff.2 (.inl letter),
      fun d member => isNameChar_iff.2 (rest d member)⟩) c inside
  | whole some all => exact digits all c inside
  | decimal some all fraction =>
    obtain front | back := List.mem_append.1 inside
    · exact digits all c front
    · obtain rfl | places := List.mem_cons.1 back
      · exact point
      · exact digits fraction c places
  | fraction some all =>
    obtain rfl | places := List.mem_cons.1 inside
    · exact point
    · exact digits all c places
  | _ =>
    -- A character that stands alone has nothing behind it.
    obtain ⟨none, -⟩ | ⟨-, none⟩ := List.append_eq_singleton_iff.1 whole
    · exact absurd none nonempty
    · cases none

/-- A word stays the longest one when the character behind it stays, or one comes there that ends
words. -/
theorem Longest.of_behind {word rest rest' : List Char} {symbol : Symbol}
    (h : Longest (word ++ rest) word symbol)
    (behind : ∀ c, rest'.head? = some c → endsWord c = true ∨ rest.head? = some c) :
    Longest (word ++ rest') word symbol := by
  refine ⟨h.isWord, List.prefix_append _ _, fun other symbol' isWord front => ?_⟩
  refine Nat.le_of_not_lt fun longer => ?_
  obtain ⟨more, rfl⟩ :=
    List.prefix_of_prefix_length_le (List.prefix_append word rest') front longer.le
  rw [List.prefix_append_right_inj] at front
  cases more with
  | nil => simp at longer
  | cons c more =>
    obtain ⟨tail, rfl⟩ := front
    -- With the old character behind it, there was a longer word before.
    obtain ends | next := behind c rfl
    · cases (isWord.endsWord_eq_false h.isWord.ne_nil).symm.trans ends
    · obtain ⟨tail', rfl⟩ := List.head?_eq_some_iff.1 next
      have begins : word ++ [c] <+: word ++ c :: more := by simp
      have point : word ++ [c] ≠ ['.'] := by
        intro alone
        obtain ⟨none, -⟩ | ⟨-, none⟩ := List.append_eq_singleton_iff.1 alone
        · exact h.isWord.ne_nil none
        · cases none
      obtain ⟨symbol'', longerWord⟩ := isWord.of_begins begins (by simp) point
      have most := h.longest _ _ longerWord (by simp)
      rw [List.length_append] at most
      exact absurd most (Nat.not_succ_le_self _)

/-! ### Putting blanks in -/

/-- A text into which characters are put, `blanks i` before the one at offset `i` and the last ones
at the end. -/
def spread (blanks : Nat → List Char) : Nat → List Char → List Char
  | offset, [] => blanks offset
  | offset, c :: rest => blanks offset ++ c :: spread blanks (offset + 1) rest

/-- A text into which characters are put. -/
def spaced (blanks : Nat → List Char) (source : String) : String :=
  String.ofList (spread blanks 0 source.toList)

/-- How many characters are put in before offsets below `n`. -/
def inserted (blanks : Nat → List Char) (n : Nat) : Nat := ((List.range n).flatMap blanks).length

/-- A token behind what is put in before it. -/
def Token.moved (blanks : Nat → List Char) (t : Token) : Token :=
  { t with span :=
    ⟨t.span.start + inserted blanks (t.span.start + 1),
      t.span.stop + inserted blanks (t.span.start + 1)⟩ }

theorem Token.moved_ofWord (blanks : Nat → List Char) (start : Nat) (symbol : Symbol)
    (word : List Char) : (Token.ofWord start symbol word).moved blanks =
      Token.ofWord (start + inserted blanks (start + 1)) symbol word := by
  simp [Token.moved, Token.ofWord, Nat.add_right_comm]

variable {blanks : Nat → List Char}

theorem inserted_succ (n : Nat) :
    inserted blanks (n + 1) = inserted blanks n + (blanks n).length := by
  simp [inserted, List.range_succ]

/-- With blanks put into it, a gap is one still. -/
theorem spread_gap (blank : ∀ i, ∀ c ∈ blanks i, Text.isBlank c = true) (offset : Nat)
    {gap : List Char} (hgap : ∀ c ∈ gap, Text.isBlank c = true) :
    ∃ wider, (∀ c ∈ wider, Text.isBlank c = true) ∧
      wider.length + inserted blanks offset = gap.length + inserted blanks (offset + gap.length) ∧
      ∀ rest, spread blanks offset (gap ++ rest) =
        wider ++ spread blanks (offset + gap.length) rest := by
  induction gap generalizing offset with
  | nil => exact ⟨[], nofun, by simp, fun _ => rfl⟩
  | cons c gap ih =>
    obtain ⟨own, others⟩ := List.forall_mem_cons.1 hgap
    obtain ⟨wider, hwider, lengths, spread_rest⟩ := ih (offset + 1) others
    have place : offset + 1 + gap.length = offset + (gap.length + 1) := by omega
    refine ⟨blanks offset ++ c :: wider, ?_, ?_, fun rest => ?_⟩
    · exact List.forall_mem_append.2 ⟨blank offset, List.forall_mem_cons.2 ⟨own, hwider⟩⟩
    · rw [inserted_succ, place] at lengths
      simp only [List.length_append, List.length_cons]
      omega
    · rw [List.cons_append, spread, spread_rest, place]
      simp

/-- Where nothing is put in, a text stays as it is. -/
theorem spread_append (offset : Nat) (cs rest : List Char)
    (none : ∀ i, offset ≤ i → i < offset + cs.length → blanks i = []) :
    spread blanks offset (cs ++ rest) = cs ++ spread blanks (offset + cs.length) rest ∧
      inserted blanks (offset + cs.length) = inserted blanks offset := by
  induction cs generalizing offset with
  | nil => exact ⟨rfl, rfl⟩
  | cons c cs ih =>
    have own : blanks offset = [] := none offset (Nat.le_refl _) (by simp)
    have place : offset + 1 + cs.length = offset + (cs.length + 1) := by omega
    obtain ⟨text, count⟩ := ih (offset + 1) fun i low high =>
      none i (by omega) (by simp; omega)
    rw [place] at text count
    constructor
    · rw [List.cons_append, spread, own, text]
      rfl
    · rw [List.length_cons, count, inserted_succ, own]
      rfl

/-- What is put in before a word and not within it. -/
theorem spread_word (offset : Nat) {word : List Char} (nonempty : word ≠ [])
    (inside : ∀ i, offset < i → i < offset + word.length → blanks i = []) (rest : List Char) :
    spread blanks offset (word ++ rest) =
        blanks offset ++ (word ++ spread blanks (offset + word.length) rest) ∧
      inserted blanks (offset + word.length) = inserted blanks (offset + 1) := by
  obtain ⟨c, tail, rfl⟩ := List.exists_cons_of_ne_nil nonempty
  have place : offset + 1 + tail.length = offset + (tail.length + 1) := by omega
  obtain ⟨text, count⟩ := spread_append (offset + 1) tail rest
    fun i low high => inside i low (by simp; omega)
  rw [place] at text count
  rw [List.cons_append, spread, text]
  exact ⟨rfl, count⟩

/-- Behind a word the text goes on as it did, or with a blank. -/
theorem head?_spread (blank : ∀ i, ∀ c ∈ blanks i, Text.isBlank c = true) (offset : Nat)
    (rest : List Char) (c : Char) (next : (spread blanks offset rest).head? = some c) :
    Text.isBlank c = true ∨ rest.head? = some c := by
  have front : ∃ more, spread blanks offset rest = blanks offset ++ more ∧
      more.head? = rest.head? := by
    cases rest with
    | nil => exact ⟨[], (List.append_nil _).symm, rfl⟩
    | cons d rest => exact ⟨_, rfl, rfl⟩
  obtain ⟨more, text, same⟩ := front
  rw [text, List.head?_append] at next
  cases own : (blanks offset).head? with
  | some d =>
    rw [own, Option.some_or] at next
    cases next
    exact .inl (blank offset _ (List.mem_of_mem_head? own))
  | none =>
    rw [own, Option.none_or, same] at next
    exact .inr next

/-! ### Tokens -/

/-- Putting blanks in between the words of a text moves its tokens. -/
theorem Munches.spread (blank : ∀ i, ∀ c ∈ blanks i, Text.isBlank c = true) {offset : Nat}
    {cs : List Char} {tokens : List Token} {failure : Option (Char × Nat)}
    (h : Munches offset cs tokens failure) (success : failure = none)
    (between : ∀ t ∈ tokens, ∀ i, t.span.start < i → i < t.span.stop → blanks i = []) :
    Munches (offset + inserted blanks offset) (Formula.spread blanks offset cs)
      (tokens.map (Token.moved blanks)) none := by
  induction h with
  | @finish offset gap hgap =>
    obtain ⟨wider, hwider, lengths, text⟩ := spread_gap blank offset hgap
    have finished := Munches.finish (offset + inserted blanks offset)
      (List.forall_mem_append.2 ⟨hwider, blank (offset + gap.length)⟩)
    have place : offset + inserted blanks offset + (wider ++ blanks (offset + gap.length)).length =
        offset + gap.length + inserted blanks (offset + gap.length + 1) := by
      rw [inserted_succ, List.length_append]
      omega
    rw [place] at finished
    have whole := text []
    rw [List.append_nil, Formula.spread] at whole
    rw [whole]
    exact finished
  | failure => cases success
  | @word offset gap word rest symbol tokens failure hgap longest later ih =>
    obtain ⟨own, others⟩ := List.forall_mem_cons.1 between
    obtain ⟨wider, hwider, lengths, text⟩ := spread_gap blank offset hgap
    obtain ⟨written, count⟩ :=
      spread_word (offset + gap.length) longest.isWord.ne_nil own rest
    have place : offset + inserted blanks offset + (wider ++ blanks (offset + gap.length)).length =
        offset + gap.length + inserted blanks (offset + gap.length + 1) := by
      rw [inserted_succ, List.length_append]
      omega
    have later' := ih success others
    rw [count, Nat.add_right_comm, ← place] at later'
    have cut := Munches.word (List.forall_mem_append.2 ⟨hwider, blank (offset + gap.length)⟩)
      (longest.of_behind fun c next =>
        (head?_spread blank _ rest c next).imp_left endsWord_of_isBlank) later'
    rw [place] at cut
    rw [text, written, ← List.append_assoc wider, List.map_cons, Token.moved_ofWord]
    exact cut

/-- No word stands for NaN. -/
theorem IsWord.isNaN_eq_false {word : List Char} {x : Binary64} (h : IsWord word (.number x)) :
    x.isNaN = false := by
  have value : ∀ cs, (numberValue cs).isNaN = false := by
    intro cs
    unfold numberValue Reading.double
    dsimp only
    split
    · rfl
    · split
      · rfl
      · split
        · rfl
        · exact Binary64.ofQuotient_isNaN _ _ _
  cases h <;> exact value _

theorem Munches.isNaN_eq_false {offset : Nat} {cs : List Char} {tokens : List Token}
    {failure : Option (Char × Nat)} (h : Munches offset cs tokens failure) {x : Binary64}
    (member : .number x ∈ tokens.map Token.symbol) : x.isNaN = false := by
  induction h with
  | finish => cases List.mem_singleton.1 member
  | failure => cases member
  | @word offset gap word rest symbol tokens failure blank longest later ih =>
    obtain own | others := List.mem_cons.1 member
    · obtain rfl : symbol = .number x := own.symm
      exact longest.isWord.isNaN_eq_false
    · exact ih others

/-- Blanks in a text that is tokenized, none of them within a token, move its tokens by as much as
is put in before them. Both texts are then read as equal formulas, or neither is read and the errors
have the same code. -/
theorem read_spaced (source : String) (tokens : List Token) (blanks : Nat → List Char)
    (tokenized : tokenize source = .ok tokens)
    (blank : ∀ i, ∀ c ∈ blanks i, Text.isBlank c = true)
    (between : ∀ t ∈ tokens, ∀ i, t.span.start < i → i < t.span.stop → blanks i = []) :
    tokenize (spaced blanks source) = .ok (tokens.map (Token.moved blanks)) ∧
      ((∃ f f', read source = .ok f ∧ read (spaced blanks source) = .ok f' ∧ f.same f' = true) ∨
        ∃ e e', read source = .error e ∧ read (spaced blanks source) = .error e' ∧
          e.fault.isReading = true ∧ e'.fault.isReading = true ∧
          e'.fault.code = e.fault.code) := by
  have munches := tokenize_eq_ok_iff_munches.1 tokenized
  have moved : tokenize (spaced blanks source) = .ok (tokens.map (Token.moved blanks)) := by
    have spreads := munches.spread blank rfl between
    rw [tokenize_eq_ok_iff_munches, spaced, String.toList_ofList]
    exact spreads
  refine ⟨moved, ?_⟩
  have keeps : ∀ t, (Token.moved blanks t).symbol = t.symbol := fun _ => rfl
  obtain ⟨words, length, rfl, hwords⟩ := tokenize_finish tokenized
  rw [read_of_tokenize tokenized, read_of_tokenize moved]
  obtain ⟨f, f', success, success', derives, equal⟩ | errors :=
    readTokens_map keeps source (spaced blanks source) hwords
      (rfl : (Token.finishAt length).symbol = .finish)
  · refine .inl ⟨f, f', success, success', same_of_bare_eq derives (fun x member => ?_) equal⟩
    exact munches.isNaN_eq_false (by simp [member])
  · exact .inr errors

/-- A tab and a blank in front of the second argument. -/
theorem read_spaced_call :
    let blanks (i : Nat) : List Char := if i = 6 then ['\t', ' '] else []
    spaced blanks "max(1,a)" = "max(1,\t a)" ∧
      ∃ tokens f f', tokenize "max(1,a)" = .ok tokens ∧
        tokenize (spaced blanks "max(1,a)") = .ok (tokens.map (Token.moved blanks)) ∧
        read "max(1,a)" = .ok f ∧ read (spaced blanks "max(1,a)") = .ok f' ∧ f.same f' = true := by
  intro blanks
  have blank : ∀ i, ∀ c ∈ blanks i, Text.isBlank c = true := by
    intro i c member
    dsimp only [blanks] at member
    split at member
    · obtain rfl | rfl : c = '\t' ∨ c = ' ' := by simpa using member
      · decide
      · decide
    · cases member
  have scanned : (scan "max(1,a)").2 = none := by decide +kernel
  have tokenized := tokenize_eq_ok_iff.2 (Prod.ext_iff.2 ⟨rfl, scanned⟩)
  have between : ∀ t ∈ (scan "max(1,a)").1, ∀ i < t.span.stop, t.span.start < i →
      blanks i = [] := by
    decide +kernel
  obtain ⟨moved, ⟨f, f', success, success', same⟩ | ⟨e, -, failed, -⟩⟩ :=
    read_spaced "max(1,a)" _ blanks tokenized blank fun t member i low high =>
      between t member i high low
  · exact ⟨by decide +kernel, _, f, f', tokenized, moved, success, success', same⟩
  · have readable : (read "max(1,a)").toOption.isSome = true := by decide +kernel
    rw [failed] at readable
    cases readable

end Joinery.Formula
