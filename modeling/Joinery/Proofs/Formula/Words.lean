import Joinery.Proofs.Formula.Reading

/-!
# Words of formulas

Which words there are, said without the way they are scanned: seven characters that stand alone,
names of letters and digits that begin with a letter, and numbers of digits with a point in front,
within or behind. A text is cut from the left into its longest words with blanks between them;
scanning does this and nothing else, and stops where no word begins.
-/
namespace Joinery.Formula

/-- The patterns: which words there are, and what each one is. -/
inductive IsWord : List Char → Symbol → Prop where
  | plus : IsWord ['+'] (.operator .plus)
  | minus : IsWord ['-'] (.operator .minus)
  | times : IsWord ['*'] (.operator .times)
  | over : IsWord ['/'] (.operator .over)
  | opening : IsWord ['('] .opening
  | closing : IsWord [')'] .closing
  | comma : IsWord [','] .comma
  | name {first : Char} {others : List Char} (letter : isLetter first = true)
      (rest : ∀ c ∈ others, isLetter c = true ∨ isDigit c = true) :
      IsWord (first :: others) (.name (String.ofList (first :: others)))
  | whole {digits : List Char} (some : digits ≠ []) (all : ∀ c ∈ digits, isDigit c = true) :
      IsWord digits (.number (numberValue digits))
  | decimal {digits places : List Char} (some : digits ≠ [])
      (all : ∀ c ∈ digits, isDigit c = true) (fraction : ∀ c ∈ places, isDigit c = true) :
      IsWord (digits ++ '.' :: places) (.number (numberValue (digits ++ '.' :: places)))
  | fraction {places : List Char} (some : places ≠ []) (all : ∀ c ∈ places, isDigit c = true) :
      IsWord ('.' :: places) (.number (numberValue ('.' :: places)))

/-! ### Classes of characters -/

theorem not_isDigit_of_isLetter {c : Char} (h : isLetter c = true) : isDigit c = false := by
  simp only [isLetter, isDigit, Char.le_def, Bool.or_eq_true, Bool.and_eq_true, decide_eq_true_eq,
    beq_iff_eq, Bool.and_eq_false_iff, decide_eq_false_iff_not] at *
  rcases h with (h | h) | rfl
  · right; intro h'; have := UInt32.le_trans h.1 h'; revert this; decide
  · right; intro h'; have := UInt32.le_trans h.1 h'; revert this; decide
  · decide

theorem isNameChar_iff {c : Char} :
    isNameChar c = true ↔ isLetter c = true ∨ isDigit c = true := by
  simp [isNameChar]

/-! ### Numbers -/

theorem isDigit_of_mem_takeWhile {cs : List Char} : ∀ c ∈ cs.takeWhile isDigit, isDigit c = true :=
  List.all_eq_true.1 List.all_takeWhile

/-- Digits, a point and digits at the front are part of the number there. -/
theorem prefix_numberWord_point {digits places rest : List Char}
    (all : ∀ c ∈ digits, isDigit c = true) (fraction : ∀ c ∈ places, isDigit c = true) :
    digits ++ '.' :: places <+: numberWord (digits ++ '.' :: places ++ rest) := by
  have point : isDigit '.' = false := rfl
  have whole : numberWord (digits ++ '.' :: places ++ rest) =
      digits ++ '.' :: places ++ rest.takeWhile isDigit := by
    simp [numberWord, List.takeWhile_append_of_pos all, List.dropWhile_append_of_pos all,
      List.takeWhile_append_of_pos fraction, point]
  exact whole ▸ List.prefix_append ..

/-- Digits at the front are part of the number there. -/
theorem prefix_numberWord {digits rest : List Char} (all : ∀ c ∈ digits, isDigit c = true) :
    digits <+: numberWord (digits ++ rest) := by
  rw [numberWord, List.takeWhile_append_of_pos all, List.append_assoc]
  exact List.prefix_append ..

/-- The number at the front is digits, or digits around a point. -/
theorem numberWord_cases (cs : List Char) :
    (∃ digits rest, cs = digits ++ rest ∧ numberWord cs = digits ∧
        ∀ c ∈ digits, isDigit c = true) ∨
      ∃ digits places rest, cs = digits ++ '.' :: (places ++ rest) ∧
        numberWord cs = digits ++ '.' :: places ∧ (∀ c ∈ digits, isDigit c = true) ∧
        ∀ c ∈ places, isDigit c = true := by
  have split := List.takeWhile_append_dropWhile (p := isDigit) (l := cs)
  by_cases hpoint : ∃ rest, cs.dropWhile isDigit = '.' :: rest
  · obtain ⟨rest, hrest⟩ := hpoint
    refine .inr ⟨cs.takeWhile isDigit, rest.takeWhile isDigit, rest.dropWhile isDigit, ?_,
      by simp [numberWord, hrest], isDigit_of_mem_takeWhile, isDigit_of_mem_takeWhile⟩
    rw [List.takeWhile_append_dropWhile, ← hrest, split]
  · refine .inl ⟨_, _, split.symm, ?_, isDigit_of_mem_takeWhile⟩
    rw [numberWord]
    split
    next rest hrest => exact absurd ⟨rest, hrest⟩ hpoint
    · rw [List.append_nil]

theorem numberWord_prefix (cs : List Char) : numberWord cs <+: cs := by
  rcases numberWord_cases cs with
    ⟨digits, rest, hcs, hword, -⟩ | ⟨digits, places, rest, hcs, hword, -⟩
  · exact ⟨rest, by rw [hword, ← hcs]⟩
  · exact ⟨rest, by rw [hword, hcs]; simp⟩

/-- A number that is not the point alone fits its pattern. -/
theorem isWord_numberWord {cs : List Char} (hnil : numberWord cs ≠ [])
    (hpoint : numberWord cs ≠ ['.']) :
    IsWord (numberWord cs) (.number (numberValue (numberWord cs))) := by
  rcases numberWord_cases cs with
    ⟨digits, rest, -, hword, all⟩ | ⟨digits, places, rest, -, hword, all, fraction⟩
  · rw [hword] at hnil ⊢
    exact .whole hnil all
  · rw [hword] at hpoint ⊢
    cases digits with
    | nil => exact .fraction (by rintro rfl; exact hpoint rfl) fraction
    | cons c digits => exact .decimal (by simp) all fraction

/-! ### The word at the front -/

theorem word?_number {c : Char} {rest : List Char} (h : isDigit c = true ∨ c = '.') :
    word? (c :: rest) =
      if numberWord (c :: rest) = ['.'] then none
      else some (.number (numberValue (numberWord (c :: rest))), numberWord (c :: rest)) := by
  rw [word?, if_pos (by simpa using h)]

theorem word?_name {c : Char} {rest : List Char} (h : isLetter c = true) :
    word? (c :: rest) = some (.name (String.ofList (c :: rest.takeWhile isNameChar)),
      c :: rest.takeWhile isNameChar) := by
  have point : c ≠ '.' := by rintro rfl; cases h
  rw [word?, if_neg (by simp [not_isDigit_of_isLetter h, point]), if_pos h]

/-- What is read at the front fits its pattern. -/
theorem isWord_of_word? {cs word : List Char} {symbol : Symbol}
    (h : word? cs = some (symbol, word)) : IsWord word symbol ∧ word <+: cs := by
  cases cs with
  | nil => cases h
  | cons c rest =>
    by_cases number : isDigit c = true ∨ c = '.'
    · have hnil := word?_ne_nil h
      rw [word?_number number] at h
      split at h
      · cases h
      next hpoint =>
        cases h
        exact ⟨isWord_numberWord hnil hpoint, numberWord_prefix _⟩
    by_cases letter : isLetter c = true
    · rw [word?_name letter] at h
      cases h
      refine ⟨.name letter fun d member => ?_, ?_⟩
      · exact isNameChar_iff.1 (List.all_eq_true.1 List.all_takeWhile d member)
      · exact List.cons_prefix_cons.2 ⟨rfl, List.takeWhile_prefix _⟩
    rw [word?, if_neg (by simpa using number), if_neg letter] at h
    obtain ⟨found, hfound, hs⟩ := Option.map_eq_some_iff.1 h
    cases hs
    refine ⟨?_, List.cons_prefix_cons.2 ⟨rfl, List.nil_prefix⟩⟩
    unfold symbolOf? at hfound
    split at hfound <;> cases hfound <;> constructor

/-- Where a number begins, digits at its front are part of what is read. -/
theorem word?_of_prefix_numberWord {word rest : List Char} {c : Char}
    (begins : isDigit c = true ∨ c = '.') (front : word <+: numberWord (c :: rest))
    (digit : ∃ d ∈ word, isDigit d = true) :
    ∃ found longer, word? (c :: rest) = some (found, longer) ∧ word <+: longer ∧
      (longer = word → found = .number (numberValue word)) := by
  refine ⟨_, _, ?_, front, fun same => by rw [← same]⟩
  rw [word?_number begins, if_neg]
  intro hpoint
  obtain ⟨d, member, hd⟩ := digit
  have member := front.subset member
  rw [hpoint, List.mem_singleton] at member
  subst member
  cases hd

/-- A word at the front of a text is the beginning of what is read there, and it is read as what it
is unless more of the text belongs to it. -/
theorem word?_of_isWord {word cs : List Char} {symbol : Symbol} (h : IsWord word symbol)
    (front : word <+: cs) : ∃ found longer, word? cs = some (found, longer) ∧ word <+: longer ∧
      (longer = word → found = symbol) := by
  obtain ⟨rest, rfl⟩ := front
  cases h with
  | @name first tail letter others =>
    have all : ∀ c ∈ tail, isNameChar c = true := fun c member => isNameChar_iff.2 (others c member)
    have same : (tail ++ rest).takeWhile isNameChar = tail ++ rest.takeWhile isNameChar :=
      List.takeWhile_append_of_pos all
    refine ⟨_, _, word?_name letter, ?_, fun same => by rw [← same]⟩
    rw [List.append_eq, same]
    exact List.cons_prefix_cons.2 ⟨rfl, List.prefix_append ..⟩
  | whole nonempty all =>
    obtain ⟨c, digits, rfl⟩ := List.exists_cons_of_ne_nil nonempty
    have first := all c (by simp)
    exact word?_of_prefix_numberWord (.inl first) (prefix_numberWord all) ⟨c, by simp, first⟩
  | @decimal digits places nonempty all fraction =>
    obtain ⟨c, digits, rfl⟩ := List.exists_cons_of_ne_nil nonempty
    have first := all c (by simp)
    exact word?_of_prefix_numberWord (.inl first) (prefix_numberWord_point all fraction)
      ⟨c, by simp, first⟩
  | @fraction places nonempty all =>
    obtain ⟨c, more, rfl⟩ := List.exists_cons_of_ne_nil nonempty
    have front : [] ++ '.' :: c :: more <+: numberWord ([] ++ '.' :: c :: more ++ rest) :=
      prefix_numberWord_point (by simp) all
    exact word?_of_prefix_numberWord (.inr rfl) front ⟨c, by simp, all c (by simp)⟩
  | _ => exact ⟨_, _, rfl, List.prefix_refl _, fun _ => rfl⟩

/-- A word at the front of a text, and none there is longer. -/
structure Longest (cs word : List Char) (symbol : Symbol) : Prop where
  isWord : IsWord word symbol
  front : word <+: cs
  longest : ∀ other symbol, IsWord other symbol → other <+: cs → other.length ≤ word.length

/-- What is read at the front of a text is the longest word there. -/
theorem word?_eq_some_iff {cs word : List Char} {symbol : Symbol} :
    word? cs = some (symbol, word) ↔ Longest cs word symbol := by
  constructor
  · intro h
    obtain ⟨isWord, front⟩ := isWord_of_word? h
    refine ⟨isWord, front, fun other symbol' hother hfront => ?_⟩
    obtain ⟨found, longer, hfound, hlonger, -⟩ := word?_of_isWord hother hfront
    cases h.symm.trans hfound
    exact hlonger.length_le
  · rintro ⟨isWord, front, longest⟩
    obtain ⟨found, longer, hfound, hlonger, same⟩ := word?_of_isWord isWord front
    obtain ⟨hword, hfront⟩ := isWord_of_word? hfound
    have equal : longer = word :=
      (hlonger.eq_of_length (Nat.le_antisymm hlonger.length_le (longest _ _ hword hfront))).symm
    rw [hfound, same equal, equal]

theorem word?_eq_none_iff {cs : List Char} :
    word? cs = none ↔ ∀ word symbol, IsWord word symbol → ¬ word <+: cs := by
  constructor
  · intro h word symbol isWord front
    obtain ⟨found, longer, hfound, -⟩ := word?_of_isWord isWord front
    cases h.symm.trans hfound
  · intro h
    cases hword : word? cs with
    | none => rfl
    | some found =>
      obtain ⟨isWord, front⟩ := isWord_of_word? hword
      exact absurd front (h _ _ isWord)

/-! ### Scanning -/

/-- The token of a word that starts at a place. -/
def Token.ofWord (start : Nat) (symbol : Symbol) (word : List Char) : Token :=
  ⟨symbol, String.ofList word, ⟨start, start + word.length⟩⟩

/-- Words are cut off the front of a text, each one the longest that there is behind the blanks, up
to the end of the text or to the first character that no word begins with. -/
inductive Munches : Nat → List Char → List Token → Option (Char × Nat) → Prop where
  | finish (offset : Nat) {gap : List Char} (blank : ∀ c ∈ gap, Text.isBlank c = true) :
      Munches offset gap [Token.finishAt (offset + gap.length)] none
  | failure (offset : Nat) {gap rest : List Char} {c : Char}
      (blank : ∀ d ∈ gap, Text.isBlank d = true) (visible : Text.isBlank c = false)
      (none : ∀ word symbol, IsWord word symbol → ¬ word <+: c :: rest) :
      Munches offset (gap ++ c :: rest) [] (some (c, offset + gap.length))
  | word {offset : Nat} {gap word rest : List Char} {symbol : Symbol} {tokens : List Token}
      {failure : Option (Char × Nat)} (blank : ∀ c ∈ gap, Text.isBlank c = true)
      (longest : Longest (word ++ rest) word symbol)
      (later : Munches (offset + gap.length + word.length) rest tokens failure) :
      Munches offset (gap ++ (word ++ rest))
        (Token.ofWord (offset + gap.length) symbol word :: tokens) failure

/-- Letters and digits are not blank. -/
theorem isBlank_of_isNameChar {c : Char} (h : isNameChar c = true) : Text.isBlank c = false := by
  have range : (65 ≤ c.toNat ∧ c.toNat ≤ 122) ∨ (48 ≤ c.toNat ∧ c.toNat ≤ 57) := by
    simp only [isNameChar, isLetter, isDigit, Char.le_def, UInt32.le_iff_toNat_le, Bool.or_eq_true,
      Bool.and_eq_true, decide_eq_true_eq, beq_iff_eq] at h
    rcases h with ((h | h) | rfl) | h
    · exact .inl ⟨Nat.le_trans (by decide) h.1, h.2⟩
    · exact .inl ⟨h.1, Nat.le_trans h.2 (by decide)⟩
    · exact .inl (by decide)
    · exact .inr h
  simp only [Text.isBlank, Bool.or_eq_false_iff, Bool.and_eq_false_iff, decide_eq_false_iff_not,
    beq_eq_false_iff_ne]
  omega

theorem IsWord.ne_nil {word : List Char} {symbol : Symbol} (h : IsWord word symbol) :
    word ≠ [] := by
  cases h with
  | whole nonempty all => exact nonempty
  | decimal nonempty all fraction => simp
  | _ => exact List.cons_ne_nil _ _

/-- No character of a word is blank. -/
theorem IsWord.isBlank_eq_false {word : List Char} {symbol : Symbol} (h : IsWord word symbol) :
    ∀ c ∈ word, Text.isBlank c = false := by
  have digits : ∀ {cs : List Char}, (∀ c ∈ cs, isDigit c = true) →
      ∀ c ∈ cs, Text.isBlank c = false :=
    fun all c member => isBlank_of_isNameChar (isNameChar_iff.2 (.inr (all c member)))
  cases h with
  | name letter rest =>
    exact List.forall_mem_cons.2 ⟨isBlank_of_isNameChar (isNameChar_iff.2 (.inl letter)),
      fun c member => isBlank_of_isNameChar (isNameChar_iff.2 (rest c member))⟩
  | whole nonempty all => exact digits all
  | decimal nonempty all fraction =>
    exact List.forall_mem_append.2 ⟨digits all, List.forall_mem_cons.2 ⟨rfl, digits fraction⟩⟩
  | fraction nonempty all => exact List.forall_mem_cons.2 ⟨rfl, digits all⟩
  | _ => exact List.forall_mem_singleton.2 rfl

/-- No word begins with a blank. -/
theorem IsWord.visible {word : List Char} {symbol : Symbol} (h : IsWord word symbol) :
    ∃ c rest, word = c :: rest ∧ Text.isBlank c = false := by
  obtain ⟨c, rest, rfl⟩ := List.exists_cons_of_ne_nil h.ne_nil
  exact ⟨c, rest, rfl, h.isBlank_eq_false c (.head _)⟩

theorem isBlank_of_mem_takeWhile (cs : List Char) :
    ∀ c ∈ cs.takeWhile Text.isBlank, Text.isBlank c = true :=
  List.all_eq_true.1 List.all_takeWhile

/-- Scanning cuts a text as said. -/
theorem munches_scanFrom (offset : Nat) (cs : List Char) :
    Munches offset cs (scanFrom offset cs).1 (scanFrom offset cs).2 := by
  fun_induction scanFrom offset cs with
  | case1 offset cs blanks start hrest =>
    have whole := List.takeWhile_append_dropWhile (p := Text.isBlank) (l := cs)
    have all := isBlank_of_mem_takeWhile cs
    rw [hrest, List.append_nil] at whole
    have finished := Munches.finish offset all
    rwa [← whole]
  | case2 offset cs blanks start c rest hrest hword =>
    have whole := List.takeWhile_append_dropWhile (p := Text.isBlank) (l := cs)
    rw [hrest] at whole
    have visible : Text.isBlank c = false := by
      simpa [hrest] using List.head?_dropWhile_not Text.isBlank cs
    have all := isBlank_of_mem_takeWhile cs
    have failed := Munches.failure offset all visible (word?_eq_none_iff.1 hword)
    rwa [whole] at failed
  | case3 offset cs blanks start c rest hrest symbol word hword stop tokens failure heq ih =>
    have whole := List.takeWhile_append_dropWhile (p := Text.isBlank) (l := cs)
    obtain ⟨more, hmore⟩ := (isWord_of_word? hword).2
    have longest := word?_eq_some_iff.1 hword
    rw [heq] at ih
    rw [hrest, ← hmore] at whole
    rw [← hmore] at longest
    rw [← hmore, List.drop_left] at ih
    have cut := Munches.word (isBlank_of_mem_takeWhile cs) longest ih
    rwa [whole] at cut

/-- Blanks end where something visible begins. -/
theorem takeWhile_blank {gap : List Char} (rest : List Char)
    (blank : ∀ c ∈ gap, Text.isBlank c = true)
    (visible : ∀ c, rest.head? = some c → Text.isBlank c = false) :
    (gap ++ rest).takeWhile Text.isBlank = gap ∧ (gap ++ rest).dropWhile Text.isBlank = rest := by
  rw [List.takeWhile_append_of_pos blank, List.dropWhile_append_of_pos blank]
  cases rest with
  | nil => simp
  | cons c rest => simp [visible c rfl]

/-- There is only one way to cut a text so. -/
theorem scanFrom_of_munches {offset : Nat} {cs : List Char} {tokens : List Token}
    {failure : Option (Char × Nat)} (h : Munches offset cs tokens failure) :
    scanFrom offset cs = (tokens, failure) := by
  induction h with
  | @finish offset gap blank =>
    obtain ⟨taken, dropped⟩ := takeWhile_blank [] blank (by simp)
    rw [List.append_nil] at taken dropped
    rw [scanFrom]
    split
    · rw [taken]
    next hrest => cases dropped.symm.trans hrest
  | @failure offset gap rest c blank visible none =>
    obtain ⟨taken, dropped⟩ := takeWhile_blank (c :: rest) blank (by simpa using visible)
    rw [scanFrom]
    split
    next hrest => cases dropped.symm.trans hrest
    next d more hrest =>
      cases dropped.symm.trans hrest
      split
      · rw [taken]
      next hword => cases (word?_eq_none_iff.2 none).symm.trans hword
  | @word offset gap word rest symbol tokens failure blank longest later ih =>
    obtain ⟨c, tail, rfl, visible⟩ := longest.isWord.visible
    obtain ⟨taken, dropped⟩ :=
      takeWhile_blank (c :: tail ++ rest) blank (by simpa using visible)
    rw [scanFrom]
    split
    next hrest => cases dropped.symm.trans hrest
    next d more hrest =>
      cases dropped.symm.trans hrest
      split
      next hword => cases (word?_eq_some_iff.2 longest).symm.trans hword
      next hword =>
        cases (word?_eq_some_iff.2 longest).symm.trans hword
        have behind : (c :: tail ++ rest).drop (c :: tail).length = rest := List.drop_left
        rw [List.cons_append] at behind
        simp only [taken, List.append_eq, behind, ih, Token.ofWord]

/-! ### What the tokens of a text make up -/

/-- A token with the blanks before it. -/
structure Piece where
  gap : List Char
  token : Token

/-- The characters that a piece stands for. -/
def Piece.written (p : Piece) : List Char := p.gap ++ p.token.lexeme.toList

theorem Piece.written_ofWord (gap : List Char) (start : Nat) (symbol : Symbol)
    (word : List Char) : Piece.written ⟨gap, Token.ofWord start symbol word⟩ = gap ++ word := by
  simp [Piece.written, Token.ofWord]

/-- Pieces make up a text from an offset on, and each token knows where its lexeme stands. -/
structure Tiles (offset : Nat) (cs : List Char) (pieces : List Piece) : Prop where
  text : pieces.flatMap Piece.written = cs
  blank : ∀ p ∈ pieces, ∀ c ∈ p.gap, Text.isBlank c = true
  start : ∀ before p after, pieces = before ++ p :: after →
    p.token.span.start = offset + (before.flatMap Piece.written).length + p.gap.length
  stop : ∀ p ∈ pieces, p.token.span.stop = p.token.span.start + p.token.lexeme.length

theorem Tiles.nil (offset : Nat) : Tiles offset [] [] :=
  ⟨rfl, by simp, by simp, by simp⟩

theorem Tiles.cons {offset : Nat} {cs : List Char} {pieces : List Piece} {p : Piece}
    (blank : ∀ c ∈ p.gap, Text.isBlank c = true)
    (start : p.token.span.start = offset + p.gap.length)
    (stop : p.token.span.stop = p.token.span.start + p.token.lexeme.length)
    (later : Tiles (offset + p.written.length) cs pieces) :
    Tiles offset (p.written ++ cs) (p :: pieces) := by
  refine ⟨by rw [List.flatMap_cons, later.text], List.forall_mem_cons.2 ⟨blank, later.blank⟩, ?_,
    List.forall_mem_cons.2 ⟨stop, later.stop⟩⟩
  intro before q after split
  cases before with
  | nil =>
    cases split
    simpa using start
  | cons first before =>
    cases split
    rw [later.start before q after rfl, List.flatMap_cons, List.length_append]
    omega

/-- The tokens of a text, with the blanks between them, make it up. -/
theorem Munches.tiles {offset : Nat} {cs : List Char} {tokens : List Token}
    {failure : Option (Char × Nat)} (h : Munches offset cs tokens failure)
    (success : failure = none) :
    ∃ pieces words, tokens = pieces.map Piece.token ∧ Tiles offset cs pieces ∧
      tokens = words ++ [Token.finishAt (offset + cs.length)] ∧
      ∀ t ∈ words, t.symbol ≠ .finish := by
  induction h with
  | @finish offset gap blank =>
    let last := Token.finishAt (offset + gap.length)
    refine ⟨[⟨gap, last⟩], [], rfl, ?_, rfl, by simp⟩
    have tiles := Tiles.cons (p := ⟨gap, last⟩) blank rfl rfl (.nil _)
    simpa [Piece.written, last, Token.finishAt] using tiles
  | failure => cases success
  | @word offset gap word rest symbol tokens failure blank longest later ih =>
    obtain ⟨pieces, words, hpieces, tiles, hlast, hwords⟩ := ih success
    let token := Token.ofWord (offset + gap.length) symbol word
    refine ⟨⟨gap, token⟩ :: pieces, token :: words, ?_, ?_, ?_, ?_⟩
    · rw [hpieces, List.map_cons]
    · have written := Piece.written_ofWord gap (offset + gap.length) symbol word
      rw [Nat.add_assoc, ← List.length_append, ← written] at tiles
      have stop : token.span.stop = token.span.start + token.lexeme.length := by
        simp [token, Token.ofWord]
      rw [← List.append_assoc, ← written]
      exact tiles.cons blank rfl stop
    · rw [hlast]
      simp [token, Nat.add_assoc]
    · exact List.forall_mem_cons.2 ⟨word?_ne_finish (word?_eq_some_iff.2 longest), hwords⟩

/-- Tokens stand in the text one behind the other. -/
theorem Munches.ordered {offset : Nat} {cs : List Char} {tokens : List Token}
    {failure : Option (Char × Nat)} (h : Munches offset cs tokens failure) :
    tokens.Pairwise (fun a b => a.span.stop ≤ b.span.start) ∧
      ∀ t ∈ tokens, offset ≤ t.span.start ∧ t.span.start ≤ t.span.stop ∧
        t.span.stop ≤ offset + cs.length := by
  induction h with
  | finish blank => simp [Token.finishAt]
  | failure => simp
  | @word offset gap word rest symbol tokens failure blank longest later ih =>
    obtain ⟨pairwise, inside⟩ := ih
    refine ⟨List.pairwise_cons.2 ⟨fun t member => (inside t member).1, pairwise⟩,
      List.forall_mem_cons.2 ⟨?_, fun t member => ?_⟩⟩
    · simp only [Token.ofWord, List.length_append]
      omega
    · have := inside t member
      simp only [List.length_append]
      omega

/-- The character that no word begins with stands in the text. -/
theorem Munches.getElem?_failure {offset : Nat} {cs : List Char} {tokens : List Token}
    {failure : Option (Char × Nat)} (h : Munches offset cs tokens failure) {c : Char}
    {position : Nat} (hfailure : failure = some (c, position)) :
    offset ≤ position ∧ cs[position - offset]? = some c := by
  induction h with
  | finish => cases hfailure
  | failure =>
    cases hfailure
    simp
  | @word offset gap word rest symbol tokens failure blank longest later ih =>
    obtain ⟨hle, hc⟩ := ih hfailure
    refine ⟨by omega, ?_⟩
    rw [← List.append_assoc, List.getElem?_append_right (by simp; omega), ← hc]
    congr 1
    simp
    omega

theorem scan_eq_iff {source : String} {tokens : List Token} {error : Option Error} :
    scan source = (tokens, error) ↔ ∃ failure, Munches 0 source.toList tokens failure ∧
      error = failure.map fun (c, position) => unexpectedCharacter source c position := by
  rw [scan, Prod.mk.injEq]
  constructor
  · rintro ⟨rfl, rfl⟩
    exact ⟨_, munches_scanFrom 0 source.toList, rfl⟩
  · rintro ⟨failure, munches, rfl⟩
    rw [scanFrom_of_munches munches]
    exact ⟨rfl, rfl⟩

/-- A text is tokenized exactly as its words are. -/
theorem tokenize_eq_ok_iff_munches {source : String} {tokens : List Token} :
    tokenize source = .ok tokens ↔ Munches 0 source.toList tokens none := by
  rw [tokenize_eq_ok_iff, scan_eq_iff]
  constructor
  · rintro ⟨failure, munches, hnone⟩
    rwa [Option.map_eq_none_iff.1 hnone.symm] at munches
  · exact fun munches => ⟨none, munches, rfl⟩

theorem tokenize_eq_error_iff {source : String} {error : Error} :
    tokenize source = .error error ↔ ∃ tokens, scan source = (tokens, some error) := by
  rw [tokenize]
  split
  next heq => simp [heq]
  next heq => simp [heq]

/-- A text is cut into its leftmost longest words. Where that succeeds the tokens and the blanks
between them make up the text, and one token marks its end; it fails where no word begins, and the
tokens before that place are those that a scan gives on its way. -/
theorem tokenize_munches (source : String) :
    (∀ tokens, tokenize source = .ok tokens ↔ Munches 0 source.toList tokens none) ∧
    (∀ error, tokenize source = .error error ↔ ∃ tokens c position,
      Munches 0 source.toList tokens (some (c, position)) ∧
        error = unexpectedCharacter source c position) ∧
    (∀ tokens error, scan source = (tokens, error) ↔ ∃ failure,
      Munches 0 source.toList tokens failure ∧
        error = failure.map fun (c, position) => unexpectedCharacter source c position) ∧
    (∀ tokens c position, Munches 0 source.toList tokens (some (c, position)) →
      source.toList[position]? = some c ∧
      (unexpectedCharacter source c position).fault.code = "E001" ∧
      (unexpectedCharacter source c position).span = some ⟨position, position + 1⟩) ∧
    (∀ tokens, Munches 0 source.toList tokens none →
      ∃ pieces words, tokens = pieces.map Piece.token ∧ Tiles 0 source.toList pieces ∧
        (∀ t ∈ tokens, t.span.columns = s!"{t.span.start + 1}-{t.span.stop + 1}") ∧
        tokens = words ++ [Token.finishAt source.length] ∧ ∀ t ∈ words, t.symbol ≠ .finish) := by
  refine ⟨fun tokens => tokenize_eq_ok_iff_munches, fun error => ?_,
    fun tokens error => scan_eq_iff, fun tokens c position munches => ?_,
    fun tokens munches => ?_⟩
  · simp only [tokenize_eq_error_iff, scan_eq_iff]
    constructor
    · rintro ⟨tokens, failure, munches, hsome⟩
      obtain ⟨⟨c, position⟩, rfl, rfl⟩ := Option.map_eq_some_iff.1 hsome.symm
      exact ⟨tokens, c, position, munches, rfl⟩
    · rintro ⟨tokens, c, position, munches, rfl⟩
      exact ⟨tokens, _, munches, rfl⟩
  · exact ⟨(munches.getElem?_failure rfl).2, rfl, rfl⟩
  · obtain ⟨pieces, words, hpieces, tiles, hlast, hwords⟩ := munches.tiles rfl
    rw [Nat.zero_add, String.length_toList] at hlast
    exact ⟨pieces, words, hpieces, tiles, fun _ _ => rfl, hlast, hwords⟩

end Joinery.Formula
