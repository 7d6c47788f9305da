import Joinery.Proofs.Text.Case
import Joinery.Shape.Figure
import Joinery.Shape.Name
import Mathlib.Data.List.Basic

/-!
# Names of properties and their keys

A property is named by parts that are joined by underscores, and its key in documents is that name
in camel case. Every part begins with a letter and has no capital ones, so the capital letters of a
key tell where its parts begin: the name is read off the key (`snake_camel`), and different
properties have different keys.
-/
namespace Joinery.Shape

/-! ### Parts -/

/-- A part of a name: a small letter, and small letters and digits behind it. -/
def IsPart : List Char → Prop
  | [] => False
  | c :: rest => c.isLower = true ∧ ∀ d ∈ rest, d.isLower = true ∨ d.isDigit = true

instance : DecidablePred IsPart
  | [] => inferInstanceAs (Decidable False)
  | c :: rest =>
    -- a quantifier over characters might be decided by going through all of them
    decidable_of_iff ((c.isLower && rest.all fun d => d.isLower || d.isDigit) = true)
      (by simp [IsPart])

/-- A name of a property: parts that are joined by single underscores, at least one. -/
def IsPropertyName (name : String) : Prop :=
  ∃ parts, parts ≠ [] ∧ (∀ part ∈ parts, IsPart part) ∧ name.toList = ['_'].intercalate parts

/-- A character that a part may go on with has no case to lose. -/
structure IsPlain (c : Char) : Prop where
  ascii : c.toNat < 128
  ne_underscore : c ≠ '_'
  not_capital : ('A' ≤ c && c ≤ 'Z') = false
  toLower : c.toLower = c

theorem isPlain_of_isLower_or_isDigit {c : Char} (goesOn : c.isLower = true ∨ c.isDigit = true) :
    IsPlain c := by
  have ascii := goesOn.elim Text.ascii_of_isLower Text.ascii_of_isDigit
  have plain : c ≠ '_' ∧ ('A' ≤ c && c ≤ 'Z') = false ∧ c.toLower = c :=
    Text.of_ascii (P := fun c => c.isLower = true ∨ c.isDigit = true →
      c ≠ '_' ∧ ('A' ≤ c && c ≤ 'Z') = false ∧ c.toLower = c) (by decide) ascii goesOn
  exact ⟨ascii, plain.1, plain.2.1, plain.2.2⟩

theorem IsPart.isPlain {part : List Char} (isPart : IsPart part) : ∀ c ∈ part, IsPlain c := by
  cases part with
  | nil => exact isPart.elim
  | cons c rest =>
    obtain ⟨small, others⟩ := isPart
    exact List.forall_mem_cons.2 ⟨isPlain_of_isLower_or_isDigit (.inl small), fun d member =>
      isPlain_of_isLower_or_isDigit (others d member)⟩

theorem IsPart.underscore_notMem {part : List Char} (isPart : IsPart part) : '_' ∉ part :=
  fun member => (isPart.isPlain _ member).ne_underscore rfl

theorem map_toLower_of_isPlain {cs : List Char} (plain : ∀ c ∈ cs, IsPlain c) :
    cs.map Char.toLower = cs :=
  (List.map_congr_left fun c member => (plain c member).toLower).trans (List.map_id cs)

/-- The first letter of a part becomes a capital one, and from it the part is found again. -/
theorem capitalize_part {part : List Char} (isPart : IsPart part) :
    ∃ c rest, Text.capitalizeChars part = c :: rest ∧ c.toNat < 128 ∧
      ('A' ≤ c && c ≤ 'Z') = true ∧ (∀ d ∈ rest, IsPlain d) ∧ c.toLower :: rest = part := by
  cases part with
  | nil => exact isPart.elim
  | cons c rest =>
    obtain ⟨first, plain⟩ := List.forall_mem_cons.1 isPart.isPlain
    have capital : c.toUpper.toNat < 128 ∧ ('A' ≤ c.toUpper && c.toUpper ≤ 'Z') = true ∧
        c.toUpper.toLower = c :=
      Text.of_ascii (P := fun c => c.isLower = true → c.toUpper.toNat < 128 ∧
        ('A' ≤ c.toUpper && c.toUpper ≤ 'Z') = true ∧ c.toUpper.toLower = c) (by decide)
        first.ascii isPart.1
    have split : Text.capitalizeChars (c :: rest) = c.toUpper :: rest := by
      rw [Text.capitalizeChars_of_ascii first.ascii fun d member => (plain d member).ascii,
        map_toLower_of_isPlain plain]
    exact ⟨c.toUpper, rest, split, capital.1, capital.2.1, plain, by rw [capital.2.2]⟩

/-! ### Splitting names -/

theorem intercalate_cons (head : List Char) (rest : List (List Char)) :
    ['_'].intercalate (head :: rest) = head ++ rest.flatMap ('_' :: ·) := by
  induction rest generalizing head with
  | nil => simp [List.intercalate]
  | cons next rest ih =>
    have further : ['_'].intercalate (head :: next :: rest) =
        head ++ '_' :: ['_'].intercalate (next :: rest) := by
      simp [List.intercalate]
    rw [further, ih next, List.flatMap_cons]
    rfl

theorem splitWords_ne_nil (cs : List Char) : splitWords cs ≠ [] := by
  cases cs with
  | nil => exact nofun
  | cons c rest =>
    rw [splitWords]
    split
    · exact nofun
    · split <;> exact nofun

theorem splitWords_of_not_mem {cs : List Char} (whole : '_' ∉ cs) : splitWords cs = [cs] := by
  induction cs with
  | nil => rfl
  | cons c rest ih =>
    obtain ⟨first, others⟩ := not_or.1 (mt List.mem_cons.2 whole)
    rw [splitWords, ih others]
    exact if_neg (Ne.symm first)

theorem splitWords_append {cs : List Char} (whole : '_' ∉ cs) (rest : List Char) :
    splitWords (cs ++ '_' :: rest) = cs :: splitWords rest := by
  induction cs with
  | nil =>
    rw [List.nil_append, splitWords]
    split
    · next empty => exact absurd empty (splitWords_ne_nil rest)
    · next words => rw [if_pos rfl, words]
  | cons c cs ih =>
    obtain ⟨first, others⟩ := not_or.1 (mt List.mem_cons.2 whole)
    rw [List.cons_append, splitWords, ih others]
    exact if_neg (Ne.symm first)

/-- Splitting a name at underscores undoes the joining of words. -/
theorem splitWords_intercalate {words : List (List Char)} (nonempty : words ≠ [])
    (whole : ∀ word ∈ words, '_' ∉ word) : splitWords (['_'].intercalate words) = words := by
  cases words with
  | nil => exact absurd rfl nonempty
  | cons head rest =>
    rw [intercalate_cons]
    induction rest generalizing head with
    | nil =>
      rw [List.flatMap_nil, List.append_nil, splitWords_of_not_mem (whole head (.head _))]
    | cons next rest ih =>
      obtain ⟨first, others⟩ := List.forall_mem_cons.1 whole
      rw [List.flatMap_cons, List.cons_append, splitWords_append first, ih next nofun others]

theorem intercalate_splitWords (cs : List Char) : ['_'].intercalate (splitWords cs) = cs := by
  induction cs with
  | nil => rfl
  | cons c rest ih =>
    cases words : splitWords rest with
    | nil => exact absurd words (splitWords_ne_nil rest)
    | cons head others =>
      rw [words, intercalate_cons] at ih
      rw [splitWords, words]
      dsimp only
      split
      · next underscore =>
        rw [intercalate_cons, List.flatMap_cons, List.nil_append, underscore, List.cons_append, ih]
      · rw [intercalate_cons, List.cons_append, ih]

/-- A name is the name of a property if all of its words are parts. -/
theorem isPropertyName_iff {name : String} :
    IsPropertyName name ↔ ∀ word ∈ splitWords name.toList, IsPart word := by
  constructor
  · rintro ⟨parts, nonempty, isPart, joined⟩
    rw [joined, splitWords_intercalate nonempty fun part member =>
      (isPart part member).underscore_notMem]
    exact isPart
  · exact fun isPart =>
      ⟨splitWords name.toList, splitWords_ne_nil _, isPart, (intercalate_splitWords _).symm⟩

instance : DecidablePred IsPropertyName := fun _ => decidable_of_iff' _ isPropertyName_iff

/-! ### Names of keys -/

theorem separate_append_of_isPlain {cs : List Char} (plain : ∀ c ∈ cs, IsPlain c)
    (rest : List Char) : separate (cs ++ rest) = cs ++ separate rest := by
  induction cs with
  | nil => rfl
  | cons c cs ih =>
    obtain ⟨first, others⟩ := List.forall_mem_cons.1 plain
    rw [List.cons_append, separate, first.not_capital, ih others]
    rfl

/-- Each capital letter gets an underscore, which is where a part begins. -/
theorem separate_flatMap_capitalize {parts : List (List Char)}
    (isPart : ∀ part ∈ parts, IsPart part) :
    separate (parts.flatMap Text.capitalizeChars) =
      parts.flatMap fun part => '_' :: Text.capitalizeChars part := by
  induction parts with
  | nil => rfl
  | cons part rest ih =>
    obtain ⟨first, others⟩ := List.forall_mem_cons.1 isPart
    obtain ⟨c, tail, split, -, capital, plain, -⟩ := capitalize_part first
    rw [List.flatMap_cons, List.flatMap_cons, split, List.cons_append, separate, capital,
      if_pos rfl, separate_append_of_isPlain plain, ih others]
    rfl

theorem lowerChars_separated {head : List Char} {rest : List (List Char)}
    (plain : ∀ c ∈ head, IsPlain c) (isPart : ∀ part ∈ rest, IsPart part) :
    Text.lowerChars (head ++ rest.flatMap fun part => '_' :: Text.capitalizeChars part) =
      head ++ rest.flatMap ('_' :: ·) := by
  have ascii : ∀ c ∈ head ++ rest.flatMap fun part => '_' :: Text.capitalizeChars part,
      c.toNat < 128 := by
    intro c member
    obtain inHead | inRest := List.mem_append.1 member
    · exact (plain c inHead).ascii
    · obtain ⟨part, inside, inPart⟩ := List.mem_flatMap.1 inRest
      obtain ⟨first, tail, split, ascii, -, plain, -⟩ := capitalize_part (isPart part inside)
      rw [split] at inPart
      obtain rfl | rfl | inTail := List.mem_cons.1 inPart |>.imp_right List.mem_cons.1
      · decide
      · exact ascii
      · exact (plain c inTail).ascii
  rw [Text.lowerChars_of_ascii ascii, List.map_append, map_toLower_of_isPlain plain,
    List.map_flatMap]
  refine congrArg (head ++ ·) (List.flatMap_congr fun part member => ?_)
  obtain ⟨first, tail, split, -, -, plain, undone⟩ := capitalize_part (isPart part member)
  rw [split, List.map_cons, List.map_cons, map_toLower_of_isPlain plain, undone]
  rfl

/-- The name of a property is read off its key. -/
theorem snake_camel {name : String} (named : IsPropertyName name) : snake (camel name) = name := by
  obtain ⟨parts, nonempty, isPart, joined⟩ := named
  have whole : ∀ part ∈ parts, '_' ∉ part := fun part member =>
    (isPart part member).underscore_notMem
  cases parts with
  | nil => exact absurd rfl nonempty
  | cons head rest =>
    obtain ⟨isHead, others⟩ := List.forall_mem_cons.1 isPart
    have key : camelChars name.toList = head ++ rest.flatMap Text.capitalizeChars := by
      rw [camelChars, joined, splitWords_intercalate nonempty whole]
    have back : snakeChars (head ++ rest.flatMap Text.capitalizeChars) = name.toList := by
      rw [joined, intercalate_cons, ← lowerChars_separated isHead.isPlain others,
        ← separate_flatMap_capitalize others]
      -- the first letter stands apart, for no underscore is put before it
      cases head with
      | nil => exact isHead.elim
      | cons c head =>
        obtain ⟨-, plain⟩ := List.forall_mem_cons.1 isHead.isPlain
        rw [List.cons_append, snakeChars, separate_append_of_isPlain plain]
        rfl
    rw [snake, camel, String.toList_ofList, key, back, String.ofList_toList]

/-- Different properties have different keys. -/
theorem camel_injOn {a b : String} (ha : IsPropertyName a) (hb : IsPropertyName b)
    (same : camel a = camel b) : a = b := by
  rw [← snake_camel ha, same, snake_camel hb]

/-- Names of different properties. -/
def AreProperties (names : List String) : Prop :=
  (∀ name ∈ names, IsPropertyName name) ∧ names.Nodup

instance : DecidablePred AreProperties := fun names =>
  inferInstanceAs (Decidable ((∀ name ∈ names, IsPropertyName name) ∧ names.Nodup))

theorem areProperties_defaults (kind : FigureKind) :
    AreProperties (["id", "type", "bindings"] ++ (Figure.defaults kind).map Prod.fst) := by
  cases kind <;> decide

theorem isPropertyName_of_mem_defaults {kind : FigureKind} {name : String}
    (member : name ∈ (Figure.defaults kind).map Prod.fst) : IsPropertyName name :=
  (areProperties_defaults kind).1 name (List.mem_append_right _ member)

end Joinery.Shape
