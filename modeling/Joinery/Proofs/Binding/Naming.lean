import Joinery.Proofs.Binding.LookUps
import Joinery.Proofs.Formula.Wording

/-!
# Formulas that are names

A text that holds a name, with blanks and parentheses around it, is read as the parameter of that
name. The name is one word, however it goes on, and nothing opens behind it, so it is never taken for
a call, not even where a function has that name. Where names are distinct, such a formula therefore
resolves as the parameter itself does that is bound by its id.
-/
namespace Joinery

namespace Formula

/-- A text is a letter with letters and digits behind it. -/
def IsIdentifier (name : String) : Prop :=
  ∃ first others, name.toList = first :: others ∧ isLetter first = true ∧
    ∀ c ∈ others, isNameChar c = true

/-- A text with blanks and parentheses around it, in whatever order. -/
inductive Wrapped (text : List Char) : List Char → Prop where
  | bare : Wrapped text text
  | before {c : Char} {cs : List Char} (blank : Text.isBlank c = true) (inner : Wrapped text cs) :
      Wrapped text (c :: cs)
  | behind {c : Char} {cs : List Char} (blank : Text.isBlank c = true) (inner : Wrapped text cs) :
      Wrapped text (cs ++ [c])
  | grouped {cs : List Char} (inner : Wrapped text cs) : Wrapped text ('(' :: (cs ++ [')']))

/-- A name is one word. -/
theorem IsIdentifier.worded {name : String} (identifier : IsIdentifier name) :
    Worded name.toList [.name name] := by
  obtain ⟨first, others, letters, letter, rest⟩ := identifier
  have isWord : IsWord name.toList (.name name) := by
    have word := IsWord.name letter fun c member => isNameChar_iff.1 (rest c member)
    rwa [← letters, String.ofList_toList] at word
  have longest : Longest (name.toList ++ []) name.toList (.name name) := by
    rw [List.append_nil]
    exact ⟨isWord, List.prefix_refl _, fun _ _ _ front => front.length_le⟩
  have whole : Worded ([] ++ (name.toList ++ [])) [.name name] :=
    .word nofun longest (.finish nofun)
  rwa [List.nil_append, List.append_nil] at whole

/-- What is around a name leaves what it stands for. -/
theorem Wrapped.derives {name : String} (identifier : IsIdentifier name) {cs : List Char}
    (wrapped : Wrapped name.toList cs) :
    ∃ symbols, Worded cs symbols ∧ Derives .sum symbols (.parameter name none) := by
  induction wrapped with
  | bare =>
    exact ⟨_, identifier.worded, Derives.toSum (Derives.toTerm (.primary (.parameter name)))⟩
  | @before c cs blank _ ih =>
    obtain ⟨symbols, worded, derives⟩ := ih
    exact ⟨symbols, worded.behind_blanks (List.forall_mem_singleton.2 blank), derives⟩
  | @behind c cs blank _ ih =>
    obtain ⟨symbols, worded, derives⟩ := ih
    have gap : Worded [c] [] := .finish (List.forall_mem_singleton.2 blank)
    have later := worded.append gap fun d next =>
      Option.some.inj next ▸ endsWord_of_isBlank blank
    rw [List.append_nil] at later
    exact ⟨symbols, later, derives⟩
  | @grouped cs _ ih =>
    obtain ⟨symbols, worded, derives⟩ := ih
    have last : Worded [')'] [.closing] := Worded.closing (.finish nofun)
    have later := worded.append last fun d next => Option.some.inj next ▸ rfl
    exact ⟨_, later.opening, Derives.toSum (Derives.toTerm (.primary (.group derives)))⟩

/-- A name with blanks and parentheses around it is read as the parameter of that name. -/
theorem read_of_wrapped {name source : String} (identifier : IsIdentifier name)
    (wrapped : Wrapped name.toList source.toList) :
    ∃ span, read source = .ok (.parameter name span) := by
  obtain ⟨f, success, same⟩ := read_iff_worded.2 (wrapped.derives identifier)
  cases f with
  | parameter other span =>
    cases same
    exact ⟨span, success⟩
  | number | binary | call | foreign => cases same

end Formula

namespace Binding

open ParameterStore

variable {s : ParameterStore} {p : Parameter} {name : String} {x : Binary64}

/-- The value of a name that one parameter has. -/
theorem evaluateIn_parameter (distinct : s.HasDistinctNames) (member : p ∈ s.all)
    (named : p.name = .text name) (valued : p.value = .float x) (functions : Formula.Functions)
    (span : Option Formula.Span) :
    evaluateIn functions s (.parameter name span) = pure (.float x) := by
  have only := (lastNamed?_eq_some_iff distinct.distinct).2 ⟨member, named⟩
  have seen : ((lastNamed? s.all name).map Parameter.value).getD .null = .float x := by
    rw [only]
    exact valued
  have answer : Formula.evaluate functions
      (fun name => ((lastNamed? s.all name).map Parameter.value).getD .null)
      (.parameter name span) = pure x := by
    rw [Formula.evaluate, seen]
    rfl
  rw [evaluateIn_eq, distinct.valuesByName_eq]
  exact congrArg (fun value : Outcome Binary64 => (do return .float (← value) : Outcome Value)) answer

/-- In a store that was reached in whatever way, with names that are distinct, take a parameter
whose value is a double, whose name is an identifier, be it that of a function, and whose id is not
NaN. The formula that is its name, with blanks and parentheses around it, resolves to its value as
the binding to its id does, and no notice is given either time. -/
theorem resolve_name_eq_resolve_id (operations : List Operation)
    (distinct : (reached operations).HasDistinctNames) (member : p ∈ (reached operations).all)
    (valued : p.value = .float x) (self : p.id.equals p.id = true) (named : p.name = .text name)
    (identifier : Formula.IsIdentifier name) {source : String}
    (wrapped : Formula.Wrapped name.toList source.toList) {last : Reading?} (fresh : IsFresh last)
    (functions : Formula.Functions) :
    ((expression (.text source) last).resolve ⟨some (reached operations), some functions⟩).outcome =
        ⟨.ok (.float x), []⟩ ∧
      ((parameter p.id).resolve ⟨some (reached operations), some functions⟩).outcome =
        ⟨.ok (.float x), []⟩ := by
  constructor
  · obtain ⟨span, success⟩ := Formula.read_of_wrapped identifier wrapped
    have reads : reading (.text source) last = .ok (.parameter name span) :=
      (reading_eq_readValue fresh).trans success
    dsimp only [resolve]
    rw [reads]
    exact evaluateIn_parameter distinct member named valued functions span
  · dsimp only [resolve, parameterIn]
    rw [(isFiled_reached operations).find?_eq member self, ← valued]
    rfl

/-- A width and a parameter that bears the name of the sine. -/
def sines : List Operation := [.add (plain "a" "w" 1), .add (plain "b" "sin" 2)]

theorem resolve_name_eq_resolve_id_sin :
    ((expression (.text " ( sin ) ") none).resolve
        ⟨some (reached sines), some .builtin⟩).outcome = ⟨.ok (.float 2), []⟩ ∧
      ((parameter (.text "b")).resolve ⟨some (reached sines), some .builtin⟩).outcome =
        ⟨.ok (.float 2), []⟩ := by
  have texts : (reached sines).all.map Parameter.name = ["w", "sin"].map Value.text := rfl
  have distinct : (reached sines).HasDistinctNames := .of_texts texts (by decide)
  have member : plain "b" "sin" 2 ∈ (reached sines).all := .tail _ (.head _)
  have rest : ∀ c ∈ ['i', 'n'], Formula.isNameChar c = true :=
    List.forall_mem_cons.2 ⟨by decide, List.forall_mem_singleton.2 (by decide)⟩
  have identifier : Formula.IsIdentifier "sin" := ⟨'s', ['i', 'n'], rfl, by decide, rest⟩
  have wrapped : Formula.Wrapped "sin".toList " ( sin ) ".toList :=
    .before rfl (.behind rfl (.grouped (.before rfl (.behind rfl .bare))))
  exact resolve_name_eq_resolve_id sines distinct member rfl (by decide) rfl identifier wrapped
    isFresh_none .builtin

end Binding

end Joinery
