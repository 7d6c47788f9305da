import Joinery.Proofs.Binding.Reading
import Joinery.Proofs.Formula.Contexts
import Joinery.Proofs.Formula.Guarded

/-!
# What a formula depends on

A formula that is resolved over a store depends on the parameters that it names, and on nothing
else. Where the names of a store are distinct, the order of its parameters does not matter, nor do
those of other names: they may come, go and change.
-/
namespace Joinery

namespace ParameterStore

/-- Formulas can look every parameter up, and no two of them are of one name. -/
structure HasDistinctNames (s : ParameterStore) : Prop where
  keyed : ∀ p ∈ s.all, ∃ key, p.name.key = .ok key
  distinct : s.all.Pairwise fun p q => p.name.equals q.name = false

/-- The names and values of those parameters whose names are among the given ones. -/
def namedIn (s : ParameterStore) (names : List String) : List (Value × Value) :=
  (s.all.filter fun p => names.any fun name => p.name.equals (.text name)).map
    fun p => (p.name, p.value)

theorem mem_namedIn_iff {s : ParameterStore} {names : List String} {name : String} {v : Value}
    (among : name ∈ names) :
    (.text name, v) ∈ s.namedIn names ↔ ∃ p ∈ s.all, p.name = .text name ∧ p.value = v := by
  simp only [namedIn, List.mem_map, List.mem_filter, List.any_eq_true, Value.equals_text_iff,
    Prod.mk.injEq]
  constructor
  · rintro ⟨p, ⟨member, -⟩, named, valued⟩
    exact ⟨p, member, named, valued⟩
  · rintro ⟨p, member, named, valued⟩
    exact ⟨p, ⟨member, name, among, named⟩, named, valued⟩

theorem mem_of_lastNamed? {ps : List Parameter} {name : String} {p : Parameter}
    (found : lastNamed? ps name = some p) : p ∈ ps ∧ p.name = .text name := by
  rw [lastNamed?, List.findRev?_eq_find?_reverse] at found
  have equal : p.name.equals (.text name) = true := by simpa using List.find?_some found
  exact ⟨List.mem_reverse.1 (List.mem_of_find?_eq_some found), Value.equals_text_iff.1 equal⟩

/-- Where names are distinct, the last parameter of a name is the only one. -/
theorem lastNamed?_eq_some_iff {ps : List Parameter}
    (distinct : ps.Pairwise fun p q => p.name.equals q.name = false) {name : String}
    {p : Parameter} : lastNamed? ps name = some p ↔ p ∈ ps ∧ p.name = .text name := by
  refine ⟨mem_of_lastNamed?, ?_⟩
  rintro ⟨member, named⟩
  induction ps with
  | nil => cases member
  | cons q rest ih =>
    obtain ⟨apart, distinct⟩ := List.pairwise_cons.1 distinct
    rw [lastNamed?_cons]
    cases member with
    | head =>
      -- The last one of a name is found, so the first must be the only one.
      have alone : lastNamed? rest name = none := by
        refine Option.eq_none_iff_forall_ne_some.2 fun other found => ?_
        obtain ⟨member, again⟩ := mem_of_lastNamed? found
        have unequal := apart other member
        rw [named, again, Value.equals_text_iff.2 rfl] at unequal
        cases unequal
      rw [alone, named, Value.equals_text_iff.2 rfl]
      rfl
    | tail _ member =>
      rw [ih distinct member]
      rfl

theorem forM_key_eq_ok {ps : List Parameter} (keyed : ∀ p ∈ ps, ∃ key, p.name.key = .ok key) :
    ps.forM (fun p => discard p.name.key) = .ok () := by
  induction ps with
  | nil => rfl
  | cons p rest ih =>
    obtain ⟨⟨key, hkey⟩, others⟩ := List.forall_mem_cons.1 keyed
    dsimp only [List.forM]
    rw [hkey]
    exact ih others

namespace HasDistinctNames

variable {s t : ParameterStore}

/-- Names that are different texts are distinct. -/
theorem of_texts {names : List String}
    (texts : s.all.map Parameter.name = names.map Value.text) (distinct : names.Nodup) :
    s.HasDistinctNames where
  keyed p member := by
    have named : p.name ∈ names.map Value.text := texts ▸ List.mem_map_of_mem member
    obtain ⟨name, -, same⟩ := List.mem_map.1 named
    rw [← same]
    exact ⟨_, rfl⟩
  distinct := by
    have apart : (names.map Value.text).Pairwise fun a b => a.equals b = false := by
      refine List.pairwise_map.2 (distinct.imp fun {a b} different => ?_)
      rw [← Bool.not_eq_true, Value.equals_text_iff]
      exact fun same => different (Value.text.inj same)
    rw [← texts] at apart
    exact List.pairwise_map.1 apart

theorem valuesByName_eq (h : s.HasDistinctNames) :
    s.valuesByName =
      .ok fun name => ((lastNamed? s.all name).map Parameter.value).getD .null := by
  rw [valuesByName, forM_key_eq_ok h.keyed]
  rfl

/-- Under a name among the given ones, two stores show the same when they have the same parameters
of these names. -/
theorem map_value_lastNamed? (hs : s.HasDistinctNames) (ht : t.HasDistinctNames)
    {names : List String} (same : (s.namedIn names).Perm (t.namedIn names)) {name : String}
    (among : name ∈ names) :
    (lastNamed? s.all name).map Parameter.value = (lastNamed? t.all name).map Parameter.value := by
  have shown : ∀ {u : ParameterStore}, u.HasDistinctNames → ∀ v,
      (lastNamed? u.all name).map Parameter.value = some v ↔
        (.text name, v) ∈ u.namedIn names := by
    intro u hu v
    simp only [mem_namedIn_iff among, Option.map_eq_some_iff, lastNamed?_eq_some_iff hu.distinct,
      and_assoc]
  refine Option.ext fun v => ?_
  rw [shown hs, shown ht, same.mem_iff]

end HasDistinctNames

end ParameterStore

namespace Formula

/-- What was read from a text has names. -/
theorem exists_names_readValue {text : Value} {f : Formula} (success : readValue text = .ok f) :
    ∃ names, f.names = .ok names := by
  cases text with
  | text source =>
    have native : ∀ label, .leave (.foreign label) ∉ visits f :=
      fun label member => grammatical_read success _ member
    exact ⟨_, names_eq_ok native⟩
  | null | bool | int | float | list | object => cases success

end Formula

namespace Binding

open Formula

/-- A formula that keeps a fresh reading resolves alike over two stores of distinct names that have
the same parameters of the names in the formula. -/
theorem resolve_expression_congr {functions : Option Functions} {text : Value} {last : Reading?}
    {s t : ParameterStore} (fresh : IsFresh last) (hs : s.HasDistinctNames)
    (ht : t.HasDistinctNames)
    (same : ∀ f names, readValue text = .ok f → f.names = .ok names →
      (s.namedIn names).Perm (t.namedIn names)) :
    (expression text last).resolve ⟨some s, functions⟩ =
      (expression text last).resolve ⟨some t, functions⟩ := by
  cases functions with
  | none => rfl
  | some functions =>
    dsimp only [resolve]
    rw [reading_eq_readValue fresh]
    cases success : readValue text with
    | error error => rfl
    | ok f =>
      obtain ⟨names, named⟩ := exists_names_readValue success
      have seen := evaluate_congr functions named fun name among =>
        congrArg (Option.getD · .null)
          (hs.map_value_lastNamed? ht (same f names success named) among)
      dsimp only
      rw [evaluateIn_eq, evaluateIn_eq, hs.valuesByName_eq, ht.valuesByName_eq]
      change Resolution.mk (evaluate _ _ f >>= _) _ = Resolution.mk (evaluate _ _ f >>= _) _
      rw [seen]

/-- An evaluation depends on what its context gives to the names of the formula, and on nothing else
in it. Over stores of distinct names, a formula therefore resolves alike when those of its names are
the same, in whatever order: the others may come, go and change. -/
theorem depends_on_names :
    (∀ (functions : Functions) (f : Formula) (names : List String) (context context' : Context),
      f.names = .ok names → (∀ name ∈ names, context name = context' name) →
      evaluate functions context f = evaluate functions context' f) ∧
    ∀ (functions : Option Functions) (text : Value) (last : Reading?) (s t : ParameterStore),
      IsFresh last → s.HasDistinctNames → t.HasDistinctNames →
      (∀ f names, readValue text = .ok f → f.names = .ok names →
        (s.namedIn names).Perm (t.namedIn names)) →
      (expression text last).resolve ⟨some s, functions⟩ =
        (expression text last).resolve ⟨some t, functions⟩ :=
  ⟨fun functions _ _ _ _ named same => evaluate_congr functions named same,
    fun _ _ _ _ _ fresh hs ht same => resolve_expression_congr fresh hs ht same⟩

/-- The store of parameters with these names and values. -/
def storeOf (entries : List (String × Value)) : ParameterStore where
  parameters := entries.foldl (fun c (name, v) =>
    c.insertText name ⟨.text name, .text name, v, .null, .null, .float 0⟩) .empty

/-- The area of a board in two stores: the order of its measures and the third parameter differ. -/
theorem depends_on_names_area :
    let board := storeOf [("width", .float 1), ("depth", .int 7), ("height", .bool true)]
    let panel := storeOf [("height", .bool true), ("screw", .null), ("width", .float 1)]
    let area := expression (.text "width * height") none
    area.resolve ⟨some board, some .builtin⟩ = area.resolve ⟨some panel, some .builtin⟩ ∧
      ∀ f, read "width * height" = .ok f →
        evaluate .builtin (fun name => .text name) f =
          evaluate .builtin (fun name => if name = "depth" then .null else .text name) f := by
  intro board panel area
  have distinct_board : board.HasDistinctNames := by
    have texts : board.all.map Parameter.name = ["width", "depth", "height"].map Value.text := rfl
    exact .of_texts texts (by decide)
  have distinct_panel : panel.HasDistinctNames := by
    have texts : panel.all.map Parameter.name = ["height", "screw", "width"].map Value.text := rfl
    exact .of_texts texts (by decide)
  obtain ⟨f, reads, named⟩ := exists_of_any_toOption (x := read "width * height")
    (P := fun f => f.names = .ok ["width", "height"]) (by decide +kernel)
  constructor
  · refine depends_on_names.2 _ _ _ _ _ isFresh_none distinct_board distinct_panel ?_
    intro g names again namedAgain
    cases reads.symm.trans again
    cases named.symm.trans namedAgain
    exact .swap _ _ _
  · intro g again
    cases reads.symm.trans again
    exact depends_on_names.1 _ f _ _ _ named (by simp)

end Binding

end Joinery
