import Joinery.Proofs.Binding.Dependence
import Joinery.Proofs.Parameter.Histories

/-!
# Looking parameters up by name

A store keeps ids apart, but not names. What is looked up by a name is the first parameter of that
name, while a formula sees the value of the last one. So the two agree exactly if the first and the
last one have the same value, and always in a history where no parameter comes under a name that is
in use.
-/
namespace Joinery

namespace ParameterStore

variable {s : ParameterStore}

/-! ### What formulas see -/

theorem atText?_foldlM_insert {ps : List Parameter} {c c' : Catalogue Value}
    (stored : ps.foldlM (fun c p => c.insert p.name p.value) c = .ok c') (name : String) :
    c'.atText? name = ((lastNamed? ps name).map Parameter.value).or (c.atText? name) := by
  induction ps generalizing c with
  | nil =>
    cases stored
    rfl
  | cons p rest ih =>
    rw [List.foldlM_cons] at stored
    obtain ⟨next, inserted, stored⟩ := bind_eq_ok_iff.1 stored
    rw [ih stored, lastNamed?_or_insert inserted]

theorem atText?_context {c : Catalogue Value} (success : s.context = .ok c) (name : String) :
    c.atText? name = (lastNamed? s.all name).map Parameter.value :=
  (atText?_foldlM_insert success name).trans Option.or_none

theorem exists_foldlM_insert_iff (ps : List Parameter) (c : Catalogue Value) :
    (∃ c', ps.foldlM (fun c p => c.insert p.name p.value) c = .ok c') ↔
      ∀ p ∈ ps, ∃ key, p.name.key = .ok key := by
  induction ps generalizing c with
  | nil => exact iff_of_true ⟨c, rfl⟩ nofun
  | cons p rest ih =>
    rw [List.foldlM_cons, List.forall_mem_cons]
    cases hkey : p.name.key with
    | error cause =>
      rw [Catalogue.insert_of_key_eq_error c hkey]
      exact iff_of_false nofun fun keyed => nomatch keyed.1
    | ok key =>
      obtain ⟨next, inserted⟩ := c.exists_insert hkey p.value
      rw [inserted, ok_bind, ih next]
      exact (and_iff_right ⟨key, rfl⟩).symm

/-! ### The first and the last of a name -/

theorem findNamed?_eq_none_iff (s : ParameterStore) (name : String) :
    s.findNamed? (.text name) = none ↔ lastNamed? s.all name = none := by
  unfold findNamed? lastNamed?
  rw [List.findRev?_eq_find?_reverse, List.find?_eq_none, List.find?_eq_none]
  simp only [List.mem_reverse]

/-- Looking a name up gives a parameter with the value that a formula sees under the name, or
neither gives anything. -/
def LookUpsAgree (s : ParameterStore) (c : Catalogue Value) (name : String) : Prop :=
  (s.findNamed? (.text name)).map Parameter.value = c.atText? name

theorem lookUpsAgree_iff {c : Catalogue Value} (success : s.context = .ok c) (name : String) :
    s.LookUpsAgree c name ↔ ∀ p q, s.findNamed? (.text name) = some p →
      lastNamed? s.all name = some q → p.value = q.value := by
  have absent := s.findNamed?_eq_none_iff name
  unfold LookUpsAgree
  rw [atText?_context success]
  cases first : s.findNamed? (.text name) with
  | none =>
    rw [absent.1 first]
    exact iff_of_true rfl nofun
  | some p =>
    cases last : lastNamed? s.all name with
    | none => exact nomatch first.symm.trans (absent.2 last)
    | some q =>
      rw [Option.map_some, Option.map_some, Option.some.injEq]
      constructor
      · rintro same _ _ ⟨⟩ ⟨⟩
        exact same
      · exact fun same => same p q rfl rfl

/-! ### Histories that keep names apart -/

namespace HasDistinctNames

theorem lastNamed?_eq_findNamed? (h : s.HasDistinctNames) (name : String) :
    lastNamed? s.all name = s.findNamed? (.text name) := by
  cases first : s.findNamed? (.text name) with
  | none => exact (s.findNamed?_eq_none_iff name).1 first
  | some p =>
    have named : p.name.equals (.text name) = true := by simpa using List.find?_some first
    exact (lastNamed?_eq_some_iff h.distinct).2
      ⟨List.mem_of_find?_eq_some first, Value.equals_text_iff.1 named⟩

/-- Where names are distinct, formulas see what is looked up. -/
theorem exists_context (h : s.HasDistinctNames) :
    ∃ c, s.context = .ok c ∧ ∀ name, s.LookUpsAgree c name := by
  obtain ⟨c, success⟩ := (exists_foldlM_insert_iff s.all .empty).2 h.keyed
  refine ⟨c, success, fun name => ?_⟩
  unfold LookUpsAgree
  rw [atText?_context success, h.lastNamed?_eq_findNamed?]

theorem of_labels_eq {s' : ParameterStore} (same : s'.labels = s.labels)
    (h : s.HasDistinctNames) : s'.HasDistinctNames := by
  have names : s'.all.map Parameter.name = s.all.map Parameter.name := by
    rw [map_name_all, map_name_all, same]
  have keyed : ∀ name ∈ s'.all.map Parameter.name, ∃ key, name.key = .ok key := by
    rw [names]
    exact List.forall_mem_map.2 h.keyed
  have distinct : (s'.all.map Parameter.name).Pairwise fun a b => a.equals b = false := by
    rw [names]
    exact List.pairwise_map.2 h.distinct
  exact ⟨fun p member => keyed p.name (List.mem_map_of_mem member), List.pairwise_map.1 distinct⟩

theorem remove {s' : ParameterStore} {id : Value} (h : s.HasDistinctNames)
    (success : s.remove id = .ok s') : s'.HasDistinctNames := by
  obtain ⟨c, erased, made⟩ := bind_eq_ok_iff.1 success
  cases made
  have fewer : c.values.Sublist s.all :=
    ((Catalogue.entries_sublist_erase erased).map Prod.snd).map Prod.snd
  exact ⟨fun p member => h.keyed p (fewer.subset member), h.distinct.sublist fewer⟩

theorem add {s' : ParameterStore} {p : Parameter} (h : s.HasDistinctNames)
    (keyed : ∃ key, p.name.key = .ok key) (free : ∀ q ∈ s.all, q.name.equals p.name = false)
    (success : s.add p = .ok s') : s'.HasDistinctNames := by
  obtain ⟨absent, c, inserted, rfl⟩ := add_eq_ok success
  obtain ⟨k, entries⟩ := Catalogue.entries_insert_of_absent absent inserted
  have more : c.values = s.all ++ [p] := by
    simp [Catalogue.values, Catalogue.entries, Table.values, entries, all]
  refine ⟨?_, ?_⟩
  · unfold all
    rw [more]
    exact List.forall_mem_append.2 ⟨h.keyed, List.forall_mem_singleton.2 keyed⟩
  · unfold all
    rw [more]
    refine List.pairwise_append.2 ⟨h.distinct, List.pairwise_singleton _ _, fun q member => ?_⟩
    exact List.forall_mem_singleton.2 (free q member)

end HasDistinctNames

/-- An operation brings no parameter under a name that another one has. -/
def Operation.BringsFreeNames (s : ParameterStore) : Operation → Prop
  | .add p => (∃ key, p.name.key = .ok key) ∧ ∀ q ∈ s.all, q.name.equals p.name = false
  | .load document => ∀ s', ofValue document = .ok s' → s'.HasDistinctNames
  | _ => True

/-- No operation brings a parameter under a name that another one has at that time. -/
def BringFreeNames : List Operation → ParameterStore → Prop
  | [], _ => True
  | operation :: rest, s => operation.BringsFreeNames s ∧ BringFreeNames rest (operation.apply s)

theorem HasDistinctNames.apply (h : s.HasDistinctNames) {operation : Operation}
    (free : operation.BringsFreeNames s) : (operation.apply s).HasDistinctNames := by
  obtain same | ⟨p, rfl, added⟩ | ⟨id, rfl, removed⟩ | ⟨document, rfl, read⟩ :=
    operation.apply_cases s
  · exact h.of_labels_eq same
  · exact h.add free.1 free.2 added
  · exact h.remove removed
  · exact free _ read

theorem hasDistinctNames_reached {operations : List Operation}
    (free : BringFreeNames operations empty) : (reached operations).HasDistinctNames := by
  have run : ∀ s : ParameterStore, s.HasDistinctNames → BringFreeNames operations s →
      (operations.foldl Operation.apply s).HasDistinctNames := by
    clear free
    induction operations with
    | nil => exact fun s h _ => h
    | cons operation rest ih => exact fun s h free => ih _ (h.apply free.1) free.2
  exact run empty ⟨nofun, .nil⟩ free

/-! ### Histories of any kind -/

/-- In a store that was reached in whatever way, formulas find values exactly if all names are keys.
They see something under a name exactly if looking the name up finds a parameter, and then it is the
value of that one exactly if the first and the last parameter of the name have the same value. Where
no parameter came under a name that was in use, formulas always see what is looked up. -/
theorem lookUpsAgree_reached_iff (operations : List Operation) :
    ((∃ c, (reached operations).context = .ok c) ↔
      ∀ p ∈ (reached operations).all, ∃ key, p.name.key = .ok key) ∧
    (∀ c, (reached operations).context = .ok c → ∀ name : String,
      ((reached operations).findNamed? (.text name) = none ↔ c.atText? name = none) ∧
      ((reached operations).LookUpsAgree c name ↔
        ∀ p q, (reached operations).findNamed? (.text name) = some p →
          lastNamed? (reached operations).all name = some q → p.value = q.value)) ∧
    (BringFreeNames operations empty →
      ∃ c, (reached operations).context = .ok c ∧
        ∀ name, (reached operations).LookUpsAgree c name) := by
  refine ⟨exists_foldlM_insert_iff _ _, fun c success name => ⟨?_, lookUpsAgree_iff success name⟩,
    fun free => (hasDistinctNames_reached free).exists_context⟩
  rw [atText?_context success, Option.map_eq_none_iff]
  exact findNamed?_eq_none_iff _ name

/-- A parameter without bounds. -/
def plain (id name : String) (x : Binary64) : Parameter :=
  ⟨.text id, .text name, .float x, .float (.infinite true), .float (.infinite false), .float 0⟩

/-- A name is taken again once it is free, and the new parameter is set. -/
def renewal : List Operation :=
  [.add (plain "a" "w" 1), .remove (.text "a"), .add (plain "b" "w" 2), .set (.text "b") (.int 3)]

theorem lookUpsAgree_reached_iff_renewal : BringFreeNames renewal empty ∧
    ∃ c, (reached renewal).context = .ok c ∧
      (c.atText? "w").map Value.shown = some "3.0" ∧ (reached renewal).LookUpsAgree c "w" := by
  have free : BringFreeNames renewal empty :=
    ⟨⟨⟨_, rfl⟩, by decide +kernel⟩, trivial, ⟨⟨_, rfl⟩, by decide +kernel⟩, trivial, trivial⟩
  obtain ⟨c, success, agree⟩ := (lookUpsAgree_reached_iff renewal).2.2 free
  refine ⟨free, c, success, ?_, agree "w"⟩
  rw [← agree "w"]
  decide +kernel

/-- Two parameters come under one name. -/
def twins : List Operation := [.add (plain "a" "w" 1), .add (plain "b" "w" 2)]

/-- Of two parameters of one name, the first is looked up, and formulas see the second. -/
theorem not_forall_lookUpsAgree :
    ¬ ∀ (operations : List Operation) (c : Catalogue Value) (name : String),
      (reached operations).context = .ok c → (reached operations).LookUpsAgree c name := by
  intro agree
  obtain ⟨c, success⟩ : ∃ c, (reached twins).context = .ok c := ⟨_, rfl⟩
  have same := agree twins c "w" success
  unfold LookUpsAgree at same
  rw [atText?_context success] at same
  have shown := congrArg (Option.map Value.shown) same
  revert shown
  decide +kernel

end ParameterStore

end Joinery
