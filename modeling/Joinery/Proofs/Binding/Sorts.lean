import Joinery.Proofs.Binding.Making
import Joinery.Proofs.Catalogue

/-!
# Sorts of bindings that are not registered

A registry is reached by registering sorts of bindings and removing them. It knows its sorts in the
order in which they came: a sort that is registered again keeps its place, and one that had been
removed comes last. A document of nested chains names a sort for each layer and one for the core.
The outermost of these that is not registered ends the reading before any handler is looked at; when
all of them are there, only the factory of the core can find a sort missing.
-/
namespace Joinery.BindingRegistry

open Binding

/-! ### Histories -/

/-- What is done to a registry. What is registered may turn out to be nothing to perform. -/
inductive Edit where
  | register (tag : String) (factory : Option Factory)
  | unregister (tag : String)

/-- The registry after an edit; one that is refused leaves it as it is. -/
def Edit.apply (r : BindingRegistry) : Edit → BindingRegistry
  | .register tag factory =>
    match r.register (.text tag) factory with
    | .ok changed => changed
    | .error _ => r
  | .unregister tag =>
    match r.unregister (.text tag) with
    | .ok (_, changed) => changed
    | .error _ => r

/-- The registry that edits lead to, with a registry of handlers of its own. -/
def reached (handlers : HandlerRegistry) (edits : List Edit) : BindingRegistry :=
  edits.foldl Edit.apply { builtin with handlers }

/-- Sorts with their factories, in the order in which they came. -/
abbrev Roster := List (String × Factory)

/-- An edit of a roster: what is there keeps its place, what is new comes last. -/
def Edit.enter (roster : Roster) : Edit → Roster
  | .register _ none => roster
  | .register tag (some factory) =>
    if tag = "" then roster
    else if tag ∈ roster.map Prod.fst then
      roster.map fun item => if item.1 = tag then (tag, factory) else item
    else roster ++ [(tag, factory)]
  | .unregister tag => roster.filter fun item => item.1 ≠ tag

/-- The sorts that are registered after some edits. -/
def rosterAfter (edits : List Edit) : Roster :=
  edits.foldl Edit.enter
    [("literal", .plain literalOf), ("parameter", .plain parameterOf),
      ("expression", .plain expressionOf), ("processed", .chain)]

/-- The words for these sorts, in order. -/
def tagsAfter (edits : List Edit) : List String := (rosterAfter edits).map Prod.fst

/-! ### What a registry knows -/

variable {r : BindingRegistry} {roster : Roster}

/-- A registry holds the sorts of a roster, in its order. -/
def Lists (r : BindingRegistry) (roster : Roster) : Prop :=
  r.factories.table.entries = roster.map fun item => (.text item.1, .text item.1, item.2)

namespace Lists

theorem keys (lists : r.Lists roster) :
    r.factories.table.keys = roster.map fun item => .text item.1 := by
  rw [Table.keys, lists, List.map_map]
  rfl

theorem mem_keys_iff (lists : r.Lists roster) {tag : String} :
    .text tag ∈ r.factories.table.keys ↔ tag ∈ roster.map Prod.fst := by
  rw [lists.keys, List.mem_map, List.mem_map]
  simp

theorem sorts (lists : r.Lists roster) : r.sorts = (roster.map Prod.fst).map .text := by
  unfold BindingRegistry.sorts Catalogue.keys Catalogue.entries Table.values
  rw [lists]
  simp [Function.comp_def]

theorem textKeys (lists : r.Lists roster) :
    r.factories.textKeys = .ok (roster.map Prod.fst) := by
  have each (tags : List String) : (tags.map Value.text).mapM Value.asText = .ok tags := by
    refine mapM_eq_ok_iff.2 (List.forall₂_map_left_iff.2 ?_)
    exact List.forall₂_same.2 fun _ _ => rfl
  unfold Catalogue.textKeys
  exact (congrArg (List.mapM Value.asText) lists.sorts).trans (each _)

theorem find?_eq_some_iff (lists : r.Lists roster) {tag : String} {factory : Factory} :
    r.factories.find? (.text tag) = .ok (some factory) ↔ (tag, factory) ∈ roster := by
  rw [Catalogue.find?_eq_ok_some_iff lists]
  constructor
  · rintro ⟨_, ⟨⟩, member⟩
    exact member
  · intro member
    exact ⟨tag, rfl, member⟩

theorem find?_eq_none (lists : r.Lists roster) {tag : String} (absent : tag ∉ roster.map Prod.fst) :
    r.factories.find? (.text tag) = .ok none := by
  have looked : r.factories.find? (.text tag) = .ok (r.factories.at? (.text tag)) := rfl
  rw [looked, Catalogue.at?, (Table.find?_eq_none_iff _ _).2 (mt lists.mem_keys_iff.1 absent)]
  rfl

/-- A sort that is there is shown by the word it is registered under. -/
theorem exists_insert (lists : r.Lists roster) (tag : String) (factory : Factory) :
    ∃ factories, r.factories.insert (.text tag) factory = .ok factories ∧
      factories.table = r.factories.table.insert (.text tag) (.text tag, factory) := by
  have shown : ((r.factories.table.find? (.text tag)).map Prod.fst).getD (.text tag) =
      .text tag := by
    cases found : r.factories.table.find? (.text tag) with
    | none => rfl
    | some stored =>
      have member := (Table.find?_eq_some_iff _ _ _).1 found
      rw [lists, List.mem_map] at member
      obtain ⟨item, -, same⟩ := member
      cases same
      rfl
  have inserted : r.factories.insert (.text tag) factory =
      .ok ⟨r.factories.table.insert (.text tag)
        (((r.factories.table.find? (.text tag)).map Prod.fst).getD (.text tag), factory)⟩ := rfl
  rw [shown] at inserted
  exact ⟨_, inserted, rfl⟩

theorem register (lists : r.Lists roster) {tag : String} (nonempty : tag ≠ "")
    (factory : Factory) :
    ((Edit.register tag (some factory)).apply r).Lists
      ((Edit.register tag (some factory)).enter roster) := by
  have truthy : (Value.text tag).isTruthy = true := by simpa [Value.isTruthy] using nonempty
  obtain ⟨factories, success, table⟩ := lists.exists_insert tag factory
  have registered : r.register (.text tag) (some factory) = .ok { r with factories } := by
    simp only [BindingRegistry.register, truthy, success]
    rfl
  dsimp only [Lists, Edit.apply, Edit.enter]
  rw [registered, if_neg nonempty, table]
  split
  · next present =>
    rw [Table.entries_insert_of_mem (lists.mem_keys_iff.2 present), lists, Table.replace,
      List.map_map, List.map_map]
    refine List.map_congr_left fun item _ => ?_
    by_cases same : item.1 = tag <;> simp [same]
  · next absent =>
    rw [Table.entries_insert_of_not_mem (mt lists.mem_keys_iff.1 absent), lists, List.map_append]
    rfl

theorem unregister (lists : r.Lists roster) (tag : String) :
    ((Edit.unregister tag).apply r).Lists ((Edit.unregister tag).enter roster) := by
  have erased : ∃ factories, r.factories.erase (.text tag) = .ok factories ∧
      factories.table.entries =
        r.factories.table.entries.filter fun entry => entry.1 ≠ .text tag := by
    unfold Catalogue.erase
    split
    · next empty =>
      have none : r.factories.table.entries = [] := List.eq_nil_of_length_eq_zero empty
      exact ⟨_, rfl, by rw [none]; rfl⟩
    · exact ⟨_, rfl, rfl⟩
  obtain ⟨factories, success, entries⟩ := erased
  have removed : ∃ there, r.unregister (.text tag) = .ok (there, { r with factories }) := by
    unfold BindingRegistry.unregister
    rw [success]
    exact ⟨_, rfl⟩
  obtain ⟨there, removed⟩ := removed
  dsimp only [Lists, Edit.apply, Edit.enter]
  rw [removed, entries, lists, List.filter_map]
  simp [Function.comp_def]

theorem apply (lists : r.Lists roster) (edit : Edit) :
    (edit.apply r).Lists (edit.enter roster) := by
  cases edit with
  | unregister tag => exact lists.unregister tag
  | register tag factory =>
    cases factory with
    | none =>
      have refused : ∃ failure, r.register (.text tag) none = .error failure := by
        unfold BindingRegistry.register
        split <;> exact ⟨_, rfl⟩
      obtain ⟨failure, refused⟩ := refused
      dsimp only [Edit.apply]
      rw [refused]
      exact lists
    | some factory =>
      by_cases empty : tag = ""
      · subst empty
        exact lists
      · exact lists.register empty factory

end Lists

/-! ### What edits lead to -/

theorem lists_reached (handlers : HandlerRegistry) (edits : List Edit) :
    (reached handlers edits).Lists (rosterAfter edits) := by
  have each (edits : List Edit) : ∀ {r : BindingRegistry} {roster : Roster}, r.Lists roster →
      (edits.foldl Edit.apply r).Lists (edits.foldl Edit.enter roster) := by
    induction edits with
    | nil => exact fun lists => lists
    | cons edit rest ih => exact fun lists => ih (lists.apply edit)
  exact each edits rfl

theorem handlers_apply (r : BindingRegistry) (edit : Edit) :
    (edit.apply r).handlers = r.handlers := by
  cases edit with
  | register tag factory =>
    dsimp only [Edit.apply]
    split
    · next changed success =>
      unfold register at success
      split at success
      · cases success
      · split at success
        · cases success
        · obtain ⟨factories, -, made⟩ := bind_eq_ok_iff.1 success
          cases made
          rfl
    · rfl
  | unregister tag =>
    dsimp only [Edit.apply]
    split
    · next there changed success =>
      obtain ⟨factories, -, made⟩ := bind_eq_ok_iff.1 success
      cases made
      rfl
    · rfl

theorem handlers_reached (handlers : HandlerRegistry) (edits : List Edit) :
    (reached handlers edits).handlers = handlers :=
  List.foldlRecOn edits Edit.apply (motive := fun r => r.handlers = handlers) rfl
    fun r same edit _ => (handlers_apply r edit).trans same

/-- Nothing is registered under the word for chains. -/
def SparesChains (edits : List Edit) : Prop :=
  ∀ tag factory, .register tag factory ∈ edits → tag ≠ "processed"

theorem mem_enter {edit : Edit} {factory : Factory}
    (spared : ∀ tag other, edit = .register tag other → tag ≠ "processed")
    (member : ("processed", factory) ∈ edit.enter roster) : ("processed", factory) ∈ roster := by
  cases edit with
  | unregister tag => exact (List.mem_filter.1 member).1
  | register tag other =>
    have apart : tag ≠ "processed" := spared tag other rfl
    cases other with
    | none => exact member
    | some other =>
      dsimp only [Edit.enter] at member
      split at member
      · exact member
      · split at member
        · obtain ⟨item, old, same⟩ := List.mem_map.1 member
          split at same
          · cases same
            exact absurd rfl apart
          · exact same ▸ old
        · obtain old | new := List.mem_append.1 member
          · exact old
          · cases List.mem_singleton.1 new
            exact absurd rfl apart

/-- Where nothing else is registered under their word, chains are made by the registry itself. -/
theorem eq_chain_of_mem {edits : List Edit} (spared : SparesChains edits) {factory : Factory}
    (member : ("processed", factory) ∈ rosterAfter edits) : factory = .chain := by
  revert member
  refine List.foldlRecOn edits Edit.enter
    (motive := fun roster => ("processed", factory) ∈ roster → factory = .chain) (by simp)
    fun roster own edit member new => own (mem_enter (fun tag other same => ?_) new)
  exact spared tag other (same ▸ member)

/-! ### Nested chains -/

/-- A document holds chains around a core of some sort; the layers are listed from outside in. -/
inductive Nested (core : List (String × Value)) (tag : String) : Value → List Value → Prop
  | core (named : core.lookup "type" = some (.text tag)) : Nested core tag (.object core) []
  | layer {fields : List (String × Value)} {wrapped : Value} {layers : List Value}
      (named : fields.lookup "type" = some (.text "processed"))
      (found : fields.lookup "wrappedBinding" = some wrapped)
      (inside : Nested core tag wrapped layers) :
      Nested core tag (.object fields) (.object fields :: layers)

/-- The words for the sorts of the layers and of the core, from the outside in. -/
def wordsOf (layers : List Value) (tag : String) : List String :=
  layers.map (fun _ => "processed") ++ [tag]

/-- The handlers that a layer lists, made by a registry of handlers. -/
def handlersIn (handlers : HandlerRegistry) (layer : Value) : Except Failure (List Handler) := do
  (← (← layer.get "handlers").itemsOrNone).mapM handlers.create

/-- A binding with layers around it, from the inside out. -/
def wrapAll (handlers : HandlerRegistry) :
    List Value → Except Failure Binding → Except Failure Binding
  | [], made => made
  | layer :: rest, made => do
    let wrapped ← wrapAll handlers rest made
    return .processed wrapped (← handlersIn handlers layer) none

theorem Nested.exists_fields {core : List (String × Value)} {tag : String} {v : Value}
    {layers : List Value} (nested : Nested core tag v layers) : ∃ fields, v = .object fields := by
  cases nested <;> exact ⟨_, rfl⟩

theorem Nested.named {core : List (String × Value)} {tag : String} {v : Value}
    {layers : List Value} (nested : Nested core tag v layers) :
    core.lookup "type" = some (.text tag) := by
  induction nested with
  | core named => exact named
  | layer _ _ _ ih => exact ih

section

variable {core : List (String × Value)} {tag : String} {v : Value} {layers : List Value}

theorem factoryFor_of_missing (lists : r.Lists roster) {fields : List (String × Value)}
    (named : fields.lookup "type" = some (.text tag)) (missing : tag ∉ roster.map Prod.fst) :
    r.factoryFor (.object fields) =
      .error (.binding (.unknownType tag (roster.map Prod.fst))) := by
  rw [factoryFor_object named, lists.find?_eq_none missing, liftM_ok, ok_bind, lists.textKeys]
  rfl

theorem factoryFor_of_mem (lists : r.Lists roster) {fields : List (String × Value)}
    (named : fields.lookup "type" = some (.text tag)) {factory : Factory}
    (member : (tag, factory) ∈ roster) : r.factoryFor (.object fields) = .ok factory :=
  factoryFor_of_find? named (lists.find?_eq_some_iff.2 member)

variable (lists : r.Lists roster) (chains : ∀ factory, ("processed", factory) ∈ roster →
  factory = .chain)

include lists chains

/-- A layer goes by what it wraps. -/
theorem create_layer {fields wrapped : List (String × Value)}
    (named : fields.lookup "type" = some (.text "processed"))
    (found : fields.lookup "wrappedBinding" = some (.object wrapped))
    (present : "processed" ∈ roster.map Prod.fst) :
    r.create (.object fields) = r.create (.object wrapped) >>= fun inner =>
      r.handlersOf (.object fields) >>= fun handlers => .ok (.processed inner handlers none) := by
  obtain ⟨⟨_, factory⟩, member, rfl⟩ := List.mem_map.1 present
  cases chains factory member
  rw [create_of_chain (factoryFor_of_mem lists named member), found]
  rfl

/-- The outermost sort that is missing is the one that is named. -/
theorem create_of_missing (nested : Nested core tag v layers) {missing : String}
    (first : (wordsOf layers tag).find? (· ∉ roster.map Prod.fst) = some missing) :
    r.create v = .error (.binding (.unknownType missing (roster.map Prod.fst))) := by
  induction nested with
  | core named =>
    obtain rfl : missing = tag := List.mem_singleton.1 (List.mem_of_find?_eq_some first)
    have absent : missing ∉ roster.map Prod.fst := of_decide_eq_true (List.find?_some first :)
    exact create_of_refused (factoryFor_of_missing lists named absent)
  | @layer fields wrapped layers named found inside ih =>
    obtain ⟨inner, rfl⟩ := inside.exists_fields
    by_cases present : "processed" ∈ roster.map Prod.fst
    · have next : (wordsOf layers tag).find? (· ∉ roster.map Prod.fst) = some missing := by
        rwa [wordsOf, List.map_cons, List.cons_append,
          List.find?_cons_of_neg (by simpa using present)] at first
      rw [create_layer lists chains named found present, ih next]
      rfl
    · have own : "processed" = missing := by
        rwa [wordsOf, List.map_cons, List.cons_append,
          List.find?_cons_of_pos (by simpa using present), Option.some.injEq] at first
      rw [← own]
      exact create_of_refused (factoryFor_of_missing lists named present)

theorem create_of_present (nested : Nested core tag v layers)
    (present : ∀ word ∈ wordsOf layers tag, word ∈ roster.map Prod.fst) :
    r.create v = wrapAll r.handlers layers (r.create (.object core)) := by
  induction nested with
  | core named => rfl
  | @layer fields wrapped layers named found inside ih =>
    obtain ⟨inner, rfl⟩ := inside.exists_fields
    obtain ⟨own, others⟩ := List.forall_mem_cons.1 present
    rw [create_layer lists chains named found own, ih others]
    rfl

end

/-! ### Failures for an unknown sort -/

/-- The failure of a registry that does not know a sort. -/
def IsUnknownSort (failure : Failure) : Prop :=
  ∃ shown available, failure = .binding (.unknownType shown available)

theorem not_isUnknownSort_liftM {α : Type} (x : Except Misuse α) :
    ¬ FailsWith IsUnknownSort (liftM x : Except Failure α) := by
  rintro ⟨failure, failed, shown, available, rfl⟩
  obtain ⟨cause, same⟩ := onlyMisused_liftM x _ failed
  cases same

theorem not_isUnknownSort_handler (handlers : HandlerRegistry) (v : Value) :
    ¬ FailsWith IsUnknownSort (handlers.create v) := by
  unfold HandlerRegistry.create
  rw [failsWith_bind_iff]
  rintro (asked | ⟨word, -, later⟩)
  · exact not_isUnknownSort_liftM _ asked
  · rw [failsWith_bind_iff] at later
    obtain looked | ⟨found, -, later⟩ := later
    · exact not_isUnknownSort_liftM _ looked
    · cases found with
      | some kind => exact not_isUnknownSort_liftM _ later
      | none =>
        dsimp only at later
        rw [failsWith_bind_iff] at later
        obtain listed | ⟨keys, -, failure, ⟨⟩, shown, available, ⟨⟩⟩ := later
        exact not_isUnknownSort_liftM _ listed

theorem not_isUnknownSort_handlersIn (handlers : HandlerRegistry) (layer : Value) :
    ¬ FailsWith IsUnknownSort (handlersIn handlers layer) := by
  unfold handlersIn
  rw [failsWith_bind_iff]
  rintro (asked | ⟨field, -, later⟩)
  · exact not_isUnknownSort_liftM _ asked
  · rw [failsWith_bind_iff] at later
    obtain walked | ⟨items, -, later⟩ := later
    · exact not_isUnknownSort_liftM _ walked
    · obtain ⟨before, v, after, -, -, made⟩ := failsWith_mapM_iff.1 later
      exact not_isUnknownSort_handler handlers v made

/-- Layers do not miss any sort themselves. -/
theorem wrapAll_eq_error_iff (handlers : HandlerRegistry) (layers : List Value)
    (made : Except Failure Binding) {failure : Failure} (unknown : IsUnknownSort failure) :
    wrapAll handlers layers made = .error failure ↔ made = .error failure := by
  induction layers with
  | nil => exact Iff.rfl
  | cons layer rest ih =>
    rw [wrapAll, ← ih]
    cases wrapAll handlers rest made with
    | error cause => exact Iff.rfl
    | ok wrapped =>
      refine iff_of_false (fun failed => ?_) nofun
      cases listed : handlersIn handlers layer with
      | ok hs =>
        rw [listed] at failed
        cases failed
      | error cause =>
        rw [listed] at failed
        cases failed
        exact not_isUnknownSort_handlersIn handlers layer ⟨_, listed, unknown⟩

/-- In a registry that was reached without anything registered under the word for chains, a document
of nested chains fails for the outermost of its sorts that is not registered, whatever handlers it
lists; what is named beside it are the sorts that are registered, in order. When all are registered,
the core is made by the factory of its sort, and each layer by the registry itself with the handlers
of its own registry of handlers; a sort is missing then only if that factory says so. -/
theorem create_nested (handlers : HandlerRegistry) {edits : List Edit} (spared : SparesChains edits)
    {core : List (String × Value)} {tag : String} {v : Value} {layers : List Value}
    (nested : Nested core tag v layers) :
    (reached handlers edits).sorts = (tagsAfter edits).map .text ∧
      (∀ missing, (wordsOf layers tag).find? (· ∉ tagsAfter edits) = some missing →
        (reached handlers edits).create v =
          .error (.binding (.unknownType missing (tagsAfter edits)))) ∧
      ((∀ word ∈ wordsOf layers tag, word ∈ tagsAfter edits) →
        ∃ factory, (tag, factory) ∈ rosterAfter edits ∧
          (∀ make, factory = .plain make →
            (reached handlers edits).create (.object core) = make (.object core)) ∧
          (reached handlers edits).create v =
            wrapAll handlers layers ((reached handlers edits).create (.object core)) ∧
          ∀ failure, IsUnknownSort failure →
            ((reached handlers edits).create v = .error failure ↔
              (reached handlers edits).create (.object core) = .error failure)) := by
  have lists := lists_reached handlers edits
  have chains (factory : Factory) (member : ("processed", factory) ∈ rosterAfter edits) :
      factory = .chain := eq_chain_of_mem spared member
  refine ⟨lists.sorts, fun missing first => create_of_missing lists chains nested first,
    fun present => ?_⟩
  have known : tag ∈ tagsAfter edits := present tag (by simp [wordsOf])
  obtain ⟨⟨_, factory⟩, member, rfl⟩ := List.mem_map.1 known
  have made := create_of_present lists chains nested present
  rw [handlers_reached] at made
  refine ⟨factory, member, ?_, made, fun failure unknown => ?_⟩
  · rintro make rfl
    exact create_plain (factoryFor_of_mem lists nested.named member)
  · rw [made]
    exact wrapAll_eq_error_iff handlers layers _ unknown

/-- A chain around something, as a document holds it. -/
def chained (wrapped handlers : Value) : Value :=
  .object [("type", .text "processed"), ("wrappedBinding", wrapped), ("handlers", handlers)]

/-- A sort is missing inside two chains, the lists of handlers of which are none. One of the sorts
that are there was registered twice, and another one was removed and came back. -/
theorem create_nested_spline : ∃ edits : List Edit, SparesChains edits ∧
    Nested [("type", .text "spline")] "spline"
      (chained (chained (.object [("type", .text "spline")]) (.int 5)) (.text "clamp"))
      [chained (chained (.object [("type", .text "spline")]) (.int 5)) (.text "clamp"),
        chained (.object [("type", .text "spline")]) (.int 5)] ∧
    (reached .builtin edits).create
        (chained (chained (.object [("type", .text "spline")]) (.int 5)) (.text "clamp")) =
      .error (.binding (.unknownType "spline"
        ["parameter", "expression", "processed", "double", "literal"])) := by
  let edits : List Edit := [.register "double" (some (.plain literalOf)), .unregister "literal",
    .register "literal" (some (.plain literalOf)), .register "double" (some (.plain parameterOf))]
  have spared : SparesChains edits := by
    intro tag factory member
    simp only [edits, List.mem_cons, Edit.register.injEq, reduceCtorEq, List.not_mem_nil,
      or_false, false_or] at member
    rcases member with ⟨rfl, -⟩ | ⟨rfl, -⟩ | ⟨rfl, -⟩ <;> decide
  have nested : Nested [("type", .text "spline")] "spline"
      (chained (chained (.object [("type", .text "spline")]) (.int 5)) (.text "clamp"))
      [chained (chained (.object [("type", .text "spline")]) (.int 5)) (.text "clamp"),
        chained (.object [("type", .text "spline")]) (.int 5)] :=
    .layer rfl rfl (.layer rfl rfl (.core rfl))
  exact ⟨edits, spared, nested, (create_nested .builtin spared nested).2.1 "spline" rfl⟩

end Joinery.BindingRegistry
