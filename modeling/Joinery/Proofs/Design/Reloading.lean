import Joinery.Proofs.Design.Edits
import Joinery.Proofs.Joint.Reloading
import Joinery.Proofs.Shape.Resolving

/-!
# Designs written and read back

A design that was read from a document is written, and what is written reads back: the parameters,
the joints under their keys, and the shapes in their order under their ids.
-/
namespace Joinery

namespace ShapeRegistry

/-- A registry with the kinds and sorts of bindings that all designs begin with. -/
structure IsBuiltin (r : ShapeRegistry) : Prop where
  kinds : r.kinds = ShapeRegistry.builtin.kinds
  bindings : r.bindings = .builtin

theorem IsBuiltin.idOr {r : ShapeRegistry} (builtin : r.IsBuiltin) (word id existing : Value) :
    (r.idOr word id existing).2.IsBuiltin := by
  unfold ShapeRegistry.idOr
  split
  · exact builtin
  · unfold newId
    dsimp only
    split
    · exact builtin
    · exact ⟨builtin.kinds, builtin.bindings⟩

/-- Every id that is given counts as present. -/
theorem isTruthy_of_idOr {r r' : ShapeRegistry} {word id existing given : Value}
    (success : r.idOr word id existing = (.ok given, r')) : given.isTruthy = true := by
  unfold idOr at success
  split at success
  · next truthy =>
    cases success
    exact truthy
  · unfold newId at success
    dsimp only at success
    split at success
    · cases success
    · next word n _ =>
      obtain ⟨made, -⟩ := Prod.mk.inj success
      unfold idFor at made
      split at made
      · cases made
      · cases made
        simp [Value.isTruthy]

end ShapeRegistry

namespace Design

open Edit

variable {d d' : Design}

/-- A design as documents give it: what it holds was read, and the shapes are stored under their
ids. -/
structure IsRead (d : Design) : Prop where
  parameters : d.parameters.IsRead
  joints : d.joints.IsRead
  grown : Catalogue.Grown d.shapes.spine
  shapes : ∀ entry ∈ d.shapes.entries,
    entry.1 = entry.2.id ∧ entry.1.isTruthy = true ∧ entry.2.IsRead
  registry : d.registry.IsBuiltin
  functions : d.functions = .builtin

theorem isRead_empty (settings : Settings) {store : ParameterStore} (read : store.IsRead) :
    IsRead { empty settings with parameters := store } :=
  ⟨read, ⟨.nil, nofun⟩, .nil, nofun, ⟨rfl, rfl⟩, rfl⟩

theorem IsRead.addShape {s s' : Shape} (read : d.IsRead) (hs : s.IsRead)
    (given : (addShape s).Gives d s' d') : d'.IsRead := by
  obtain ⟨id, registry, shapes, numbered, absent, inserted, -, rfl⟩ := gives_addShape_iff.1 given
  refine ⟨read.parameters, read.joints, read.grown.insert inserted, ?_, ?_, read.functions⟩
  · obtain ⟨k, entries⟩ := Catalogue.entries_insert_of_absent absent inserted
    have all : shapes.entries = d.shapes.entries ++ [(id, { s with id := id })] := by
      simp [Catalogue.entries, Table.values, entries]
    have truthy := ShapeRegistry.isTruthy_of_idOr numbered
    dsimp only
    rw [all]
    exact List.forall_mem_append.2 ⟨read.shapes,
      List.forall_mem_singleton.2 ⟨rfl, truthy, hs.withId id⟩⟩
  · have builtin := read.registry.idOr s.type s.id d.ids
    rwa [numbered] at builtin

theorem IsRead.addShapes {vs : List Value} (read : d.IsRead)
    (given : (addShapes vs).Gives d () d') : d'.IsRead := by
  induction vs generalizing d with
  | nil =>
    obtain ⟨-, rfl⟩ := gives_pure_iff.1 given
    exact read
  | cons v rest ih =>
    obtain ⟨s, s', next, made, added, given⟩ := gives_addShapes_cons_iff.1 given
    have hs := Shape.isRead_ofValue read.registry.kinds read.registry.bindings made
    exact ih (read.addShape hs added) given

theorem isRead_ofValue {settings : Settings} {v : Value}
    (loaded : (ofValue settings v).result = .ok d) : d.IsRead := by
  obtain ⟨fields, shapes, parameters, ps, store, -, -, -, hps, hstore, given⟩ :=
    ofValue_eq_ok_iff.1 loaded
  have each : ∀ p ∈ ps, p.IsRead := by
    intro p member
    obtain ⟨item, -, made⟩ := exists_of_mem_mapM hps member
    exact Parameter.isRead_ofValue made
  have start := isRead_empty settings (ParameterStore.isRead_empty.foldlM_add each hstore)
  obtain ⟨filled, added, loadedJoints⟩ := gives_fill_iff.1 given
  obtain ⟨success, rfl⟩ := gives_loadJoints_iff.1 loadedJoints
  have read := start.addShapes added
  exact ⟨read.parameters, JointStore.isRead_load success, read.grown, read.shapes, read.registry,
    read.functions⟩

/-! ### Reading back -/

/-- Whether no range of a parameter or a handler begins at infinity or ends at minus infinity. -/
def isBounded (d : Design) : Bool :=
  d.parameters.all.all Parameter.isBounded && d.all.all Shape.isBounded

/-- The design as it is read back under settings. -/
def reloaded (settings : Settings) (d : Design) : Design where
  settings := settings
  parameters := d.parameters.reloaded
  joints := { joints := d.joints.joints, defaults := settings.joints }
  shapes := d.shapes.map Shape.reloaded

/-- Shapes are added in the order in which they are written, under the ids that they have. -/
theorem gives_addShapes_of_written (start : Design) {total : Catalogue Shape} {ws : List Value}
    (registry : start.registry = .builtin) (grown : Catalogue.Grown total.spine)
    (ids : ∀ entry ∈ total.entries, entry.1 = entry.2.id ∧ entry.1.isTruthy = true)
    (written : List.Forall₂ (fun (entry : Value × Shape) w =>
      ShapeRegistry.builtin.ofValue w = .ok entry.2) total.entries ws) :
    (addShapes ws).Gives { start with shapes := .empty } () { start with shapes := total } := by
  let behind (c : Catalogue Shape) : Design := { start with shapes := c }
  let completes (c : Catalogue Shape) (rest : List (Value × Shape)) : Prop :=
    ∀ ws, List.Forall₂ (fun (entry : Value × Shape) w =>
      ShapeRegistry.builtin.ofValue w = .ok entry.2) rest ws →
      (Design.addShapes ws).Gives (behind c) () (behind total)
  have filled : completes .empty total.entries := by
    refine grown.fill (motive := completes) (fun ws written => ?_)
      fun c c' id s rest member absent inserted later ws written => ?_
    · cases written
      exact gives_pure_iff.2 ⟨rfl, rfl⟩
    · cases written with
      | @cons _ w _ rest first others =>
        obtain ⟨own, truthy⟩ : id = s.id ∧ id.isTruthy = true := ids _ member
        subst own
        have numbered : (behind c).registry.idOr s.type s.id (behind c).ids =
            (.ok s.id, (behind c).registry) := if_pos truthy
        have added : (Design.addShape s).Gives (behind c) s (behind c') :=
          gives_addShape_iff.2 ⟨s.id, _, c', numbered, absent, inserted, rfl, rfl⟩
        refine gives_addShapes_cons_iff.2 ⟨s, s, behind c', ?_, added, later rest others⟩
        exact (congrArg (fun r => ShapeRegistry.ofValue r w) registry).trans first
  exact filled ws written

/-- The shapes of a design are written so that the same shapes are read back, save for what is
hidden. -/
theorem IsRead.shapes_written_back (read : d.IsRead) (bounded : d.isBounded = true) :
    ∃ ws, d.all.mapM Shape.toValue = .ok ws ∧
      (d.shapes.map Shape.reloaded).values.mapM Shape.toValue = .ok ws ∧
      List.Forall₂ (fun (entry : Value × Shape) w => ShapeRegistry.builtin.ofValue w = .ok entry.2)
        (d.shapes.map Shape.reloaded).entries ws := by
  have inside : ∀ entry ∈ d.shapes.entries, ∃ w, entry.2.toValue = .ok w ∧
      ShapeRegistry.builtin.ofValue w = .ok entry.2.reloaded ∧
        entry.2.reloaded.toValue = .ok w := by
    intro entry member
    have own := List.all_eq_true.1 ((Bool.and_eq_true _ _).mp bounded).2 entry.2
      (List.mem_map.2 ⟨entry, member, rfl⟩)
    exact (read.shapes entry member).2.2.written_back own rfl rfl
  obtain ⟨ws, hws, backs⟩ := exists_mapM inside
  refine ⟨ws, ?_, ?_, ?_⟩
  · rw [all, Catalogue.values, List.mapM_map]
    exact hws
  · rw [Catalogue.values_map, Catalogue.values, List.map_map, List.mapM_map]
    exact mapM_eq_ok_iff.2 (backs.imp fun _ _ back => back.2)
  · rw [Catalogue.entries_map, List.forall₂_map_left_iff]
    exact backs.imp fun _ _ back => back.1

/-- A design is filled with its shapes and joints once more. -/
theorem IsRead.gives_fill {ws : List Value} (read : d.IsRead) (settings : Settings)
    (written : List.Forall₂ (fun (entry : Value × Shape) w =>
      ShapeRegistry.builtin.ofValue w = .ok entry.2) (d.shapes.map Shape.reloaded).entries ws) :
    (fill ws d.joints.toValue).Gives { empty settings with parameters := d.parameters.reloaded } ()
      (d.reloaded settings) := by
  let start : Design := { empty settings with parameters := d.parameters.reloaded }
  have grown : Catalogue.Grown (d.shapes.map Shape.reloaded).spine := by
    rw [Catalogue.spine_map]
    exact read.grown
  have ids : ∀ entry ∈ (d.shapes.map Shape.reloaded).entries,
      entry.1 = entry.2.id ∧ entry.1.isTruthy = true := by
    intro entry member
    rw [Catalogue.entries_map] at member
    obtain ⟨old, hold, rfl⟩ := List.mem_map.1 member
    obtain ⟨own, truthy, -⟩ := read.shapes old hold
    exact ⟨own, truthy⟩
  have added : (Design.addShapes ws).Gives start ()
      { start with shapes := d.shapes.map Shape.reloaded } :=
    gives_addShapes_of_written start rfl grown ids written
  refine gives_fill_iff.2 ⟨_, added, gives_loadJoints_iff.2 ?_⟩
  rw [read.joints.load_toValue]
  exact ⟨rfl, rfl⟩

/-- A design that was read is written, and reads back as said. What is read back is written the
same, up to the signs of zeros. -/
theorem IsRead.written_back (read : d.IsRead) (bounded : d.isBounded = true)
    (settings : Settings) :
    ∃ w w', d.toValue = .ok w ∧ (ofValue settings w).result = .ok (d.reloaded settings) ∧
      (d.reloaded settings).toValue = .ok w' ∧ w'.unsigned = w.unsigned := by
  have parametersRead : ∀ p ∈ d.parameters.all, p.IsRead := by
    intro p member
    obtain ⟨entry, hentry, rfl⟩ := List.mem_map.1 member
    exact (read.parameters.entries entry hentry).2
  obtain ⟨ps, ps', hps, psBack, hps', same⟩ := Parameter.written_back_all parametersRead
    (List.all_eq_true.1 ((Bool.and_eq_true _ _).mp bounded).1)
  obtain ⟨ws, hws, hws', backs⟩ := read.shapes_written_back bounded
  refine ⟨.object [("parameters", .list ps), ("shapes", .list ws),
    ("edgeJoinery", d.joints.toValue)], .object [("parameters", .list ps'), ("shapes", .list ws),
    ("edgeJoinery", d.joints.toValue)], ?_, ?_, ?_, ?_⟩
  · exact bind_eq_ok_iff.2 ⟨ps, hps, bind_eq_ok_iff.2 ⟨ws, hws, rfl⟩⟩
  · exact ofValue_eq_ok_iff.2 ⟨_, ws, ps, _, _, rfl, rfl, Value.itemsOrNone_list ps, psBack,
      read.parameters.ofList_reloaded, read.gives_fill settings backs⟩
  · rw [← ParameterStore.all_reloaded] at hps'
    exact bind_eq_ok_iff.2 ⟨ps', hps', bind_eq_ok_iff.2 ⟨ws, hws', rfl⟩⟩
  · simp [Value.unsigned, Value.unsignedFields, same]

end Design

end Joinery
