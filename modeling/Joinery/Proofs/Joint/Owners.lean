import Joinery.Proofs.Catalogue
import Joinery.Proofs.Joint.Maps

/-!
# Joints of a shape

A key is cut at its last two colons. It names the shape whose id stands before them, whatever colons
the id holds itself, and no shape if nothing stands there or it has fewer colons. The joints of a
shape are removed by their keys: what is left keeps its order.
-/
namespace Joinery

namespace JointStore

/-! ### Keys and the shapes they name -/

theorem beforeLastColon?_eq_some_iff {cs ds : List Char} :
    beforeLastColon? cs = some ds ↔ ∃ es, cs = ds ++ ':' :: es ∧ ':' ∉ es := by
  constructor
  · intro cut
    by_cases colon : ':' ∈ cs.reverse
    · obtain ⟨es, before, whole, plain⟩ := List.eq_append_cons_of_mem colon
      have parts : cs = before.reverse ++ ':' :: es.reverse := by
        rw [← List.reverse_reverse cs, whole]
        simp
      have last : ':' ∉ es.reverse := fun member => plain (List.mem_reverse.1 member)
      rw [parts, beforeLastColon?_append last] at cut
      cases cut
      exact ⟨es.reverse, parts, last⟩
    · rw [beforeLastColon?_eq_none fun member => colon (List.mem_reverse.2 member)] at cut
      cases cut
  · rintro ⟨es, rfl, plain⟩
    exact beforeLastColon?_append plain

/-- A key names a shape: it is the id, a path and a place, with colons between them and no colons in
the path and the place. -/
def Names (key shape : String) : Prop :=
  shape ≠ "" ∧ ∃ path index : String, key = shape ++ ":" ++ path ++ ":" ++ index ∧
    ':' ∉ path.toList ∧ ':' ∉ index.toList

theorem shapeOf?_eq_some_iff_toList {key shape : String} : shapeOf? key = some shape ↔
    shape ≠ "" ∧ ∃ owned, beforeLastColon? key.toList = some owned ∧
      beforeLastColon? owned = some shape.toList := by
  rw [← Option.bind_eq_some_iff]
  unfold shapeOf?
  rw [Option.bind_eq_bind]
  cases (beforeLastColon? key.toList).bind beforeLastColon? with
  | none => exact iff_of_false nofun nofun
  | some owner =>
    cases owner with
    | nil =>
      refine iff_of_false nofun ?_
      rintro ⟨nonempty, nothing⟩
      exact nonempty (String.toList_eq_nil_iff.1 (Option.some.inj nothing).symm)
    | cons c cs =>
      dsimp only
      rw [Option.some_inj, Option.some_inj]
      constructor
      · rintro rfl
        exact ⟨by simp, by simp⟩
      · rintro ⟨-, same⟩
        rw [same, String.ofList_toList]

/-- The shape that is found for a key is the one that it names. -/
theorem shapeOf?_eq_some_iff {key shape : String} :
    shapeOf? key = some shape ↔ Names key shape := by
  rw [shapeOf?_eq_some_iff_toList]
  refine and_congr_right fun _ => ?_
  simp only [beforeLastColon?_eq_some_iff]
  constructor
  · rintro ⟨owned, ⟨index, whole, hindex⟩, path, rfl, hpath⟩
    refine ⟨String.ofList path, String.ofList index, ?_, ?_, ?_⟩
    · rw [← String.toList_inj, whole]
      simp
    · rwa [String.toList_ofList]
    · rwa [String.toList_ofList]
  · rintro ⟨path, index, rfl, hpath, hindex⟩
    exact ⟨_, ⟨index.toList, by simp, hindex⟩, path.toList, rfl, hpath⟩

instance (key shape : String) : Decidable (Names key shape) :=
  decidable_of_iff _ shapeOf?_eq_some_iff

/-! ### The joints that are removed -/

variable {s : JointStore}

/-- Whether a key belongs to a shape; one that is no text belongs to none. -/
def isOf (shape : Value) : Value → Bool
  | .text key => belongsTo shape key
  | _ => false

theorem entries_foldl_eraseKey (keys : List String) (s : JointStore) :
    (keys.foldl eraseKey s).joints.table.entries =
      s.joints.table.entries.filter fun entry => ∀ key ∈ keys, entry.1 ≠ .text key := by
  induction keys generalizing s with
  | nil => simp
  | cons key rest ih =>
    have erased : (s.eraseKey key).joints.table.entries =
        s.joints.table.entries.filter fun entry => entry.1 ≠ .text key := rfl
    rw [List.foldl_cons, ih, erased, List.filter_filter]
    refine List.filter_congr fun entry _ => ?_
    simp [Bool.and_comm]

/-- The joints of a shape can be removed just when the keys of all joints are texts. -/
theorem exists_removeShape_iff {shape : Value} : (∃ step, s.removeShape shape = .ok step) ↔
    ∀ item ∈ s.items, ∃ text, item.1 = .text text := by
  have each : ∀ item : Value × Joint, (∃ key, textKey item.1 = .ok key) ↔
      ∃ text, item.1 = .text text := by
    rintro ⟨key, joint⟩
    cases key with
    | text key => exact iff_of_true ⟨key, rfl⟩ ⟨key, rfl⟩
    | null | bool | int | float | list | object => exact iff_of_false nofun nofun
  simp only [← each, ← exists_mapM_iff]
  constructor
  · rintro ⟨step, success⟩
    obtain ⟨keys, hkeys, -⟩ := bind_eq_ok_iff.1 success
    exact ⟨keys, hkeys⟩
  · rintro ⟨keys, hkeys⟩
    exact ⟨_, bind_eq_ok_iff.2 ⟨keys, hkeys, rfl⟩⟩

/-- What is left are the joints whose keys do not belong to the shape, in their order. -/
theorem items_removeShape (textual : s.joints.IsTextual) {shape : Value} {step : JointStep Nat}
    (success : s.removeShape shape = .ok step) :
    step.store.items = (s.items.filter fun item => !isOf shape item.1) ∧
      step.store.joints.IsTextual ∧ step.store.defaults = s.defaults := by
  obtain ⟨texts, stored, shown⟩ := Catalogue.exists_texts textual
  have listed : s.items.map Prod.fst = texts.map .text := by
    rw [← shown]
    simp [items, Catalogue.entries, Table.values]
  cases (Represents.removeShape_eq listed shape).symm.trans success
  refine ⟨?_, isTextual_foldl_eraseKey _ textual, defaults_foldl_eraseKey _ s⟩
  unfold items Catalogue.entries Table.values
  rw [entries_foldl_eraseKey, List.filter_map]
  refine congrArg _ (List.filter_congr fun entry member => ?_)
  obtain ⟨text, hkey, hshown⟩ := textual entry member
  have present : text ∈ texts := by
    have key : Value.Key.text text ∈ texts.map .text :=
      stored ▸ List.mem_map.2 ⟨entry, member, hkey⟩
    simpa using key
  rw [Function.comp_apply, hshown, hkey, isOf]
  cases belongs : belongsTo shape text with
  | true => exact decide_eq_false fun apart => apart text (List.mem_filter.2 ⟨present, belongs⟩) rfl
  | false =>
    refine decide_eq_true fun key doomed same => ?_
    cases same
    exact absurd ((List.mem_filter.1 doomed).2) (Bool.not_eq_true _ ▸ belongs)

/-- What is answered and told of are the joints whose keys belong to the shape, in their order. -/
theorem told_removeShape (textual : s.joints.IsTextual) {shape : Value} {step : JointStep Nat}
    (success : s.removeShape shape = .ok step) :
    step.answer = (s.items.filter fun item => isOf shape item.1).length ∧
      step.changes = (s.items.filter fun item => isOf shape item.1).map fun item =>
        ⟨item.1, none⟩ := by
  obtain ⟨texts, listed, -⟩ := textual.texts
  cases (Represents.removeShape_eq listed shape).symm.trans success
  have doomed : (s.items.filter fun item => isOf shape item.1).map Prod.fst =
      (texts.filter (belongsTo shape)).map .text :=
    calc (s.items.filter fun item => isOf shape item.1).map Prod.fst
      _ = (s.items.map Prod.fst).filter (isOf shape) := by rw [List.filter_map]; rfl
      _ = (texts.map .text).filter (isOf shape) := congrArg _ listed
      _ = (texts.filter (belongsTo shape)).map .text := by rw [List.filter_map]; rfl
  constructor
  · simpa using (congrArg List.length doomed).symm
  · have told := congrArg (List.map fun key => (⟨key, none⟩ : JointChange)) doomed
    rw [List.map_map, List.map_map] at told
    exact told.symm

end JointStore

end Joinery
