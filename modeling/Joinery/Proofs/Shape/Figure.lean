import Joinery.Proofs.Parameter.Reloading
import Joinery.Shape.Figure

/-!
# Figures written and read back

In documents a figure gives its properties as options, save for those that bindings hide. What is
made of these options has the same properties, and defaults in the place of the hidden ones.
-/
namespace Joinery

namespace Figure

/-- A figure as documents give it: no property is null, a polygon has a whole number of sides, at
least three, and a path leads through points. -/
def IsRead : Figure → Prop
  | .rectangle x y width height =>
    x.isNull = false ∧ y.isNull = false ∧ width.isNull = false ∧ height.isNull = false
  | .polygon centerX centerY radius sides =>
    centerX.isNull = false ∧ centerY.isNull = false ∧ radius.isNull = false ∧
      ∃ n : Int, 3 ≤ n ∧ sides = .int n
  | .path course closed offsetX offsetY =>
    (∃ ps : List (Binary64 × Binary64),
      course = .points (ps.map fun p => ⟨.float p.1, .float p.2⟩)) ∧
      closed.isNull = false ∧ offsetX.isNull = false ∧ offsetY.isNull = false
  | .blank => False

/-- A property of a figure of a kind, or its default where it is hidden. -/
def shown (kind : FigureKind) (hidden : String → Bool) (name : String) (v : Value) : Value :=
  if hidden name then ((defaults kind).lookup name).getD .null else v

/-- The figure with the defaults in the place of hidden properties. -/
def exposed (hidden : String → Bool) : Figure → Figure
  | .rectangle x y width height =>
    let shown := shown .rectangle hidden
    .rectangle (shown "x" x) (shown "y" y) (shown "width" width) (shown "height" height)
  | .polygon centerX centerY radius sides =>
    let shown := shown .polygon hidden
    .polygon (shown "center_x" centerX) (shown "center_y" centerY) (shown "radius" radius)
      (shown "sides" sides)
  | .path course closed offsetX offsetY =>
    let shown := shown .path hidden
    .path course closed (shown "offset_x" offsetX) (shown "offset_y" offsetY)
  | .blank => .blank

/-- The options that a document of a figure gives. -/
def options (hidden : String → Bool) (f : Figure) : List (String × Value) :=
  let own := f.properties.filter fun property => !hidden property.1
  match f with
  | .path (.points ps) closed _ _ =>
    own ++ [("points", .list (ps.map Point.toValue)), ("closed", closed)]
  | _ => own

theorem sideCount_int {n : Int} (h : 3 ≤ n) : sideCount (.int n) = .ok n := by
  have floored : sideCount (.int n) = .ok (max 3 n) := rfl
  rw [floored, Int.max_eq_right h]

theorem points_back (ps : List (Binary64 × Binary64)) :
    ((ps.map fun p => (⟨.float p.1, .float p.2⟩ : Point Value)).map Point.toValue).mapM
      Point.ofValue = .ok (ps.map fun p => ⟨.float p.1, .float p.2⟩) := by
  induction ps with
  | nil => rfl
  | cons p rest ih =>
    rw [List.map_cons, List.map_cons, List.mapM_cons, ih]
    rfl

theorem ofOptions_options {f : Figure} (read : f.IsRead) (hidden : String → Bool) :
    ofOptions f.kind (f.options hidden).reverse = .ok (f.exposed hidden) := by
  cases f with
  | rectangle x y width height =>
    simp only [options, properties, exposed, shown, kind, List.filter]
    cases hidden "x" <;> cases hidden "y" <;> cases hidden "width" <;> cases hidden "height" <;> rfl
  | polygon centerX centerY radius sides =>
    obtain ⟨-, -, -, n, hn, rfl⟩ := read
    simp only [options, properties, exposed, shown, kind, List.filter]
    cases hidden "center_x" <;> cases hidden "center_y" <;> cases hidden "radius" <;>
      cases hidden "sides" <;>
      first
      | rfl
      | exact bind_eq_ok_iff.2 ⟨_, rfl, bind_eq_ok_iff.2 ⟨n, sideCount_int hn, rfl⟩⟩
  | path course closed offsetX offsetY =>
    obtain ⟨⟨ps, rfl⟩, -⟩ := read
    simp only [options, properties, exposed, shown, kind, List.filter]
    have course := points_back ps
    cases hidden "offset_x" <;> cases hidden "offset_y" <;>
      exact bind_eq_ok_iff.2 ⟨_, rfl, bind_eq_ok_iff.2 ⟨_, rfl, bind_eq_ok_iff.2 ⟨_, course, rfl⟩⟩⟩
  | blank => exact read.elim

theorem options_exposed (f : Figure) (hidden : String → Bool) :
    (f.exposed hidden).options hidden = f.options hidden := by
  cases f with
  | rectangle =>
    simp only [options, properties, exposed, shown, List.filter]
    cases hidden "x" <;> cases hidden "y" <;> cases hidden "width" <;> cases hidden "height" <;> rfl
  | polygon =>
    simp only [options, properties, exposed, shown, List.filter]
    cases hidden "center_x" <;> cases hidden "center_y" <;> cases hidden "radius" <;>
      cases hidden "sides" <;> rfl
  | path course =>
    cases course <;>
      simp only [options, properties, exposed, shown, List.filter] <;>
      cases hidden "offset_x" <;> cases hidden "offset_y" <;> rfl
  | blank => rfl

theorem kind_exposed (f : Figure) (hidden : String → Bool) : (f.exposed hidden).kind = f.kind := by
  cases f <;> rfl

theorem isNull_shown {kind : FigureKind} {hidden : String → Bool} {name : String} {v : Value}
    (present : v.isNull = false)
    (default : (((defaults kind).lookup name).getD .null).isNull = false) :
    (shown kind hidden name v).isNull = false := by
  unfold shown
  split
  · exact default
  · exact present

/-- A figure with defaults in some places is one that documents give. -/
theorem IsRead.exposed {f : Figure} (read : f.IsRead) (hidden : String → Bool) :
    (f.exposed hidden).IsRead := by
  cases f with
  | rectangle x y width height =>
    obtain ⟨hx, hy, hwidth, hheight⟩ := read
    exact ⟨isNull_shown hx rfl, isNull_shown hy rfl, isNull_shown hwidth rfl,
      isNull_shown hheight rfl⟩
  | polygon centerX centerY radius sides =>
    obtain ⟨hcenterX, hcenterY, hradius, n, hn, rfl⟩ := read
    refine ⟨isNull_shown hcenterX rfl, isNull_shown hcenterY rfl, isNull_shown hradius rfl, ?_⟩
    unfold shown
    split
    · exact ⟨5, by decide, rfl⟩
    · exact ⟨n, hn, rfl⟩
  | path course closed offsetX offsetY =>
    obtain ⟨points, hclosed, hoffsetX, hoffsetY⟩ := read
    exact ⟨points, hclosed, isNull_shown hoffsetX rfl, isNull_shown hoffsetY rfl⟩
  | blank => exact read.elim

/-! ### Figures of documents -/

theorem isNull_of_lookup {fields : List (String × Value)} {name : String}
    (each : ∀ field ∈ fields, field.2.isNull = false) (known : (fields.lookup name).isSome = true) :
    ((fields.lookup name).getD .null).isNull = false := by
  obtain ⟨v, hv⟩ := Option.isSome_iff_exists.1 known
  rw [hv]
  induction fields with
  | nil => cases hv
  | cons field rest ih =>
    obtain ⟨first, others⟩ := List.forall_mem_cons.1 each
    rw [List.lookup_cons] at hv
    split at hv
    · cases hv
      exact first
    · exact ih others (by rw [hv]; rfl) hv

/-- What settings that are not null leave no property null. -/
theorem isNull_of_settings {kind : FigureKind} {given : List (String × Value)}
    {option : String → Value} (each : ∀ field ∈ given, field.2.isNull = false)
    (success : Value.settings (defaults kind) given = .ok option) {name : String}
    (known : ((defaults kind).lookup name).isSome = true) : (option name).isNull = false := by
  unfold Value.settings at success
  split at success
  · cases success
  · cases success
    refine isNull_of_lookup (List.forall_mem_append.2 ⟨each, ?_⟩) ?_
    · cases kind <;> simp [defaults, Value.isNull]
    · rw [List.lookup_append, Option.isSome_or, known, Bool.or_true]

theorem exists_of_ofValue {v : Value} {p : Point Value} (success : Point.ofValue v = .ok p) :
    ∃ x y : Binary64, p = ⟨.float x, .float y⟩ := by
  unfold Point.ofValue at success
  split at success
  all_goals
    obtain ⟨_, -, success⟩ := bind_eq_ok_iff.1 success
    obtain ⟨x, -, success⟩ := bind_eq_ok_iff.1 success
    obtain ⟨_, -, success⟩ := bind_eq_ok_iff.1 success
    obtain ⟨y, -, success⟩ := bind_eq_ok_iff.1 success
    cases success
    exact ⟨x, y, rfl⟩

theorem exists_course {points : List (Point Value)}
    (doubles : ∀ p ∈ points, ∃ x y : Binary64, p = ⟨.float x, .float y⟩) :
    ∃ ps : List (Binary64 × Binary64),
      Course.points points = .points (ps.map fun p => ⟨.float p.1, .float p.2⟩) := by
  induction points with
  | nil => exact ⟨[], rfl⟩
  | cons p rest ih =>
    obtain ⟨⟨x, y, rfl⟩, others⟩ := List.forall_mem_cons.1 doubles
    obtain ⟨ps, same⟩ := ih others
    cases same
    exact ⟨(x, y) :: ps, rfl⟩

/-- A figure whose options are not null is one that documents give. -/
theorem isRead_ofOptions {kind : FigureKind} {given : List (String × Value)} {f : Figure}
    (each : ∀ field ∈ given, field.2.isNull = false) (hkind : kind ≠ .blank)
    (success : ofOptions kind given = .ok f) : f.kind = kind ∧ f.IsRead := by
  obtain ⟨option, hoption, success⟩ := bind_eq_ok_iff.1 success
  have present {name : String} (known : ((defaults kind).lookup name).isSome = true) :
      (option name).isNull = false := isNull_of_settings each hoption known
  cases kind with
  | rectangle =>
    cases success
    exact ⟨rfl, present rfl, present rfl, present rfl, present rfl⟩
  | polygon =>
    obtain ⟨n, hn, success⟩ := bind_eq_ok_iff.1 success
    cases success
    obtain ⟨m, -, hm⟩ := bind_eq_ok_iff.1 hn
    refine ⟨rfl, present rfl, present rfl, present rfl, n, ?_, rfl⟩
    cases hm
    exact Int.le_max_left 3 m
  | path =>
    obtain ⟨items, -, success⟩ := bind_eq_ok_iff.1 success
    obtain ⟨points, hpoints, success⟩ := bind_eq_ok_iff.1 success
    cases success
    have doubles : ∀ p ∈ points, ∃ x y : Binary64, p = ⟨.float x, .float y⟩ := by
      intro p member
      obtain ⟨item, -, made⟩ := exists_of_mem_mapM hpoints member
      exact exists_of_ofValue made
    exact ⟨rfl, exists_course doubles, present rfl, present rfl, present rfl⟩
  | blank => exact absurd rfl hkind

end Figure

end Joinery
