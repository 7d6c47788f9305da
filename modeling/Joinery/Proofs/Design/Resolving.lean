import Joinery.Design.Layout
import Joinery.Proofs.Design.Reloading

/-!
# What was read back resolves alike

Between a design and what is read back from its document, resolving shapes and laying out joints
cannot tell: the outcomes are the same, with the same notices and the same failures.
-/
namespace Joinery

/-- Designs against which bindings resolve the same, and whose edges have the same joints. -/
structure Design.Alike (d d' : Design) : Prop where
  bindings : ∀ b : Binding, b.resolve d'.environment = b.resolve d.environment
  joints : d'.joints.joints = d.joints.joints

/-- Shapes that resolve the same, and have the same id. -/
structure Shape.Alike (s s' : Shape) : Prop where
  resolves : ∀ env, (s'.resolve env).outcome = (s.resolve env).outcome
  id : s'.id = s.id

namespace Edit

variable {α β γ γ' : Type}

/-- Edits that have the same outcome on designs that are alike, and leave designs that are. -/
def Alike (e e' : Edit α) : Prop :=
  ∀ d d' : Design, d.Alike d' → (e' d').1 = (e d).1 ∧ (e d).2.Alike (e' d').2

/-- What does not look at the design is alike with itself. -/
theorem alike_outcome (x : Outcome α) : Alike (fun d => (x, d)) fun d => (x, d) :=
  fun _ _ same => ⟨rfl, same⟩

theorem alike_pure (a : α) : Alike (pure a) (pure a) := alike_outcome _

theorem Alike.bind {first first' : Edit α} {next next' : α → Edit β} (start : first.Alike first')
    (later : ∀ a, (next a).Alike (next' a)) : (first >>= next).Alike (first' >>= next') := by
  intro d d' same
  obtain ⟨outcome, after⟩ := start d d' same
  cases result : (first d).1.result with
  | error failure =>
    rw [bind_apply_of_error result, bind_apply_of_error (outcome.symm ▸ result), outcome]
    exact ⟨rfl, after⟩
  | ok a =>
    obtain ⟨outcome', after'⟩ := later a _ _ after
    rw [bind_apply_of_ok result, bind_apply_of_ok (outcome.symm ▸ result), outcome, outcome']
    exact ⟨rfl, after'⟩

theorem alike_design_bind {next next' : Design → Edit β}
    (later : ∀ d d', d.Alike d' → (next d).Alike (next' d')) :
    (design >>= next).Alike (design >>= next') :=
  fun d d' same => later d d' same d d' same

theorem alike_modify {change change' : Design → Design}
    (kept : ∀ d d', d.Alike d' → (change d).Alike (change' d')) :
    (modify change).Alike (modify change') :=
  fun d d' same => ⟨rfl, kept d d' same⟩

/-- A walk through lists whose items are alike one by one. -/
theorem alike_mapM {f : γ → Edit β} {f' : γ' → Edit β} {R : γ → γ' → Prop} {items : List γ}
    {items' : List γ'} (each : List.Forall₂ R items items')
    (alike : ∀ item item', R item item' → (f item).Alike (f' item')) :
    (items.mapM f).Alike (items'.mapM f') := by
  -- The walk gathers its results in reverse, so what is done so far is generalised.
  have loop : ∀ done, (List.mapM.loop f items done).Alike (List.mapM.loop f' items' done) := by
    induction each with
    | nil => exact fun done => alike_pure done.reverse
    | cons first _ ih => exact fun done => (alike _ _ first).bind fun b => ih (b :: done)
  exact loop []

end Edit

namespace JointStore

theorem get_congr {s s' : JointStore} (same : s'.joints = s.joints) (e : Edge Value) :
    s'.get e = s.get e := by
  unfold get at?
  rw [same]

end JointStore

namespace Design

open Edit

theorem alike_resolveAt {s s' : Shape} (same : s.Alike s') (key : Value.Key) :
    (resolveAt key s).Alike (resolveAt key s') := by
  refine alike_design_bind fun d d' alike => ?_
  have outcome : (s'.resolve d'.environment).outcome = (s.resolve d.environment).outcome := by
    rw [same.resolves, Shape.resolve_congr alike.bindings]
  refine Alike.bind (alike_modify fun _ _ kept => ⟨kept.bindings, kept.joints⟩) fun _ => ?_
  rw [outcome]
  exact alike_outcome _

theorem alike_jointedEdges (s : Shape) : (jointedEdges s).Alike (jointedEdges s) := by
  refine Alike.bind (alike_outcome _) fun bounds => ?_
  refine alike_design_bind fun d d' alike => ?_
  refine Alike.bind (alike_outcome _) fun edges => ?_
  have joints : (edges.filterMap fun e => (d'.joints.get e).map (e, ·)) =
      edges.filterMap fun e => (d.joints.get e).map (e, ·) := by
    simp only [JointStore.get_congr alike.joints]
  dsimp only
  rw [joints]
  refine alike_mapM (R := Eq) (List.forall₂_eq_eq_eq ▸ rfl) ?_
  rintro ⟨e, j⟩ _ rfl
  refine Alike.bind (alike_outcome _) fun cut => ?_
  refine Alike.bind (alike_outcome _) fun _ => ?_
  exact Alike.bind (alike_outcome _) fun outlines => alike_pure _

variable {d d' : Design}

/-- Places that are alike one by one. -/
def PlacesAlike (d d' : Design) : Prop :=
  List.Forall₂ (fun place place' => place'.1 = place.1 ∧ place.2.Alike place'.2) d.places d'.places

/-- The jointed edges of the shape in a place. -/
def jointedAt (place : Value.Key × Shape) : Edit (List JointedEdge) := do
  jointedEdges (← resolveAt place.1 place.2)

theorem layout_alike (same : d.Alike d') (places : PlacesAlike d d') (id : Option Value) :
    (layout id d').1 = (layout id d).1 := by
  let chosen (place : Value.Key × Shape) : Bool := id.all place.2.id.equals
  have kept := List.rel_filter (p := chosen) (q := chosen)
    (fun place place' alike => by dsimp only [chosen]; rw [alike.2.id]) places
  have parts : ((d.places.filter chosen).mapM jointedAt).Alike
      ((d'.places.filter chosen).mapM jointedAt) :=
    alike_mapM kept fun place place' alike => by
      unfold jointedAt
      rw [alike.1]
      exact (alike_resolveAt alike.2 place.1).bind alike_jointedEdges
  have whole : ((d.places.filter chosen).mapM jointedAt >>= fun parts => pure parts.flatten).Alike
      ((d'.places.filter chosen).mapM jointedAt >>= fun parts => pure parts.flatten) :=
    parts.bind fun _ => alike_pure _
  exact (whole d d' same).1

theorem resolveAll_alike (same : d.Alike d') (places : PlacesAlike d d') :
    (resolveAll d').1 = (resolveAll d).1 := by
  have each : (d.places.mapM fun place => resolveAt place.1 place.2).Alike
      (d'.places.mapM fun place => resolveAt place.1 place.2) :=
    alike_mapM places fun place place' alike => by
      rw [alike.1]
      exact alike_resolveAt alike.2 place.1
  exact (each d d' same).1

/-! ### What was read back -/

theorem alike_reloaded {d : Design} (read : d.IsRead) (settings : Settings) :
    d.Alike (d.reloaded settings) := by
  refine ⟨fun b => ?_, rfl⟩
  have environment : (d.reloaded settings).environment =
      ⟨some d.parameters.reloaded, some d.functions⟩ := by
    rw [read.functions]
    rfl
  rw [environment]
  exact Binding.resolve_reloaded d.parameters (some d.functions) b

theorem shape_alike_reloaded {d : Design} (read : d.IsRead) {key : Value.Key} {s : Shape}
    (member : (key, s) ∈ d.places) : s.Alike s.reloaded := by
  obtain ⟨⟨_, id, _⟩, hentry, same⟩ := List.mem_map.1 member
  cases same
  obtain ⟨-, -, hs⟩ := read.shapes (id, s) (List.mem_map.2 ⟨_, hentry, rfl⟩)
  exact ⟨hs.resolve_reloaded, rfl⟩

theorem placesAlike_reloaded {d : Design} (read : d.IsRead) (settings : Settings) :
    PlacesAlike d (d.reloaded settings) := by
  have places : (d.reloaded settings).places =
      d.places.map fun place => (place.1, place.2.reloaded) := Catalogue.slots_map _ _
  unfold PlacesAlike
  rw [places, List.forall₂_map_right_iff, List.forall₂_same]
  exact fun place member => ⟨rfl, shape_alike_reloaded read member⟩

theorem resolve_reloaded {d : Design} (read : d.IsRead) (settings : Settings) (id : Value) :
    (resolve id (d.reloaded settings)).1 = (resolve id d).1 := by
  unfold resolve
  rw [design_bind_apply, design_bind_apply]
  refine (Alike.bind (alike_outcome _) (fun key => ?_) d _ (alike_reloaded read settings)).1
  have found : (d.reloaded settings).shapes.at? key = (d.shapes.at? key).map Shape.reloaded :=
    Catalogue.at?_map _ _ _
  rw [found]
  cases there : d.shapes.at? key with
  | none => exact alike_pure none
  | some s =>
    have same := shape_alike_reloaded read (Catalogue.mem_slots_of_at? there)
    exact (alike_resolveAt same key).bind fun _ => alike_pure _

/-- A design that was read from a document, whose ranges are infinite to the open sides only, is
written, and what is written reads back under any settings. What is read back is written the same,
where a zero may have lost its sign; its shapes are stored under the same keys in the same order,
and resolve the same, with the same notices and failures, one by one as well as all together; and
its layouts are the same, edge by edge. -/
theorem reload_alike (settings settings' : Settings) {v : Value} {d : Design}
    (loaded : (ofValue settings v).result = .ok d) (bounded : d.isBounded = true) :
    ∃ w d' w', d.toValue = .ok w ∧ (ofValue settings' w).result = .ok d' ∧
      d'.toValue = .ok w' ∧ w'.unsigned = w.unsigned ∧ (w.IsDistinct → w.same w' = true) ∧
      List.Forall₂ (fun place place' => place'.1 = place.1 ∧
        (place'.2.resolve d'.environment).outcome = (place.2.resolve d.environment).outcome)
        d.places d'.places ∧
      (∀ id, (resolve id d').1 = (resolve id d).1) ∧ (resolveAll d').1 = (resolveAll d).1 ∧
      ∀ id, (layout id d').1 = (layout id d).1 := by
  have read := isRead_ofValue loaded
  have same := alike_reloaded read settings'
  have places := placesAlike_reloaded read settings'
  obtain ⟨w, w', hw, back, hw', unsigned⟩ := read.written_back bounded settings'
  refine ⟨w, d.reloaded settings', w', hw, back, hw', unsigned, ?_, ?_, ?_, ?_, ?_⟩
  · exact Value.same_of_unsigned_eq w w' unsigned.symm
  · refine places.imp fun place place' alike => ⟨alike.1, ?_⟩
    rw [alike.2.resolves, Shape.resolve_congr same.bindings]
  · exact resolve_reloaded read settings'
  · exact resolveAll_alike same places
  · exact layout_alike same places

/-- A panel whose width is bound to a formula over a parameter, cut off at fifty, with a joint on
its first edge. -/
def panel : Value := .object [
  ("parameters", .list [.object [("id", .text "p1"), ("name", .text "w"), ("value", .int 30),
    ("min", .int 1)]]),
  ("shapes", .list [.object [("id", .text "panel"), ("type", .text "rectangle"), ("width", .int 7),
    ("bindings", .object [("width", .object [("type", .text "processed"),
      ("wrappedBinding", .object [("type", .text "expression"), ("expression", .text "w*2")]),
      ("handlers", .list [.object [("type", .text "clamp"), ("max", .int 50)]])])])]]),
  ("edgeJoinery", .list [.object [("key", .text "panel:0:0"), ("type", .text "finger_joint")]])]

theorem reload_alike_panel : ∃ d, (ofValue {} panel).result = .ok d ∧ d.isBounded = true ∧
    (layout none d).1.result.toOption.any (fun edges => edges.map (·.joint.type.shown) ==
      ["finger_joint"]) = true ∧
    ∃ w d', d.toValue = .ok w ∧ (ofValue {} w).result = .ok d' ∧
      (resolveAll d').1 = (resolveAll d).1 ∧ ∀ id, (layout id d').1 = (layout id d).1 := by
  have read : ((ofValue {} panel).result.toOption.any fun d => d.isBounded &&
      (layout none d).1.result.toOption.any fun edges => edges.map (·.joint.type.shown) ==
        ["finger_joint"]) = true := by
    decide +kernel
  cases loaded : (ofValue {} panel).result with
  | error failure =>
    rw [loaded] at read
    cases read
  | ok d =>
    rw [loaded] at read
    obtain ⟨bounded, jointed⟩ := (Bool.and_eq_true _ _).mp read
    obtain ⟨w, d', -, hw, back, -, -, -, -, -, all, layouts⟩ := reload_alike {} {} loaded bounded
    exact ⟨d, rfl, bounded, jointed, w, d', hw, back, all, layouts⟩

end Design

end Joinery
