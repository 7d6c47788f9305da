import Joinery.Proofs.Design.Resolving
import Joinery.Proofs.Joint.Outlines
import Joinery.Proofs.Shape.Drawing

/-!
# Layouts of resolved shapes

The layout of a design resolves each shape against the same environment and then draws it, so it is
told by the resolved shapes and the joints alone. A resolved shape is drawn just when its figure can
be and no joint of its edges asks for a number that no double is near.
-/
namespace Joinery

/-! ### Resolved shapes -/

namespace Figure

theorem IsRead.sketch {f : Figure} (read : f.IsRead) : f.IsSketch := by
  cases f with
  | rectangle | polygon => trivial
  | path course => exact read.1
  | blank => exact read.elim

theorem IsSketch.withProperty? {f g : Figure} {name : String} {v : Value} (sketch : f.IsSketch)
    (member : name ∈ bindable f.kind) (changed : f.withProperty? name v = some g) :
    g.IsSketch := by
  cases f with
  | rectangle | polygon =>
    simp only [kind, bindable, List.mem_cons, List.not_mem_nil, or_false] at member
    rcases member with rfl | rfl | rfl | rfl <;> cases changed <;> trivial
  | path course =>
    simp only [kind, bindable, List.mem_cons, List.not_mem_nil, or_false] at member
    rcases member with rfl | rfl <;> cases changed <;> exact sketch
  | blank => cases member

end Figure

namespace Shape

/-- A shape without attributes of its own, whose figure has an outline to ask for. -/
structure IsSketch (s : Shape) : Prop where
  plain : s.extras = Table.empty
  figure : s.figure.IsSketch

theorem IsSketch.withAttribute {s : Shape} {name : String} (sketch : s.IsSketch)
    (member : name ∈ Figure.bindable s.figure.kind) (v : Value) :
    (s.withAttribute name v).IsSketch ∧ (s.withAttribute name v).figure.kind = s.figure.kind := by
  obtain ⟨g, changed, same⟩ := Figure.exists_withProperty? member v
  rw [withAttribute_of_mem member changed]
  exact ⟨⟨sketch.plain, sketch.figure.withProperty? member changed⟩, same⟩

/-- Resolving properties of a sketch leaves a sketch. -/
theorem IsSketch.resolveProperties {env : Environment} {names : List String} {s r r' : Shape}
    (sketch : r.IsSketch) (known : ∀ name ∈ names, name ∈ Figure.bindable r.figure.kind)
    (success : (resolveProperties env (names.map .text) s r).1.result = .ok r') : r'.IsSketch := by
  induction names generalizing s r with
  | nil =>
    cases success
    exact sketch
  | cons name rest ih =>
    obtain ⟨first, others⟩ := List.forall_mem_cons.1 known
    have step (v : Value) : (r.withAttribute name v).IsSketch ∧
        ∀ other ∈ rest, other ∈ Figure.bindable (r.withAttribute name v).figure.kind := by
      obtain ⟨kept, same⟩ := sketch.withAttribute first v
      rw [same]
      exact ⟨kept, others⟩
    rw [List.map_cons, Shape.resolveProperties] at success
    split at success
    · cases success
    · split at success
      · cases success
      · next v _ => exact ih (step v).1 (step v).2 success
    · dsimp only at success
      split at success
      · cases success
      · next v _ => exact ih (step v).1 (step v).2 success

theorem IsSketch.resolve {env : Environment} {s s' : Shape} (sketch : s.IsSketch)
    (success : (s.resolve env).outcome.result = .ok s') : s'.IsSketch := by
  have names : s.perform "resolve" >>= (fun _ => s.resolvable) =
      .ok ((Figure.bindable s.figure.kind).map .text) := by
    rw [perform_of_plain sketch.plain, resolvable_of_plain sketch.plain]
    rfl
  unfold Shape.resolve at success
  rw [names] at success
  exact sketch.resolveProperties (fun _ member => member) success

end Shape

/-! ### Edits that look at bindings and joints alone -/

namespace Edit

variable {α β γ : Type} {env : Environment} {joints : JointStore}

/-- The edit has one result at all designs with an environment and joints, and leaves both as they
are. -/
def Yields (env : Environment) (joints : JointStore) (e : Edit α) (x : Except Failure α) : Prop :=
  ∀ d : Design, d.environment = env → d.joints = joints →
    (e d).1.result = x ∧ (e d).2.environment = env ∧ (e d).2.joints = joints

theorem yields_outcome (x : Outcome α) : Yields env joints (fun d => (x, d)) x.result :=
  fun _ henv hjoints => ⟨rfl, henv, hjoints⟩

theorem Yields.bind {e : Edit α} {x : Except Failure α} {f : α → Edit β}
    {g : α → Except Failure β} (first : Yields env joints e x)
    (next : ∀ a, Yields env joints (f a) (g a)) : Yields env joints (e >>= f) (x >>= g) := by
  intro d henv hjoints
  obtain ⟨result, henv, hjoints⟩ := first d henv hjoints
  cases x with
  | error failure =>
    rw [bind_apply_of_error result]
    exact ⟨rfl, henv, hjoints⟩
  | ok a =>
    rw [bind_apply_of_ok result]
    exact next a _ henv hjoints

theorem Yields.design_bind {f : Design → Edit β} {y : Except Failure β}
    (next : ∀ d : Design, d.environment = env → d.joints = joints → Yields env joints (f d) y) :
    Yields env joints (design >>= f) y :=
  fun d henv hjoints => next d henv hjoints d henv hjoints

theorem yields_mapM {f : γ → Edit β} {g : γ → Except Failure β}
    (each : ∀ item, Yields env joints (f item) (g item)) (items : List γ) :
    Yields env joints (items.mapM f) (items.mapM g) := by
  -- Both walks gather their results in reverse, so what is done so far is generalised.
  have loop : ∀ done, Yields env joints (List.mapM.loop f items done)
      (List.mapM.loop g items done) := by
    induction items with
    | nil => exact fun done => yields_outcome (pure done.reverse)
    | cons item rest ih => exact fun done => (each item).bind fun b => ih (b :: done)
  exact loop []

end Edit

namespace Design

open Edit

/-! ### Drawing -/

/-- The teeth and their corners of an edge with a joint within bounds. -/
def drawnEdge (bounds : Box Value) (e : Edge Value) (j : Joint) : Except Failure JointedEdge := do
  let cut ← (Tooth.cut (some e) (some j) (some bounds) : Except Misuse _)
  let outlines ← (cut.list.mapM (Tooth.outline e) : Except Misuse _)
  return ⟨e, j, cut.list, outlines⟩

/-- The jointed edges of a resolved shape. -/
def drawn (joints : JointStore) (s : Shape) : Except Failure (List JointedEdge) := do
  let bounds ← s.bounds
  let edges ← s.edges
  (edges.filterMap fun e => (joints.get e).map (e, ·)).mapM fun (e, j) => drawnEdge bounds e j

variable {env : Environment} {joints : JointStore}

theorem yields_misuse {α : Type} (x : Except Misuse α) :
    Yields env joints (liftM x : Edit α) (liftM x) := by
  cases x with
  | ok a => exact yields_outcome (liftM (.ok a : Except Misuse α))
  | error cause => exact yields_outcome (liftM (.error cause : Except Misuse α))

theorem yields_jointedEdge (bounds : Box Value) (e : Edge Value) (j : Joint) :
    Yields env joints (jointedEdge bounds e j) (drawnEdge bounds e j) := by
  refine (yields_misuse _).bind fun cut => ?_
  have told : Yields env joints (Edit.notices cut.notices) (.ok ()) := yields_outcome ⟨.ok (), _⟩
  refine told.bind (g := fun _ => _) fun _ => ?_
  exact (yields_misuse _).bind fun outlines => yields_outcome
    (pure (⟨e, j, cut.list, outlines⟩ : JointedEdge))

theorem yields_jointedEdges (s : Shape) : Yields env joints (jointedEdges s) (drawn joints s) := by
  refine (yields_outcome (liftM s.bounds)).bind fun bounds => ?_
  refine Yields.design_bind fun d _ hjoints => ?_
  refine (yields_outcome (liftM s.edges)).bind fun edges => ?_
  dsimp only
  rw [hjoints]
  refine yields_mapM (fun place => ?_) _
  exact yields_jointedEdge bounds place.1 place.2

theorem yields_resolveAt (key : Value.Key) (s : Shape) :
    Yields env joints (resolveAt key s) (s.resolve env).outcome.result := by
  intro d henv hjoints
  rw [← henv]
  exact ⟨rfl, rfl, hjoints⟩

theorem places_snd (d : Design) : d.places.map Prod.snd = d.all := by
  unfold places all Catalogue.slots Catalogue.values Catalogue.entries Table.values
  simp

/-- The jointed edges of a shape that is resolved against an environment. -/
def resolvedDrawn (env : Environment) (joints : JointStore) (s : Shape) :
    Except Failure (List JointedEdge) :=
  (s.resolve env).outcome.result >>= drawn joints

theorem yields_jointedAt (place : Value.Key × Shape) :
    Yields env joints (jointedAt place) (resolvedDrawn env joints place.2) :=
  (yields_resolveAt place.1 place.2).bind yields_jointedEdges

/-- A layout is that of the shapes that are asked for, one after the other. -/
theorem layout_chosen_eq (id : Option Value) (d : Design) :
    (layout id d).1.result =
      (d.all.filter fun s => id.all s.id.equals).mapM (resolvedDrawn d.environment d.joints) >>=
        fun parts => .ok parts.flatten := by
  let chosen := d.places.filter fun place => id.all place.2.id.equals
  have parts : Yields d.environment d.joints (chosen.mapM jointedAt)
      (chosen.mapM fun place => resolvedDrawn d.environment d.joints place.2) :=
    yields_mapM yields_jointedAt chosen
  have whole := parts.bind fun parts => yields_outcome (pure parts.flatten)
  unfold layout
  rw [design_bind_apply, ← places_snd, List.filter_map, List.mapM_map]
  exact (whole d rfl rfl).1

/-- The layout of a design is that of its shapes, one after the other. -/
theorem layout_eq (d : Design) :
    (layout none d).1.result =
      d.all.mapM (resolvedDrawn d.environment d.joints) >>= fun parts => .ok parts.flatten := by
  have every : d.all.filter (fun s => (none : Option Value).all s.id.equals) = d.all :=
    List.filter_true d.all
  rw [layout_chosen_eq, every]

theorem resolvedDrawn_eq {s s' : Shape} (success : (s.resolve env).outcome.result = .ok s') :
    resolvedDrawn env joints s = drawn joints s' := by
  unfold resolvedDrawn
  rw [success, ok_bind]

/-! ### What is drawn -/

end Design

namespace Design

variable {joints : JointStore} {s : Shape}

theorem mem_jointed_iff {edges : List (Edge Value)} {e : Edge Value} {j : Joint} :
    (e, j) ∈ edges.filterMap (fun e => (joints.get e).map (e, ·)) ↔
      e ∈ edges ∧ joints.get e = some j := by
  simp only [List.mem_filterMap, Option.map_eq_some_iff, Prod.mk.injEq]
  constructor
  · rintro ⟨e, member, j, joint, rfl, rfl⟩
    exact ⟨member, joint⟩
  · rintro ⟨member, joint⟩
    exact ⟨e, member, j, joint, rfl, rfl⟩

theorem drawn_eq {bounds : Box Value} {edges : List (Edge Value)} (hbounds : s.bounds = .ok bounds)
    (hedges : s.edges = .ok edges) :
    drawn joints s = (edges.filterMap fun e => (joints.get e).map (e, ·)).mapM fun place =>
      drawnEdge bounds place.1 place.2 := by
  unfold drawn
  rw [hbounds, ok_bind, hedges, ok_bind]

/-- The shapes of a design with what they resolve to. -/
def ResolvesTo (d : Design) (resolved : List Shape) : Prop :=
  List.Forall₂ (fun s s' => (s.resolve d.environment).outcome.result = .ok s') d.all resolved

variable {d : Design} {resolved : List Shape}

/-- A design whose shapes all resolve is laid out as the resolved shapes are drawn. -/
theorem ResolvesTo.layout_eq (each : d.ResolvesTo resolved) :
    (layout none d).1.result =
      resolved.mapM (drawn d.joints) >>= fun parts => .ok parts.flatten := by
  rw [Design.layout_eq]
  unfold ResolvesTo at each
  generalize d.all = shapes at each
  congr 1
  induction each with
  | nil => rfl
  | cons first _ ih => rw [List.mapM_cons, List.mapM_cons, resolvedDrawn_eq first, ih]

/-- The shapes of a design that was read are sketches, and so is what they resolve to. -/
theorem ResolvesTo.sketch (each : d.ResolvesTo resolved) (read : d.IsRead) :
    ∀ s ∈ resolved, s.IsSketch := by
  have sketches : ∀ s ∈ d.all, s.IsSketch := by
    intro s member
    obtain ⟨entry, hentry, rfl⟩ := List.mem_map.1 member
    have own := (read.shapes entry hentry).2.2
    exact ⟨own.plain, own.figure.sketch⟩
  unfold ResolvesTo at each
  generalize d.all = shapes at each sketches
  induction each with
  | nil => exact nofun
  | cons first _ ih =>
    obtain ⟨sketch, others⟩ := List.forall_mem_cons.1 sketches
    exact List.forall_mem_cons.2 ⟨sketch.resolve first, ih others⟩

end Design

end Joinery
