import Joinery.Proofs.Design.Drawing
import Joinery.Proofs.Geometry.Edges
import Joinery.Proofs.Shape.Values

/-!
# Layouts of some shapes

A layout lists the edges with joints of one shape after the other, so a layout of some shapes is a
part of the layout of all of them, with a part of its warnings. Which part it is can be told by the
edges, as each carries the id of its shape, if it is not empty and resolving does not change it.
-/
namespace Joinery

/-! ### What is listed -/

namespace Path

variable {α : Type}

theorem shape_of_mem_edgesOf {shape : Value} {outlines : List (Path α)} {e : Edge α}
    (member : e ∈ edgesOf shape outlines) : e.shape = shape := by
  obtain ⟨_, _, place⟩ := place_of_mem_edgesOf member
  exact congrArg Prod.fst place

end Path

theorem Tooth.Cut.warnings_notices (cut : Cut Value) : Notice.warnings cut.notices = [] := by
  rcases cut with - | - | - | ⟨-, _ | -, -, -⟩ <;> rfl

theorem Tooth.length_outline {e : Edge Value} {t : Tooth Value} {corners : List (Point Value)}
    (drawn : outline e t = .ok corners) : corners.length = 4 := by
  unfold outline at drawn
  -- whatever the corners are, they come last
  repeat obtain ⟨_, -, drawn⟩ := bind_eq_ok_iff.1 drawn
  cases drawn
  rfl

/-- An entry of a layout is right for the joints of a design and the bounds of the shape. -/
structure JointedEdge.IsRight (joints : JointStore) (bounds : Box Value) (entry : JointedEdge) :
    Prop where
  joint : joints.get entry.edge = some entry.joint
  teeth : ∃ cut, Tooth.synthesize (some entry.edge) (.inl entry.joint) (some bounds) = .ok cut ∧
    entry.teeth = cut.list
  outlines : List.Forall₂ (fun t corners => Tooth.outline entry.edge t = .ok corners ∧
    corners.length = 4) entry.teeth entry.outlines

/-- The list has an entry for each edge of a resolved shape that has a joint, in the order in which
the edges are counted. -/
structure Shape.IsListed (joints : JointStore) (s : Shape) (entries : List JointedEdge) :
    Prop where
  edges : ∃ edges, s.edges = .ok edges ∧
    entries.map JointedEdge.edge = edges.filter fun e => (joints.get e).isSome
  ordered : (entries.map JointedEdge.edge).Pairwise Edge.Precedes
  owned : ∀ entry ∈ entries, entry.edge.shape = s.id.orElse .null
  right : ∃ bounds, s.bounds = .ok bounds ∧ ∀ entry ∈ entries, entry.IsRight joints bounds

namespace Design

variable {joints : JointStore} {s : Shape}

theorem isRight_of_drawnEdge {bounds : Box Value} {e : Edge Value} {j : Joint}
    {entry : JointedEdge} (joint : joints.get e = some j)
    (made : drawnEdge bounds e j = .ok entry) : entry.edge = e ∧ entry.IsRight joints bounds := by
  obtain ⟨cut, hcut, made⟩ := bind_eq_ok_iff.1 made
  obtain ⟨outlines, houtlines, made⟩ := bind_eq_ok_iff.1 made
  cases made
  refine ⟨rfl, joint, ⟨cut, liftM_eq_ok_iff.1 hcut, rfl⟩, ?_⟩
  refine (mapM_eq_ok_iff.1 (liftM_eq_ok_iff.1 houtlines)).imp fun t corners drawn => ?_
  exact ⟨drawn, Tooth.length_outline drawn⟩

theorem map_fst_jointed (edges : List (Edge Value)) :
    (edges.filterMap fun e => (joints.get e).map (e, ·)).map Prod.fst =
      edges.filter fun e => (joints.get e).isSome := by
  rw [List.map_filterMap, ← List.filterMap_eq_filter]
  refine List.filterMap_congr fun e _ => ?_
  cases found : joints.get e <;> simp [Option.guard, found]

/-- What is drawn of a resolved shape is what has to be listed of it. -/
theorem isListed_of_drawn {entries : List JointedEdge} (success : drawn joints s = .ok entries) :
    s.IsListed joints entries := by
  obtain ⟨bounds, hbounds, rest⟩ := bind_eq_ok_iff.1 success
  obtain ⟨edges, hedges, -⟩ := bind_eq_ok_iff.1 rest
  obtain ⟨own, -, rfl⟩ := Shape.exists_outlines hedges
  rw [drawn_eq hbounds hedges] at success
  have each (place : Edge Value × Joint) (entry : JointedEdge)
      (member : place ∈ (Path.edgesOf (s.id.orElse .null) own).filterMap
        fun e => (joints.get e).map (e, ·))
      (made : drawnEdge bounds place.1 place.2 = .ok entry) :=
    isRight_of_drawnEdge (mem_jointed_iff.1 member).2 made
  have listed : entries.map JointedEdge.edge = (Path.edgesOf (s.id.orElse .null) own).filter
      fun e => (joints.get e).isSome := by
    have made := (List.forall₂_and_left _ _).2
      ⟨fun place member => member, mapM_eq_ok_iff.1 success⟩
    rw [← map_fst_jointed, eq_comm, ← List.forall₂_eq_eq_eq, List.forall₂_map_left_iff,
      List.forall₂_map_right_iff]
    exact made.imp fun place entry h => (each place entry h.1 h.2).1.symm
  refine ⟨⟨_, hedges, listed⟩, ?_, fun entry member => ?_, bounds, hbounds, fun entry member => ?_⟩
  · rw [listed]
    exact (Path.pairwise_edgesOf _ own).filter _
  · have among := List.mem_map_of_mem (f := JointedEdge.edge) member
    rw [listed] at among
    exact Path.shape_of_mem_edgesOf (List.mem_of_mem_filter among)
  · obtain ⟨place, among, made⟩ := exists_of_mem_mapM success member
    exact (each place entry among made).2

end Design

/-! ### Traces in designs -/

/-- The warnings that resolving a shape gives. -/
def Shape.warnings (env : Environment) (s : Shape) : List Formula.Diagnostic :=
  Notice.warnings (s.resolve env).outcome.notices

/-- A shape with traces is drawn like the shape without, with the same warnings. -/
theorem Shape.Traced.resolvedDrawn_eq (env : Environment) (joints : JointStore) {s t : Shape}
    (traced : s.Traced t) (ordinary : s.IsOrdinary) :
    Design.resolvedDrawn env joints t = Design.resolvedDrawn env joints s ∧
      t.warnings env = s.warnings env := by
  obtain ⟨notices, results⟩ : (s.resolve env).outcome.Agrees SameFields (t.resolve env).outcome :=
    agrees_resolve ordinary traced.fields fun name _ => traced.values env name
  refine ⟨?_, (congrArg Notice.warnings notices).symm⟩
  unfold Design.resolvedDrawn
  generalize (s.resolve env).outcome.result = x at results
  generalize (t.resolve env).outcome.result = y at results
  cases results with
  | error failure => rfl
  | ok same =>
    rw [same]
    rfl

namespace Design

/-- The second design is the first one with traces of resolving in its shapes. -/
structure Traced (d d' : Design) : Prop where
  environment : d'.environment = d.environment
  joints : d'.joints = d.joints
  places : List.Forall₂ (fun place place' => place'.1 = place.1 ∧ place.2.Traced place'.2)
    d.places d'.places

theorem Traced.refl (d : Design) : d.Traced d where
  environment := rfl
  joints := rfl
  places := List.forall₂_same.2 fun place _ => ⟨rfl, .refl place.2⟩

/-- Traces may be left in one shape after the other: a key is that of one shape. -/
theorem Traced.modify {d d' : Design} (traced : d.Traced d') {place : Value.Key × Shape}
    (member : place ∈ d.places) {t : Shape} (left : place.2.Traced t) :
    d.Traced { d' with shapes := d'.shapes.modify place.1 fun _ => t } where
  environment := traced.environment
  joints := traced.joints
  places := by
    have nodup := d.shapes.nodup_slots
    have changed : ({ d' with shapes := d'.shapes.modify place.1 fun _ => t } : Design).places =
        d'.places.map fun slot => (slot.1, if slot.1 = place.1 then t else slot.2) :=
      d'.shapes.slots_modify place.1 fun _ => t
    rw [changed, List.forall₂_map_right_iff]
    refine ((List.forall₂_and_left _ _).2 ⟨fun other here => here, traced.places⟩).imp ?_
    rintro other slot ⟨here, key, kept⟩
    refine ⟨key, ?_⟩
    dsimp only
    split
    · next same =>
      obtain rfl := List.inj_on_of_nodup_map nodup here member (key.symm.trans same)
      exact left
    · exact kept

end Design

/-! ### Edits that leave traces -/

namespace Edit

variable {α β γ : Type} {d : Design} {told told' : List Formula.Diagnostic}

/-- Of the design or of one with traces, the edit leaves one with traces, and when it succeeds it
has given the warnings. -/
def Traces (d : Design) (e : Edit α) (told : List Formula.Diagnostic) : Prop :=
  ∀ d', d.Traced d' → d.Traced (e d').2 ∧
    ∀ a, (e d').1.result = .ok a → Notice.warnings (e d').1.notices = told

theorem traces_outcome (x : Outcome α) :
    Traces d (fun d' => (x, d')) (Notice.warnings x.notices) :=
  fun _ traced => ⟨traced, fun _ _ => rfl⟩

theorem traces_pure (a : α) : Traces d (pure a) [] := traces_outcome (pure a)

theorem traces_failure (x : Except Failure α) : Traces d (liftM x : Edit α) [] :=
  traces_outcome (.ofExcept x)

theorem traces_misuse (x : Except Misuse α) : Traces d (liftM x : Edit α) [] := by
  cases x with
  | ok a => exact traces_outcome (liftM (.ok a : Except Misuse α))
  | error cause => exact traces_outcome (liftM (.error cause : Except Misuse α))

theorem Traces.bind {e : Edit α} {f : α → Edit β} (first : Traces d e told)
    (next : ∀ a, Traces d (f a) told') : Traces d (e >>= f) (told ++ told') := by
  intro d' traced
  obtain ⟨traced', warned⟩ := first d' traced
  cases result : (e d').1.result with
  | error failure =>
    rw [bind_apply_of_error result]
    exact ⟨traced', nofun⟩
  | ok a =>
    rw [bind_apply_of_ok result]
    obtain ⟨left, later⟩ := next a _ traced'
    refine ⟨left, fun b success => ?_⟩
    rw [← warned a result, ← later b success]
    exact List.filterMap_append

theorem traces_design_bind {f : Design → Edit β}
    (next : ∀ d', d.Traced d' → Traces d (f d') told) : Traces d (design >>= f) told :=
  fun d' traced => next d' traced d' traced

theorem traces_mapM {f : γ → Edit β} {told : γ → List Formula.Diagnostic} {items : List γ}
    (each : ∀ item ∈ items, Traces d (f item) (told item)) :
    Traces d (items.mapM f) (items.flatMap told) := by
  -- The walk gathers its results in reverse, so what is done so far is generalised.
  have loop : ∀ done, Traces d (List.mapM.loop f items done) (items.flatMap told) := by
    induction items with
    | nil => exact fun done => traces_pure done.reverse
    | cons item rest ih =>
      obtain ⟨first, others⟩ := List.forall_mem_cons.1 each
      exact fun done => first.bind fun b => ih others (b :: done)
  exact loop []

end Edit

namespace Design

open Edit

variable {d : Design}

theorem traces_resolveAt {place : Value.Key × Shape} (member : place ∈ d.places) :
    Traces d (resolveAt place.1 place.2) (place.2.warnings d.environment) := by
  intro d' traced
  have left := traced.modify member (place.2.traced_resolve d.environment)
  rw [← traced.environment] at left ⊢
  exact ⟨left, fun _ _ => rfl⟩

theorem traces_jointedEdge (bounds : Box Value) (e : Edge Value) (j : Joint) :
    Traces d (jointedEdge bounds e j) [] := by
  refine (traces_misuse _).bind fun cut => ?_
  have silent : Traces d (Edit.notices cut.notices) [] := by
    rw [← cut.warnings_notices]
    exact traces_outcome ⟨.ok (), cut.notices⟩
  exact silent.bind fun _ => (traces_misuse _).bind fun outlines => traces_pure _

theorem traces_jointedEdges (s : Shape) : Traces d (jointedEdges s) [] := by
  refine (traces_failure s.bounds).bind fun bounds => ?_
  refine traces_design_bind fun d' _ => ?_
  refine (traces_failure s.edges).bind fun edges => (?_ : Traces d _ [])
  let places := edges.filterMap fun e => (d'.joints.get e).map (e, ·)
  have silent : (places.flatMap fun _ => ([] : List Formula.Diagnostic)) = [] :=
    List.flatMap_eq_nil_iff.2 fun _ _ => rfl
  rw [← silent]
  exact traces_mapM fun place _ => traces_jointedEdge bounds place.1 place.2

/-- A layout leaves nothing but traces, and gives the warnings of the shapes that are asked for. -/
theorem traces_layout (id : Option Value) (d : Design) : d.Traced (layout id d).2 ∧
    ∀ found, (layout id d).1.result = .ok found → Notice.warnings (layout id d).1.notices =
      (d.all.filter fun s => id.all s.id.equals).flatMap (Shape.warnings d.environment) := by
  let chosen := d.places.filter fun place => id.all place.2.id.equals
  have parts : Traces d (chosen.mapM jointedAt)
      (chosen.flatMap fun place => place.2.warnings d.environment ++ []) :=
    traces_mapM fun place member =>
      (traces_resolveAt (List.mem_of_mem_filter member)).bind traces_jointedEdges
  have whole := (parts.bind fun parts => traces_pure parts.flatten) d (.refl d)
  rw [← places_snd, List.filter_map, List.flatMap_map]
  simp only [List.append_nil] at whole
  exact whole

end Design

/-! ### Layouts -/

/-- Resolving the shape does not change its id. -/
def Shape.KeepsId (env : Environment) (s : Shape) : Prop :=
  ∀ r, (s.resolve env).outcome.result = .ok r → r.id = s.id

theorem Shape.IsOrdinary.keepsId {s : Shape} (ordinary : s.IsOrdinary) (env : Environment) :
    s.KeepsId env := by
  intro r success
  obtain ⟨-, -, rfl⟩ := (resolve_eq_ok_iff ordinary).1 success
  rfl

namespace Design

variable {env : Environment} {joints : JointStore} {d : Design}

/-- What a layout lists of a shape. -/
def part (env : Environment) (joints : JointStore) (s : Shape) : List JointedEdge :=
  (resolvedDrawn env joints s).toOption.getD []

theorem resolvedDrawn_eq_part {s : Shape}
    (drawn : ∃ entries, resolvedDrawn env joints s = .ok entries) :
    resolvedDrawn env joints s = .ok (part env joints s) := by
  obtain ⟨entries, success⟩ := drawn
  unfold part
  rw [success]
  rfl

theorem isListed_part {s : Shape} (drawn : ∃ entries, resolvedDrawn env joints s = .ok entries) :
    ∃ r, (s.resolve env).outcome.result = .ok r ∧ r.IsListed joints (part env joints s) := by
  obtain ⟨r, resolved, listed⟩ := bind_eq_ok_iff.1 (resolvedDrawn_eq_part drawn)
  exact ⟨r, resolved, isListed_of_drawn listed⟩

/-- A layout is made of what it lists of each shape that is asked for, if every shape is drawn. -/
theorem layout_parts (id : Option Value)
    (drawn : ∀ s ∈ d.all, ∃ entries, resolvedDrawn d.environment d.joints s = .ok entries) :
    (layout id d).1.result =
      .ok ((d.all.filter fun s => id.all s.id.equals).flatMap (part d.environment d.joints)) := by
  rw [layout_chosen_eq]
  refine bind_eq_ok_iff.2 ⟨_, mapM_eq_ok_iff.2 ?_, rfl⟩
  rw [List.forall₂_map_right_iff, List.forall₂_same]
  exact fun s member => resolvedDrawn_eq_part (drawn s (List.mem_of_mem_filter member))

theorem exists_drawn_of_layout {found : List JointedEdge}
    (success : (layout none d).1.result = .ok found) {s : Shape} (member : s ∈ d.all) :
    ∃ entries, resolvedDrawn d.environment d.joints s = .ok entries := by
  rw [layout_eq] at success
  obtain ⟨parts, walked, -⟩ := bind_eq_ok_iff.1 success
  exact exists_mapM_iff.1 ⟨parts, walked⟩ s member

/-- The entries of a shape that keeps its id are told by the id that their edges carry. -/
theorem shape_equals_of_mem_part {s : Shape}
    (drawn : ∃ entries, resolvedDrawn env joints s = .ok entries) (keeps : s.KeepsId env)
    {id : String} (nonempty : id ≠ "") {entry : JointedEdge} (member : entry ∈ part env joints s) :
    entry.edge.shape.equals (.text id) = s.id.equals (.text id) := by
  obtain ⟨r, resolved, listed⟩ := isListed_part drawn
  rw [listed.owned entry member, keeps r resolved, Bool.eq_iff_iff, Value.equals_text_iff,
    Value.equals_text_iff]
  have truthy : (Value.text id).isTruthy = true := by simp [Value.isTruthy, nonempty]
  unfold Value.orElse
  split
  · rfl
  · next empty =>
    refine iff_of_false (by simp) fun same => ?_
    rw [same] at empty
    exact empty truthy

/-- A part of what is listed can be taken before or after listing it. -/
theorem filter_flatMap_eq {α β : Type} {items : List α} {list : α → List β} {p : α → Bool}
    {q : β → Bool} (same : ∀ item ∈ items, ∀ b ∈ list item, q b = p item) :
    (items.flatMap list).filter q = (items.filter p).flatMap list := by
  induction items with
  | nil => rfl
  | cons item rest ih =>
    obtain ⟨first, others⟩ := List.forall_mem_cons.1 same
    rw [List.flatMap_cons, List.filter_append, ih others, List.filter_cons]
    split
    · next taken =>
      rw [List.flatMap_cons, List.filter_eq_self.2 fun b member => (first b member).trans taken]
    · next left =>
      rw [List.filter_eq_nil_iff.2 fun b member => by rwa [first b member], List.nil_append]

/-- After resolving left its traces, layouts are what they were. -/
theorem Traced.layout_eq {d' : Design} (traced : d.Traced d')
    (ordinary : ∀ s ∈ d.all, s.IsOrdinary) (id : Option Value) :
    (layout id d').1.result = (layout id d).1.result ∧
      (d'.all.filter fun s => id.all s.id.equals).flatMap (Shape.warnings d'.environment) =
        (d.all.filter fun s => id.all s.id.equals).flatMap (Shape.warnings d.environment) := by
  rw [layout_chosen_eq, layout_chosen_eq, traced.environment, traced.joints]
  have each := traced.places
  rw [← places_snd] at ordinary
  rw [← places_snd d, ← places_snd d']
  generalize d.places = places at each ordinary
  generalize d'.places = places' at each
  suffices same : ((places'.map Prod.snd).filter fun s => id.all s.id.equals).mapM
      (resolvedDrawn d.environment d.joints) =
        ((places.map Prod.snd).filter fun s => id.all s.id.equals).mapM
          (resolvedDrawn d.environment d.joints) ∧
      ((places'.map Prod.snd).filter fun s => id.all s.id.equals).flatMap
        (Shape.warnings d.environment) =
        ((places.map Prod.snd).filter fun s => id.all s.id.equals).flatMap
          (Shape.warnings d.environment) from
    ⟨congrArg (· >>= _) same.1, same.2⟩
  induction each with
  | nil => exact ⟨rfl, rfl⟩
  | cons first _ ih =>
    obtain ⟨plain, others⟩ := List.forall_mem_cons.1 ordinary
    obtain ⟨drawn, warned⟩ :=
      first.2.resolvedDrawn_eq d.environment d.joints plain
    have sameId := (Shape.sameFields_iff.1 first.2.fields).1
    obtain ⟨entries, warnings⟩ := ih others
    rw [List.map_cons, List.map_cons, List.filter_cons, List.filter_cons, sameId]
    split
    · rw [List.mapM_cons, List.mapM_cons, List.flatMap_cons, List.flatMap_cons, drawn, warned,
        entries, warnings]
      exact ⟨rfl, rfl⟩
    · exact ⟨entries, warnings⟩

/-- A layout lists the edges with joints of the resolved shapes, each once and in order, with their
joints, teeth and corners. A layout of the shapes with some id lists what comes from these and gives
the warnings that come from these. When resolving keeps the ids, this is what carries the id, unless
it is empty: such an id is carried by no edge. As long as no shape had its list of properties put in
by hand, it makes no difference which layouts were made before. -/
theorem layout_selects {found : List JointedEdge} (success : (layout none d).1.result = .ok found) :
    (∃ entries : Shape → List JointedEdge,
      (∀ s ∈ d.all, ∃ r, (s.resolve d.environment).outcome.result = .ok r ∧
        r.IsListed d.joints (entries s)) ∧
      found = d.all.flatMap entries ∧
      ∀ id : Value, (layout (some id) d).1.result =
        .ok ((d.all.filter fun s => s.id.equals id).flatMap entries)) ∧
    Notice.warnings (layout none d).1.notices = d.all.flatMap (Shape.warnings d.environment) ∧
    (∀ id : Value, Notice.warnings (layout (some id) d).1.notices =
      (d.all.filter fun s => s.id.equals id).flatMap (Shape.warnings d.environment)) ∧
    ((∀ s ∈ d.all, s.KeepsId d.environment) → ∀ id : String, id ≠ "" →
      (layout (some (.text id)) d).1.result =
        .ok (found.filter fun entry => entry.edge.shape.equals (.text id))) ∧
    ((∀ s ∈ d.all, s.IsOrdinary) → ∀ before after : Option Value,
      (layout after (layout before d).2).1.result = (layout after d).1.result ∧
      Notice.warnings (layout after (layout before d).2).1.notices =
        Notice.warnings (layout after d).1.notices) := by
  have drawn (s : Shape) (member : s ∈ d.all) := exists_drawn_of_layout success member
  have every : d.all.filter (fun s => (none : Option Value).all s.id.equals) = d.all :=
    List.filter_true d.all
  have whole : found = d.all.flatMap (part d.environment d.joints) := by
    have parts := layout_parts none drawn
    rw [every] at parts
    exact Except.ok.inj (success.symm.trans parts)
  refine ⟨⟨part d.environment d.joints, fun s member => isListed_part (drawn s member), whole,
    fun id => layout_parts (some id) drawn⟩, ?_, fun id => ?_, fun keeps id nonempty => ?_,
    fun ordinary before after => ?_⟩
  · rw [(traces_layout none d).2 found success, every]
  · exact (traces_layout (some id) d).2 _ (layout_parts (some id) drawn)
  · rw [layout_parts _ drawn, whole, filter_flatMap_eq fun s member entry among =>
      shape_equals_of_mem_part (drawn s member) (keeps s member) nonempty among]
    rfl
  · obtain ⟨same, warnings⟩ := (traces_layout before d).1.layout_eq ordinary after
    have given := layout_parts after drawn
    refine ⟨same, ?_⟩
    rw [(traces_layout after d).2 _ given, (traces_layout after _).2 _ (same.trans given), warnings]

/-- In a design that was read, no shape had its list of properties put in by hand. -/
theorem IsRead.isOrdinary (read : d.IsRead) : ∀ s ∈ d.all, s.IsOrdinary := by
  intro s member
  obtain ⟨entry, hentry, rfl⟩ := List.mem_map.1 member
  have plain := (read.shapes entry hentry).2.2.plain
  unfold Shape.IsOrdinary
  rw [plain]
  rfl

/-- Two rectangles, each with a place bound to a parameter that is not there, with a joint on the
second edge of each and one on the first edge of `b`. -/
def frame : Value := .object [
  ("shapes", .list [.object [("id", .text "a"), ("type", .text "rectangle"),
      ("bindings", .object [("x", .object [("type", .text "expression"),
        ("expression", .text "left")])])],
    .object [("id", .text "b"), ("type", .text "rectangle"),
      ("bindings", .object [("y", .object [("type", .text "expression"),
        ("expression", .text "low + 1")])])]]),
  ("edgeJoinery", .list [.object [("key", .text "0:1"), ("type", .text "dovetail")],
    .object [("key", .text "b:0:0"), ("type", .text "finger_joint")]])]

theorem layout_selects_frame : ∃ d found, (ofValue {} frame).result = .ok d ∧
    (layout none d).1.result = .ok found ∧
    found.map (·.edge.key) = ["a:0:1", "b:0:0", "b:0:1"] ∧
    (Notice.warnings (layout none d).1.notices).map (·.message) =
      ["parameter 'left' not found in context, using 0",
        "parameter 'low' not found in context, using 0"] ∧
    (layout (some (.text "b")) d).1.result =
      .ok (found.filter fun entry => entry.edge.shape.equals (.text "b")) ∧
    Notice.warnings (layout (some (.text "b")) d).1.notices =
      (d.all.filter fun s => s.id.equals (.text "b")).flatMap (Shape.warnings d.environment) := by
  have read : ((ofValue {} frame).result.toOption.any fun d =>
      (Notice.warnings (layout none d).1.notices).map (·.message) ==
        ["parameter 'left' not found in context, using 0",
          "parameter 'low' not found in context, using 0"] &&
      (layout none d).1.result.toOption.any fun found =>
        found.map (·.edge.key) == ["a:0:1", "b:0:0", "b:0:1"]) = true := by
    decide +kernel
  obtain ⟨d, loaded, listed⟩ := exists_of_any_toOption (P := fun d => _ = true)
    (by simpa using read)
  obtain ⟨warned, listed⟩ := (Bool.and_eq_true _ _).mp listed
  obtain ⟨found, success, keys⟩ := exists_of_any_toOption (P := fun found => _ = true)
    (by simpa using listed)
  have ordinary := (isRead_ofValue loaded).isOrdinary
  obtain ⟨-, -, warnings, selected, -⟩ := layout_selects success
  exact ⟨d, found, loaded, success, by simpa using keys, by simpa using warned,
    selected (fun s member => (ordinary s member).keepsId _) "b" (by decide), warnings (.text "b")⟩

/-- The layout of the shapes with the id of a shape is the part of the whole layout whose edges
carry the id. -/
def IsSelective (d : Design) : Prop :=
  ∀ found, (layout none d).1.result = .ok found → ∀ s ∈ d.all,
    (layout (some s.id) d).1.result = .ok (found.filter fun entry => entry.edge.shape.equals s.id)

/-- A rectangle with a joint on its first edge, whose id was made empty. -/
def unnamed : Design where
  settings := {}
  joints := { joints := .insertText .empty "0:0" ⟨.text "finger_joint", .null, .null, .text "left"⟩ }
  shapes := Catalogue.empty.insertText "r"
    { id := .text "", figure := .rectangle (.int 0) (.int 0) (.int 40) (.int 40) }

/-- The edges of a shape with an empty id carry no id. -/
theorem not_isSelective_unnamed : ¬ unnamed.IsSelective := by
  intro selective
  have listed : ((layout none unnamed).1.result.toOption.any fun found =>
      found.all (fun entry => !entry.edge.shape.equals (.text "")) &&
      (layout (some (.text "")) unnamed).1.result.toOption.any fun entries =>
        !entries.isEmpty) = true := by
    decide +kernel
  obtain ⟨found, success, listed⟩ := exists_of_any_toOption (P := fun found => _ = true)
    (by simpa using listed)
  obtain ⟨others, entries⟩ := (Bool.and_eq_true _ _).mp listed
  have none : (found.filter fun entry => entry.edge.shape.equals (.text "")) = [] := by
    simpa using others
  obtain ⟨s, all, empty⟩ : ∃ s, unnamed.all = [s] ∧ s.id = .text "" := ⟨_, rfl, rfl⟩
  have same := selective found success s (all ▸ List.mem_singleton.2 rfl)
  rw [empty] at same
  rw [same, none] at entries
  cases entries

end Design

end Joinery
