import Joinery.Proofs.Design.Removal
import Joinery.Proofs.Shape.Freshness

/-!
# Ids that a design gives

What is asked of a design lets its registry count on, and never stores a shape under a text that
shows another value. So a shape that is made without an id gets one under which nothing is stored,
and no id comes twice, even when the shape that bore it was removed.
-/
namespace Joinery

namespace Catalogue

variable {β : Type} {c c' : Catalogue β}

/-- What is stored under a text is shown by it. -/
def ShowsTexts (c : Catalogue β) : Prop :=
  ∀ slot ∈ c.spine, ∀ text, slot.1 = .text text → slot.2 = .text text

theorem Grown.showsTexts (grown : Grown c.spine) : c.ShowsTexts := by
  unfold ShowsTexts
  generalize c.spine = spine at grown
  induction grown with
  | nil => exact nofun
  | @snoc spine v key _ hkey _ ih =>
    refine List.forall_mem_append.2 ⟨ih, List.forall_mem_singleton.2 fun text same => ?_⟩
    cases key with
    | nan => cases same
    | null | whole | fraction | text => exact (Value.key_eq_text_iff hkey text).1 same

theorem ShowsTexts.insert {v : Value} {b : β} (shows : c.ShowsTexts)
    (success : c.insert v b = .ok c') : c'.ShowsTexts := by
  obtain ⟨key, hkey, ⟨-, same⟩ | ⟨-, entries⟩⟩ := entries_insert success
  · unfold ShowsTexts
    rwa [same]
  · have spine : c'.spine = c.spine ++ [(c.ownKey key, v)] := by simp [Catalogue.spine, entries]
    unfold ShowsTexts
    rw [spine]
    refine List.forall_mem_append.2 ⟨shows, List.forall_mem_singleton.2 fun text same => ?_⟩
    exact (Value.key_eq_text_iff hkey text).1 ((c.ownKey_eq_text_iff key text).1 same)

theorem ShowsTexts.eraseAt (shows : c.ShowsTexts) (key : Value.Key) :
    (c.eraseAt key).ShowsTexts := by
  intro slot member
  obtain ⟨entry, stays, rfl⟩ := List.mem_map.1 member
  exact shows _ (List.mem_map.2 ⟨entry, ((Table.mem_erase_iff _ _ _).1 stays).1, rfl⟩)

theorem ShowsTexts.modify (shows : c.ShowsTexts) (key : Value.Key) (change : β → β) :
    (c.modify key change).ShowsTexts := by
  unfold Catalogue.modify
  split
  · next shown b found =>
    intro slot member
    obtain ⟨entry, stored, rfl⟩ := List.mem_map.1 member
    obtain rfl | ⟨old, -⟩ := (Table.mem_insert_iff _ _ _ _).1 stored
    · exact shows _ (List.mem_map.2 ⟨_, (Table.find?_eq_some_iff _ _ _).1 found, rfl⟩)
    · exact shows _ (List.mem_map.2 ⟨entry, old, rfl⟩)
  · exact shows

theorem ShowsTexts.contains_eq_false (shows : c.ShowsTexts) {text : String}
    (absent : .text text ∉ c.keys) : c.contains (.text text) = .ok false := by
  refine congrArg Except.ok ((Table.contains_eq_false_iff _ _).2 fun present => absent ?_)
  obtain ⟨⟨_, shown, b⟩, member, rfl⟩ := List.mem_map.1 present
  have same : shown = .text text := shows _ (List.mem_map.2 ⟨_, member, rfl⟩) text rfl
  exact List.mem_map.2 ⟨(shown, b), List.mem_map.2 ⟨_, member, rfl⟩, same⟩

end Catalogue

/-! ### Edits that let the registry count on -/

/-- What holds of a design and any later one: the registry has counted as far, or on, and texts go on
to be shown by themselves. -/
structure Design.Precedes (d d' : Design) : Prop where
  counts : d.registry.CountsOn d'.registry
  texts : d.shapes.ShowsTexts → d'.shapes.ShowsTexts

theorem Design.Precedes.refl (d : Design) : d.Precedes d := ⟨.refl _, id⟩

theorem Design.Precedes.trans {d d' d'' : Design} (first : d.Precedes d')
    (second : d'.Precedes d'') : d.Precedes d'' :=
  ⟨first.counts.trans second.counts, second.texts ∘ first.texts⟩

namespace Edit

variable {α β γ : Type}

/-- An edit that leaves a design going on from the one before it. -/
def GoesOn (e : Edit α) : Prop := ∀ d : Design, d.Precedes (e d).2

/-- What only looks at the design leaves it. -/
theorem goesOn_outcome (x : Design → Outcome α) : GoesOn fun d => (x d, d) :=
  fun d => .refl d

theorem GoesOn.bind {first : Edit α} {next : α → Edit β} (start : first.GoesOn)
    (later : ∀ a, (next a).GoesOn) : (first >>= next).GoesOn := by
  intro d
  cases result : (first d).1.result with
  | error failure =>
    rw [bind_apply_of_error result]
    exact start d
  | ok a =>
    rw [bind_apply_of_ok result]
    exact (start d).trans (later a _)

theorem goesOn_design_bind {next : Design → Edit β} (later : ∀ d, (next d).GoesOn) :
    (design >>= next).GoesOn := fun d => later d d

theorem goesOn_mapM {f : γ → Edit β} (each : ∀ item, (f item).GoesOn) (items : List γ) :
    (items.mapM f).GoesOn := by
  have loop : ∀ done, GoesOn (List.mapM.loop f items done) := by
    induction items with
    | nil => exact fun done => goesOn_outcome fun _ => pure done.reverse
    | cons item _ ih => exact fun done => (each item).bind fun b => ih (b :: done)
  exact loop []

end Edit

namespace Design

open Edit

variable {d : Design}

theorem goesOn_modify_shapes (key : Value.Key) (change : Shape → Shape) :
    GoesOn (Edit.modify fun d => { d with shapes := d.shapes.modify key change }) :=
  fun _ => ⟨.refl _, fun shows => shows.modify key change⟩

theorem goesOn_resolveAt (key : Value.Key) (s : Shape) : GoesOn (resolveAt key s) :=
  goesOn_design_bind fun _ => (goesOn_modify_shapes key _).bind fun _ => goesOn_outcome _

theorem goesOn_resolve (id : Value) : GoesOn (resolve id) := by
  refine goesOn_design_bind fun d => GoesOn.bind (goesOn_outcome _) fun key => ?_
  cases d.shapes.at? key with
  | none => exact goesOn_outcome _
  | some s => exact (goesOn_resolveAt key s).bind fun _ => goesOn_outcome _

theorem goesOn_resolveAll : GoesOn resolveAll := by
  refine goesOn_design_bind fun d => goesOn_mapM (fun place => ?_) _
  exact goesOn_resolveAt place.1 place.2

theorem goesOn_jointedEdges (s : Shape) : GoesOn (jointedEdges s) := by
  refine GoesOn.bind (goesOn_outcome _) fun bounds => goesOn_design_bind fun d => ?_
  refine GoesOn.bind (goesOn_outcome _) fun edges => goesOn_mapM (fun pair => ?_) _
  refine GoesOn.bind (goesOn_outcome _) fun cut => GoesOn.bind (goesOn_outcome _) fun _ => ?_
  exact GoesOn.bind (goesOn_outcome _) fun _ => goesOn_outcome _

theorem goesOn_layout (id : Option Value) : GoesOn (layout id) := by
  refine goesOn_design_bind fun d => ?_
  refine (goesOn_mapM (fun place => ?_) _).bind fun _ => goesOn_outcome _
  exact (goesOn_resolveAt place.1 place.2).bind goesOn_jointedEdges

theorem goesOn_changeShape (id : Value) (change : Shape → Except Failure Shape) :
    GoesOn (changeShape id change) := by
  refine goesOn_design_bind fun d => GoesOn.bind (goesOn_outcome _) fun key => ?_
  cases d.shapes.at? key with
  | none => exact goesOn_outcome _
  | some s =>
    refine GoesOn.bind (goesOn_outcome _) fun s => ?_
    exact (goesOn_modify_shapes key _).bind fun _ => goesOn_outcome _

theorem goesOn_removeAt (key : Value.Key) (id : Value) : GoesOn (removeAt key id) := by
  refine goesOn_design_bind fun d => ?_
  cases d.shapes.at? key with
  | none => exact goesOn_outcome _
  | some s =>
    refine GoesOn.bind (fun d => ⟨.refl _, fun shows => shows.eraseAt key⟩) fun _ => ?_
    refine GoesOn.bind (goesOn_outcome _) fun step => ?_
    refine GoesOn.bind (fun d => ⟨.refl _, fun shows => shows⟩) fun _ => ?_
    exact GoesOn.bind (goesOn_outcome _) fun _ => goesOn_outcome _

theorem goesOn_removeShape (id : Value) : GoesOn (removeShape id) := by
  refine goesOn_design_bind fun d => ?_
  split
  · exact goesOn_outcome _
  · exact GoesOn.bind (goesOn_outcome _) fun key => goesOn_removeAt key id

end Design

/-! ### New shapes -/

/-- An id that was given stays when it is asked for again. -/
theorem ShapeRegistry.idOr_of_newId {r r' r'' : ShapeRegistry} {word existing id word' : Value}
    (given : r.newId word existing = (.ok id, r')) (existing' : Value) :
    r''.idOr word' id existing' = (.ok id, r'') := by
  have asked := r.idOr_of_absent (show Value.null.isTruthy = false from rfl) word existing
  exact if_pos (isTruthy_of_idOr (asked.trans given))

namespace Edit

variable {α β : Type}

theorem ok_bind_apply (a : α) (next : α → Edit β) (d : Design) :
    ((liftM (Except.ok a : Except Misuse α) : Edit α) >>= next) d = next a d := rfl

theorem error_bind_apply (cause : Misuse) (next : α → Edit β) (d : Design) :
    ((liftM (Except.error cause : Except Misuse α) : Edit α) >>= next) d =
      (.fail (.misuse cause), d) := rfl

end Edit

namespace Design

open Edit

variable {d : Design}

/-- Adding a shape gives it an id, which the registry has counted by then, and stores it if the id
is free. -/
theorem addShape_eq (s : Shape) (d : Design) : addShape s d =
    match d.registry.idOr s.type s.id d.ids with
    | (.error cause, r) => (.fail (.misuse cause), { d with registry := r })
    | (.ok id, r) => match d.shapes.contains id, d.shapes.insert id { s with id := id } with
      | .error cause, _ => (.fail (.misuse cause), { d with registry := r })
      | .ok true, _ => (.fail (.shape (.duplicate id.shown)), { d with registry := r })
      | .ok false, .error cause => (.fail (.misuse cause), { d with registry := r })
      | .ok false, .ok shapes =>
        (pure { s with id := id }, { d with registry := r, shapes := shapes }) := by
  unfold addShape
  rw [design_bind_apply]
  split
  · next cause r asked =>
    simp only [asked, modify_bind_apply, error_bind_apply]
  · next id r asked =>
    simp only [asked, modify_bind_apply, ok_bind_apply]
    split
    · next cause failed => simp only [failed, error_bind_apply]
    · next there => simp only [there, ok_bind_apply]; rfl
    · next cause absent failed => simp only [absent, failed, ok_bind_apply]; rfl
    · next shapes absent inserted => simp only [absent, inserted, ok_bind_apply]; rfl

/-- A shape is made by the registry first, which gives it an id, and then added. -/
theorem createShape_eq (word : Value) (options : List (String × Value)) (d : Design) :
    createShape word options d =
      match options.find? fun o => reserved.contains o.1 with
      | some (name, _) => (.fail (.misuse (.unknownField name)), d)
      | none =>
        match d.registry.create word ((options.lookup "id").getD .null) d.ids
          (options.filter fun o => o.1 ≠ "id") with
        | (.error failure, r) => (.fail failure, { d with registry := r })
        | (.ok s, r) => addShape s { d with registry := r } := by
  unfold createShape
  split
  · next name v found => simp only [found]; rfl
  · next absent =>
    simp only [absent]
    rw [design_bind_apply]
    split
    · next failure r failed => simp only [failed, modify_bind_apply]; rfl
    · next s r made => simp only [made, modify_bind_apply]; rfl

theorem goesOn_addShape (s : Shape) : GoesOn (addShape s) := by
  intro d
  have counts := d.registry.countsOn_idOr s.type s.id d.ids
  rw [addShape_eq]
  split
  · next cause r asked =>
    rw [asked] at counts
    exact ⟨counts, fun shows => shows⟩
  · next id r asked =>
    rw [asked] at counts
    split
    · exact ⟨counts, fun shows => shows⟩
    · exact ⟨counts, fun shows => shows⟩
    · exact ⟨counts, fun shows => shows⟩
    · next shapes _ inserted => exact ⟨counts, fun shows => shows.insert inserted⟩

theorem goesOn_createShape (word : Value) (options : List (String × Value)) :
    GoesOn (createShape word options) := by
  intro d
  have counts := d.registry.countsOn_create word ((options.lookup "id").getD .null) d.ids
    (options.filter fun o => o.1 ≠ "id")
  rw [createShape_eq]
  split
  · exact .refl d
  · split
    · next failure r failed =>
      rw [failed] at counts
      exact ⟨counts, fun shows => shows⟩
    · next s r made =>
      rw [made] at counts
      have counted : d.Precedes { d with registry := r } := ⟨counts, fun shows => shows⟩
      exact counted.trans (goesOn_addShape s _)

theorem newId_of_addShape {s s' : Shape} {d' : Design} (absent : s.id.isTruthy = false)
    (given : (addShape s).Gives d s' d') :
    d.registry.newId s.type d.ids = (.ok s'.id, d'.registry) := by
  obtain ⟨id, r, shapes, asked, -, -, rfl, rfl⟩ := gives_addShape_iff.1 given
  rwa [d.registry.idOr_of_absent absent] at asked

/-- Whether options ask for an id. -/
def asksId (options : List (String × Value)) : Bool :=
  ((options.lookup "id").getD .null).isTruthy

theorem newId_of_createShape {word : Value} {options : List (String × Value)} {s : Shape}
    {d' : Design} (absent : asksId options = false)
    (given : (createShape word options).Gives d s d') :
    d.registry.newId word d.ids = (.ok s.id, d'.registry) := by
  unfold Gives at given
  rw [createShape_eq] at given
  split at given
  · exact absurd given.1 nofun
  · split at given
    · exact absurd given.1 nofun
    · next s₀ r made =>
      have numbered := ShapeRegistry.newId_of_create absent (congrArg Prod.fst made)
      rw [made] at numbered
      obtain ⟨id, r', shapes, asked, -, -, rfl, rfl⟩ := gives_addShape_iff.1 given
      rw [ShapeRegistry.idOr_of_newId numbered] at asked
      cases asked
      exact numbered

/-! ### Duplicates -/

/-- Nothing is stored under a new id. -/
theorem contains_of_newId (shows : d.shapes.ShowsTexts) {word id : Value} {r : ShapeRegistry}
    (given : d.registry.newId word d.ids = (.ok id, r)) : d.shapes.contains id = .ok false := by
  obtain ⟨unused, -, w, n, rfl, -⟩ := ShapeRegistry.newId_fresh given
  exact shows.contains_eq_false (unused d.shapes.keys rfl)

theorem addShape_ne_duplicate {s : Shape} (free : ∀ id r,
    d.registry.idOr s.type s.id d.ids = (.ok id, r) → d.shapes.contains id = .ok false)
    (shown : String) : (addShape s d).1.result ≠ .error (.shape (.duplicate shown)) := by
  rw [addShape_eq]
  split
  · nofun
  · next id r asked =>
    rw [free id r asked]
    cases d.shapes.insert id { s with id := id } with
    | error cause => nofun
    | ok shapes => nofun

/-- A shape that is made without an id is never refused for its id. -/
theorem createShape_ne_duplicate (shows : d.shapes.ShowsTexts) {options : List (String × Value)}
    (absent : asksId options = false) (word : Value) (shown : String) :
    (createShape word options d).1.result ≠ .error (.shape (.duplicate shown)) := by
  rw [createShape_eq]
  split
  · nofun
  · split
    · next failure r failed =>
      have other := d.registry.create_ne_duplicate word ((options.lookup "id").getD .null) d.ids
        (options.filter fun o => o.1 ≠ "id") shown
      rw [failed] at other
      exact other
    · next s r made =>
      have numbered := ShapeRegistry.newId_of_create absent (congrArg Prod.fst made)
      refine addShape_ne_duplicate (d := { d with registry := r }) (fun id r' asked => ?_) shown
      rw [ShapeRegistry.idOr_of_newId numbered] at asked
      cases asked
      exact contains_of_newId shows numbered

/-! ### What a design is asked for -/

/-- What a design can be asked for. -/
inductive Use where
  | create (word : Value) (options : List (String × Value))
  | add (s : Shape)
  | remove (id : Value)
  | change (id : Value) (change : Shape → Except Failure Shape)
  | resolve (id : Value)
  | resolveAll
  | layout (id : Option Value)
  | parameters (change : ParameterStore → ParameterStore)
  | joints (change : JointStore → JointStore)
  | registry (q : ShapeRegistry.Request)

namespace Use

/-- The edit that answers a use with the id that was generated on it: that of a shape that is made or
added without one. -/
def edit : Use → Edit (Option Value)
  | create word options => do
    let s ← createShape word options
    return if asksId options then none else some s.id
  | add s => do
    let added ← addShape s
    return if s.id.isTruthy then none else some added.id
  | remove id => do let _ ← removeShape id; return none
  | change id f => do let _ ← changeShape id f; return none
  | resolve id => do let _ ← Design.resolve id; return none
  | resolveAll => do let _ ← Design.resolveAll; return none
  | layout id => do let _ ← Design.layout id; return none
  | parameters f => fun d => (pure none, { d with parameters := f d.parameters })
  | joints f => fun d => (pure none, { d with joints := f d.joints })
  | registry q => fun d =>
    (pure (q.serve d.registry).1, { d with registry := (q.serve d.registry).2 })

/-- The id that is generated on a use, if it succeeds and one is, and the design after it. -/
def apply (u : Use) (d : Design) : Option Value × Design :=
  ((u.edit d).1.result.toOption.join, (u.edit d).2)

theorem goesOn_edit (u : Use) : u.edit.GoesOn := by
  cases u with
  | create word options => exact (goesOn_createShape word options).bind fun _ => goesOn_outcome _
  | add s => exact (goesOn_addShape s).bind fun _ => goesOn_outcome _
  | remove id => exact (goesOn_removeShape id).bind fun _ => goesOn_outcome _
  | change id f => exact (goesOn_changeShape id f).bind fun _ => goesOn_outcome _
  | resolve id => exact (goesOn_resolve id).bind fun _ => goesOn_outcome _
  | resolveAll => exact goesOn_resolveAll.bind fun _ => goesOn_outcome _
  | layout id => exact (goesOn_layout id).bind fun _ => goesOn_outcome _
  | parameters f => exact fun d => ⟨.refl _, fun shows => shows⟩
  | joints f => exact fun d => ⟨.refl _, fun shows => shows⟩
  | registry q => exact fun d => ⟨q.countsOn_serve d.registry, fun shows => shows⟩

theorem gives_of_apply {u : Use} {id : Value} (given : (u.apply d).1 = some id) :
    u.edit.Gives d (some id) (u.apply d).2 := by
  unfold apply at given
  cases result : (u.edit d).1.result with
  | error failure =>
    rw [result] at given
    cases given
  | ok answer =>
    rw [result] at given
    exact ⟨result.trans (congrArg Except.ok given), rfl⟩

/-- Every id that is generated on a use comes from the registry. -/
theorem newId_of_apply {u : Use} {id : Value} (given : (u.apply d).1 = some id) :
    ∃ word existing, d.registry.newId word existing = (.ok id, (u.apply d).2.registry) := by
  have none {α : Type} {e : Edit α} {d' : Design} :
      ¬ (e >>= fun _ => (return none : Edit (Option Value))).Gives d (some id) d' := by
    intro answered
    obtain ⟨_, _, -, last⟩ := gives_bind_iff.1 answered
    cases (gives_pure_iff.1 last).1
  have answered := gives_of_apply given
  cases u with
  | create word options =>
    obtain ⟨s, _, made, last⟩ := gives_bind_iff.1 answered
    obtain ⟨same, rfl⟩ := gives_pure_iff.1 last
    split at same
    · cases same
    · next absent =>
      cases same
      exact ⟨word, d.ids, newId_of_createShape (Bool.not_eq_true _ ▸ absent) made⟩
  | add s =>
    obtain ⟨added, _, made, last⟩ := gives_bind_iff.1 answered
    obtain ⟨same, rfl⟩ := gives_pure_iff.1 last
    split at same
    · cases same
    · next absent =>
      cases same
      exact ⟨s.type, d.ids, newId_of_addShape (Bool.not_eq_true _ ▸ absent) made⟩
  | registry q =>
    obtain ⟨word, served⟩ := ShapeRegistry.Request.newId_of_serve given
    exact ⟨word, q.existing, served⟩
  | remove | change | resolve | resolveAll | layout => exact (none answered).elim
  | parameters | joints => cases given

/-- The design that uses lead to. -/
def after (uses : List Use) (d : Design) : Design := uses.foldl (fun d u => (u.apply d).2) d

theorem precedes_after (uses : List Use) (d : Design) : d.Precedes (after uses d) := by
  induction uses generalizing d with
  | nil => exact .refl d
  | cons u rest ih => exact (u.goesOn_edit d).trans (ih _)

end Use

theorem exists_uses_of_addShapes {vs : List Value} {d d' : Design}
    (given : (addShapes vs).Gives d () d') : ∃ uses, Use.after uses d = d' := by
  induction vs generalizing d with
  | nil => exact ⟨[], (gives_pure_iff.1 given).2⟩
  | cons v rest ih =>
    obtain ⟨s, s', d₁, -, first, later⟩ := gives_addShapes_cons_iff.1 given
    obtain ⟨uses, reached⟩ := ih later
    refine ⟨.add s :: uses, ?_⟩
    have answered : (Use.add s).edit.Gives d (if s.id.isTruthy then none else some s'.id) d₁ :=
      gives_bind_iff.2 ⟨s', d₁, first, gives_pure_iff.2 ⟨rfl, rfl⟩⟩
    have step : ((Use.add s).apply d).2 = d₁ := answered.2
    unfold Use.after
    rw [List.foldl_cons, step]
    exact reached

/-- A design that is read from a document comes from one without shapes, to which those of the
document are added. -/
theorem exists_uses_of_ofValue {settings : Settings} {v : Value}
    (loaded : (ofValue settings v).result = .ok d) :
    ∃ start uses, start.shapes = .empty ∧ Use.after uses start = d := by
  obtain ⟨fields, shapes, parameters, ps, store, -, -, -, -, -, filled⟩ := ofValue_eq_ok_iff.1 loaded
  obtain ⟨d₁, shapesAdded, jointsLoaded⟩ := gives_fill_iff.1 filled
  obtain ⟨uses, rfl⟩ := exists_uses_of_addShapes shapesAdded
  obtain ⟨-, rfl⟩ := gives_loadJoints_iff.1 jointsLoaded
  refine ⟨{ empty settings with parameters := store },
    uses ++ [.joints fun joints => (joints.load ((fields.lookup "edgeJoinery").getD .null)).store],
    rfl, ?_⟩
  unfold Use.after
  rw [List.foldl_append]
  rfl

/-- No id is generated twice, and none that is in use. Of a registry this holds whatever it is asked
for, with whatever words and whatever ids in use, and a shape that it makes without an id bears the
one that it generates; of a design it holds whatever is done with it in between, also when the shapes
that bore the ids are removed. So a shape that is made without an id is never refused because its id
is there, neither in a design that began without shapes nor in one that was read from a document,
which is reached from one without shapes. -/
theorem generated_ids_fresh :
    (∀ (r : ShapeRegistry) (requests : List ShapeRegistry.Request),
      (ShapeRegistry.givenIn ShapeRegistry.Request.serve requests r).Nodup) ∧
    (∀ (r : ShapeRegistry) (q : ShapeRegistry.Request) (ids : List Value) (id : Value),
      q.existing.items = .ok ids → (q.serve r).1 = some id → id ∉ ids) ∧
    (∀ (r : ShapeRegistry) (word id existing : Value) (options : List (String × Value)) (s : Shape),
      id.isTruthy = false → (r.create word id existing options).1 = .ok s →
      ((ShapeRegistry.Request.shape word id existing options).serve r).1 = some s.id) ∧
    (∀ (d : Design) (uses : List Use), (ShapeRegistry.givenIn Use.apply uses d).Nodup) ∧
    (∀ (start : Design) (uses : List Use) (word : Value) (options : List (String × Value))
      (shown : String), start.shapes = .empty → asksId options = false →
      (createShape word options (Use.after uses start)).1.result ≠
        .error (.shape (.duplicate shown))) ∧
    ∀ (settings : Settings) (v : Value) (d : Design), (ofValue settings v).result = .ok d →
      ∃ start uses, start.shapes = .empty ∧ Use.after uses start = d := by
  refine ⟨fun r requests => ?_, fun r q ids id listed given => ?_,
    fun r word id existing options s absent made =>
      ShapeRegistry.Request.serve_of_create absent made, fun d uses => ?_,
    fun start uses word options shown none absent => ?_,
    fun settings v d loaded => exists_uses_of_ofValue loaded⟩
  · refine (ShapeRegistry.nodup_givenIn id (fun q r => q.countsOn_serve r) ?_ requests r).1
    intro q r id given
    obtain ⟨word, served⟩ := ShapeRegistry.Request.newId_of_serve given
    exact (ShapeRegistry.newId_fresh served).2
  · obtain ⟨word, served⟩ := ShapeRegistry.Request.newId_of_serve given
    exact (ShapeRegistry.newId_fresh served).1 ids listed
  · refine (ShapeRegistry.nodup_givenIn registry (fun u d => (u.goesOn_edit d).counts) ?_ uses d).1
    intro u d id given
    obtain ⟨word, existing, numbered⟩ := Use.newId_of_apply given
    exact (ShapeRegistry.newId_fresh numbered).2
  · have shows : start.shapes.ShowsTexts := by
      rw [none]
      exact Catalogue.Grown.nil.showsTexts (c := .empty)
    exact createShape_ne_duplicate ((Use.precedes_after uses start).texts shows) absent word shown

/-- A rectangle is made, removed and made again. -/
def remaking : List Use :=
  [.create (.text "rectangle") [], .remove (.text "rectangle-1"), .create (.text "Rectangle") []]

theorem generated_ids_fresh_remaking :
    (ShapeRegistry.givenIn Use.apply remaking (empty {})).map Value.shown =
      ["rectangle-1", "rectangle-2"] ∧
    (ShapeRegistry.givenIn Use.apply remaking (empty {})).Nodup ∧
    (∃ id, ((ShapeRegistry.Request.number (.text "A-1") (.list [.text "a-1-007"])).serve
        .builtin).1 = some id ∧ id.shown = "a-1-8" ∧ id ∉ [Value.text "a-1-007"]) ∧
    (createShape (.text "rectangle") [] (Use.after remaking (empty {}))).1.result ≠
      .error (.shape (.duplicate "rectangle-2")) := by
  obtain ⟨-, unused, -, once, free, -⟩ := generated_ids_fresh
  have numbered : ((ShapeRegistry.Request.number (.text "A-1")
      (.list [.text "a-1-007"])).serve .builtin).1.map Value.shown = some "a-1-8" := by
    decide +kernel
  obtain ⟨id, given, shown⟩ := Option.map_eq_some_iff.1 numbered
  refine ⟨by decide +kernel, once (empty {}) remaking, ⟨id, given, shown, ?_⟩, ?_⟩
  · exact unused .builtin _ [.text "a-1-007"] id rfl given
  · exact free (empty {}) remaking _ [] _ rfl rfl

end Design

end Joinery
