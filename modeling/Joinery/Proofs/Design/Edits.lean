import Joinery.Design.Document
import Joinery.Design.Layout
import Joinery.Proofs.Parameter.Reloading

/-!
# What edits give

An edit that succeeds gives a value and a design; what a sequence of edits gives is told by its
parts.
-/
namespace Joinery

namespace Outcome

variable {α β : Type} {a : α} {b : β}

theorem bind_eq_ok_iff {x : Outcome α} {f : α → Outcome β} :
    (x >>= f).result = .ok b ↔ ∃ a, x.result = .ok a ∧ (f a).result = .ok b := by
  have unfolded : x >>= f = Outcome.bind x f := rfl
  rw [unfolded]
  unfold Outcome.bind
  split
  · next a success => simp [success]
  · next failure failed => simp [failed]

theorem liftM_eq_ok_iff {x : Except Failure α} :
    (liftM x : Outcome α).result = .ok a ↔ x = .ok a := Iff.rfl

theorem liftM_misuse_eq_ok_iff {x : Except Misuse α} :
    (liftM x : Outcome α).result = .ok a ↔ x = .ok a := by
  cases x with
  | error cause => exact iff_of_false nofun nofun
  | ok a' => exact ⟨fun h => by cases h; rfl, fun h => by cases h; rfl⟩

end Outcome

namespace Edit

variable {α β : Type} {d d' d'' : Design} {a : α} {b : β}

/-! ### One edit after the other -/

theorem bind_apply_of_error {first : Edit α} {failure : Failure}
    (failed : (first d).1.result = .error failure) (next : α → Edit β) :
    (first >>= next) d = (⟨.error failure, (first d).1.notices⟩, (first d).2) := by
  have unfolded : (first >>= next) d = Edit.bind first next d := rfl
  rw [unfolded, Edit.bind]
  dsimp only
  rw [failed]

theorem bind_apply_of_ok {first : Edit α} (success : (first d).1.result = .ok a)
    (next : α → Edit β) :
    (first >>= next) d = (⟨(next a (first d).2).1.result,
      (first d).1.notices ++ (next a (first d).2).1.notices⟩, (next a (first d).2).2) := by
  have unfolded : (first >>= next) d = Edit.bind first next d := rfl
  rw [unfolded, Edit.bind]
  dsimp only
  rw [success]

theorem design_bind_apply (next : Design → Edit β) (d : Design) :
    (design >>= next) d = next d d := rfl

theorem modify_bind_apply (change : Design → Design) (next : Unit → Edit β) (d : Design) :
    (modify change >>= next) d = next () (change d) := rfl

/-! ### Success -/

/-- An edit of a design succeeds with a value and leaves another design. -/
def Gives (e : Edit α) (d : Design) (a : α) (d' : Design) : Prop :=
  (e d).1.result = .ok a ∧ (e d).2 = d'

theorem gives_pure_iff {a' : α} : (pure a : Edit α).Gives d a' d' ↔ a = a' ∧ d = d' :=
  and_congr_left fun _ => Except.ok.injEq a a' ▸ Iff.rfl

theorem gives_bind_iff {first : Edit α} {next : α → Edit β} :
    (first >>= next).Gives d b d'' ↔
      ∃ a d', first.Gives d a d' ∧ (next a).Gives d' b d'' := by
  unfold Gives
  cases result : (first d).1.result with
  | error failure =>
    rw [bind_apply_of_error result]
    refine iff_of_false nofun ?_
    rintro ⟨a, d', ⟨⟨⟩, -⟩, -⟩
  | ok a =>
    rw [bind_apply_of_ok result]
    constructor
    · intro given
      exact ⟨a, _, ⟨rfl, rfl⟩, given⟩
    · rintro ⟨a', d', ⟨⟨⟩, rfl⟩, given⟩
      exact given

theorem gives_design_iff {found : Design} : design.Gives d found d' ↔ d = found ∧ d = d' :=
  gives_pure_iff

theorem gives_modify_iff {change : Design → Design} :
    (modify change).Gives d () d' ↔ change d = d' :=
  and_iff_right rfl

theorem gives_notices_iff {ns : List Notice} : (notices ns).Gives d () d' ↔ d = d' :=
  and_iff_right rfl

theorem not_gives_fail {failure : Failure} : ¬ (fail failure : Edit α).Gives d a d' := nofun

/-- What may fail with a failure is part of an edit. -/
theorem gives_liftM_iff {x : Except Failure α} :
    (liftM x : Edit α).Gives d a d' ↔ x = .ok a ∧ d = d' := Iff.rfl

theorem gives_liftM_misuse_iff {x : Except Misuse α} :
    (liftM x : Edit α).Gives d a d' ↔ x = .ok a ∧ d = d' := by
  cases x with
  | error cause => exact iff_of_false nofun nofun
  | ok a' => exact gives_pure_iff.trans (and_congr_left fun _ => by rw [Except.ok.injEq])

end Edit

namespace Design

open Edit

variable {d d' : Design}

/-! ### Adding shapes -/

theorem gives_addShape_iff {s s' : Shape} :
    (addShape s).Gives d s' d' ↔ ∃ id registry shapes,
      d.registry.idOr s.type s.id d.ids = (.ok id, registry) ∧
      d.shapes.contains id = .ok false ∧
      d.shapes.insert id { s with id := id } = .ok shapes ∧
      s' = { s with id := id } ∧ d' = { d with registry := registry, shapes := shapes } := by
  unfold addShape
  constructor
  · intro given
    obtain ⟨_, _, found, given⟩ := gives_bind_iff.1 given
    obtain ⟨rfl, rfl⟩ := gives_design_iff.1 found
    cases numbered : d.registry.idOr s.type s.id d.ids with
    | mk result registry =>
      rw [numbered] at given
      obtain ⟨_, _, changed, given⟩ := gives_bind_iff.1 given
      cases gives_modify_iff.1 changed
      obtain ⟨id, _, named, given⟩ := gives_bind_iff.1 given
      obtain ⟨hid, rfl⟩ := gives_liftM_misuse_iff.1 named
      obtain ⟨present, _, asked, given⟩ := gives_bind_iff.1 given
      obtain ⟨hpresent, rfl⟩ := gives_liftM_misuse_iff.1 asked
      cases present with
      | true => exact (not_gives_fail given).elim
      | false =>
        obtain ⟨shapes, _, stored, given⟩ := gives_bind_iff.1 given
        obtain ⟨inserted, rfl⟩ := gives_liftM_misuse_iff.1 stored
        obtain ⟨_, _, changed, given⟩ := gives_bind_iff.1 given
        cases gives_modify_iff.1 changed
        obtain ⟨rfl, rfl⟩ := gives_pure_iff.1 given
        exact ⟨id, registry, shapes, Prod.ext hid rfl, hpresent, inserted, rfl, rfl⟩
  · rintro ⟨id, registry, shapes, hid, hpresent, inserted, rfl, rfl⟩
    refine gives_bind_iff.2 ⟨d, d, gives_design_iff.2 ⟨rfl, rfl⟩, ?_⟩
    rw [hid]
    refine gives_bind_iff.2 ⟨(), _, gives_modify_iff.2 rfl, ?_⟩
    refine gives_bind_iff.2 ⟨id, _, gives_liftM_misuse_iff.2 ⟨rfl, rfl⟩, ?_⟩
    refine gives_bind_iff.2 ⟨false, _, gives_liftM_misuse_iff.2 ⟨hpresent, rfl⟩, ?_⟩
    refine gives_bind_iff.2 ⟨shapes, _, gives_liftM_misuse_iff.2 ⟨inserted, rfl⟩, ?_⟩
    exact gives_bind_iff.2 ⟨(), _, gives_modify_iff.2 rfl, gives_pure_iff.2 ⟨rfl, rfl⟩⟩

/-- Adds the shapes of documents, one after the other. -/
def addShapes : List Value → Edit Unit
  | [] => pure ()
  | v :: rest => do
    let s ← (← Edit.design).registry.ofValue v
    let _ ← addShape s
    addShapes rest

theorem gives_addShapes_cons_iff {v : Value} {rest : List Value} :
    (addShapes (v :: rest)).Gives d () d' ↔ ∃ s s' d₁, d.registry.ofValue v = .ok s ∧
      (addShape s).Gives d s' d₁ ∧ (addShapes rest).Gives d₁ () d' := by
  rw [addShapes, gives_bind_iff]
  constructor
  · rintro ⟨_, _, found, given⟩
    obtain ⟨rfl, rfl⟩ := gives_design_iff.1 found
    obtain ⟨s, _, lifted, given⟩ := gives_bind_iff.1 given
    obtain ⟨made, rfl⟩ := gives_liftM_iff.1 lifted
    obtain ⟨s', d₁, added, given⟩ := gives_bind_iff.1 given
    exact ⟨s, s', d₁, made, added, given⟩
  · rintro ⟨s, s', d₁, made, added, given⟩
    refine ⟨d, d, gives_design_iff.2 ⟨rfl, rfl⟩, ?_⟩
    refine gives_bind_iff.2 ⟨s, d, gives_liftM_iff.2 ⟨made, rfl⟩, ?_⟩
    exact gives_bind_iff.2 ⟨s', d₁, added, given⟩

theorem gives_loadJoints_iff {entries : Value} :
    (loadJoints entries).Gives d () d' ↔ (d.joints.load entries).result = .ok () ∧
      d' = { d with joints := (d.joints.load entries).store } := by
  unfold loadJoints
  constructor
  · intro given
    obtain ⟨_, _, found, given⟩ := gives_bind_iff.1 given
    obtain ⟨rfl, rfl⟩ := gives_design_iff.1 found
    obtain ⟨_, _, changed, given⟩ := gives_bind_iff.1 given
    cases gives_modify_iff.1 changed
    obtain ⟨_, _, noticed, given⟩ := gives_bind_iff.1 given
    cases gives_notices_iff.1 noticed
    obtain ⟨success, rfl⟩ := gives_liftM_misuse_iff.1 given
    exact ⟨success, rfl⟩
  · rintro ⟨success, rfl⟩
    refine gives_bind_iff.2 ⟨d, d, gives_design_iff.2 ⟨rfl, rfl⟩, ?_⟩
    refine gives_bind_iff.2 ⟨(), _, gives_modify_iff.2 rfl, ?_⟩
    refine gives_bind_iff.2 ⟨(), _, gives_notices_iff.2 rfl, ?_⟩
    exact gives_liftM_misuse_iff.2 ⟨success, rfl⟩

/-- Each step of the walk through the shapes of a document adds the next one. -/
theorem gives_addNext_iff {v : Value} {step : ForInStep PUnit} :
    (do
      let _ ← addShape (← (← Edit.design).registry.ofValue v)
      pure (ForInStep.yield PUnit.unit) : Edit (ForInStep PUnit)).Gives d step d' ↔
      step = .yield PUnit.unit ∧ ∃ s s', d.registry.ofValue v = .ok s ∧
        (addShape s).Gives d s' d' := by
  constructor
  · intro given
    obtain ⟨_, _, found, given⟩ := gives_bind_iff.1 given
    obtain ⟨rfl, rfl⟩ := gives_design_iff.1 found
    obtain ⟨s, _, lifted, given⟩ := gives_bind_iff.1 given
    obtain ⟨made, rfl⟩ := gives_liftM_iff.1 lifted
    obtain ⟨s', _, added, given⟩ := gives_bind_iff.1 given
    obtain ⟨rfl, rfl⟩ := gives_pure_iff.1 given
    exact ⟨rfl, s, s', made, added⟩
  · rintro ⟨rfl, s, s', made, added⟩
    refine gives_bind_iff.2 ⟨d, d, gives_design_iff.2 ⟨rfl, rfl⟩, ?_⟩
    refine gives_bind_iff.2 ⟨s, d, gives_liftM_iff.2 ⟨made, rfl⟩, ?_⟩
    exact gives_bind_iff.2 ⟨s', d', added, gives_pure_iff.2 ⟨rfl, rfl⟩⟩

theorem gives_forIn_iff {shapes : List Value} :
    (forIn shapes PUnit.unit fun v _ => do
      let _ ← addShape (← (← Edit.design).registry.ofValue v)
      pure (ForInStep.yield PUnit.unit) : Edit PUnit).Gives d () d' ↔
      (addShapes shapes).Gives d () d' := by
  induction shapes generalizing d with
  | nil => exact Iff.rfl
  | cons v rest ih =>
    rw [List.forIn_cons, gives_addShapes_cons_iff, gives_bind_iff]
    constructor
    · rintro ⟨step, d₁, given, later⟩
      obtain ⟨rfl, s, s', made, added⟩ := gives_addNext_iff.1 given
      exact ⟨s, s', d₁, made, added, ih.1 later⟩
    · rintro ⟨s, s', d₁, made, added, later⟩
      exact ⟨.yield PUnit.unit, d₁, gives_addNext_iff.2 ⟨rfl, s, s', made, added⟩, ih.2 later⟩

theorem gives_fill_iff {shapes : List Value} {joints : Value} :
    (fill shapes joints).Gives d () d' ↔
      ∃ d₁, (addShapes shapes).Gives d () d₁ ∧ (loadJoints joints).Gives d₁ () d' := by
  unfold fill
  constructor
  · intro given
    obtain ⟨_, d₁, added, given⟩ := gives_bind_iff.1 given
    obtain ⟨_, _, loaded, given⟩ := gives_bind_iff.1 given
    obtain ⟨_, _, found, given⟩ := gives_bind_iff.1 given
    obtain ⟨rfl, rfl⟩ := gives_design_iff.1 found
    cases gives_notices_iff.1 given
    exact ⟨d₁, gives_forIn_iff.1 added, loaded⟩
  · rintro ⟨d₁, added, loaded⟩
    refine gives_bind_iff.2 ⟨(), d₁, gives_forIn_iff.2 added, ?_⟩
    refine gives_bind_iff.2 ⟨(), d', loaded, ?_⟩
    exact gives_bind_iff.2 ⟨d', d', gives_design_iff.2 ⟨rfl, rfl⟩, gives_notices_iff.2 rfl⟩

/-! ### Reading documents -/

/-- What a document has to hold for a design to be read from it, and the edit that fills it. -/
theorem ofValue_eq_ok_iff {settings : Settings} {v : Value} :
    (ofValue settings v).result = .ok d ↔ ∃ fields shapes parameters ps store,
      v = .object fields ∧ (fields.lookup "shapes").getD (.list []) = .list shapes ∧
      ((fields.lookup "parameters").getD .null).itemsOrNone = .ok parameters ∧
      parameters.mapM Parameter.ofValue = .ok ps ∧ ParameterStore.ofList ps = .ok store ∧
      (fill shapes ((fields.lookup "edgeJoinery").getD .null)).Gives
        { empty settings with parameters := store } () d := by
  unfold ofValue
  constructor
  · intro success
    split at success
    · next fields =>
      split at success
      · next shapes hshapes =>
        obtain ⟨parameters, items, success⟩ := Outcome.bind_eq_ok_iff.1 success
        obtain ⟨store, made, success⟩ := Outcome.bind_eq_ok_iff.1 success
        obtain ⟨ps, hps, hstore⟩ := bind_eq_ok_iff.1 (Outcome.liftM_eq_ok_iff.1 made)
        refine ⟨fields, shapes, parameters, ps, store, rfl, hshapes,
          Outcome.liftM_misuse_eq_ok_iff.1 items, hps, hstore, ?_⟩
        let given := fill shapes ((fields.lookup "edgeJoinery").getD .null)
          { empty settings with parameters := store }
        have mapped : given.1.result.map (fun _ => given.2) = .ok d := success
        cases filled : given.1.result with
        | error failure =>
          rw [filled] at mapped
          cases mapped
        | ok _ =>
          rw [filled] at mapped
          exact ⟨filled, Except.ok.inj mapped⟩
      · cases success
    · cases success
  · rintro ⟨fields, shapes, parameters, ps, store, rfl, hshapes, items, hps, hstore, filled, rfl⟩
    dsimp only
    rw [hshapes]
    refine Outcome.bind_eq_ok_iff.2 ⟨parameters, Outcome.liftM_misuse_eq_ok_iff.2 items, ?_⟩
    refine Outcome.bind_eq_ok_iff.2 ⟨store, ?_, ?_⟩
    · exact Outcome.liftM_eq_ok_iff.2 (bind_eq_ok_iff.2 ⟨ps, hps, hstore⟩)
    · dsimp only
      rw [filled]
      rfl

end Design

end Joinery
