import Joinery.Proofs.Binding.Traces
import Joinery.Proofs.Design.Edits
import Joinery.Proofs.Shape.Resolving

/-!
# Values of resolved shapes

A resolved shape is the shape with other values of the properties that can be bound: that of its
binding where a property is bound, its own elsewhere. The values follow from the shape alone, not
from the traces that earlier resolutions left in its bindings nor from the order in which these were
set, so resolving again, be it the shape or what it was resolved to, gives the same.
-/
namespace Joinery

/-- The notices are the same, and the results agree. -/
def Outcome.Agrees {α : Type} (R : α → α → Prop) (x y : Outcome α) : Prop :=
  x.notices = y.notices ∧ Agree R x.result y.result

theorem Outcome.agrees_bind {α β : Type} {R : β → β → Prop} (x : Outcome α) {f g : α → Outcome β}
    (next : ∀ a, x.result = .ok a → (f a).Agrees R (g a)) : (x >>= f).Agrees R (x >>= g) := by
  obtain ⟨result, notices⟩ := x
  cases result with
  | error failure => exact ⟨rfl, .error failure⟩
  | ok a => exact ⟨congrArg (notices ++ ·) (next a rfl).1, (next a rfl).2⟩

namespace Figure

/-- The figure with values of the properties that can be bound. -/
def filled (value : String → Value) : Figure → Figure
  | .rectangle .. => .rectangle (value "x") (value "y") (value "width") (value "height")
  | .polygon .. =>
    .polygon (value "center_x") (value "center_y") (value "radius") (value "sides")
  | .path course closed _ _ => .path course closed (value "offset_x") (value "offset_y")
  | .blank => .blank

variable {value : String → Value}

@[simp] theorem kind_filled (f : Figure) : (f.filled value).kind = f.kind := by
  cases f <;> rfl

@[simp] theorem filled_filled (f : Figure) : (f.filled value).filled value = f.filled value := by
  cases f <;> rfl

end Figure

namespace Bindings

/-- A binding is found under its name, unless it is null. -/
theorem find?_table_eq_some_iff {c : Catalogue Binding} {name : String} {b : Binding} :
    (table c).find? (.text name) = .ok (some b) ↔
      c.atText? name = some b ∧ b ≠ .foreign .null := by
  have asked : (table c).get? (.text name) = .ok (c.atText? name) := rfl
  unfold find?
  rw [asked, ok_bind]
  cases c.atText? name with
  | none => exact iff_of_false nofun nofun
  | some b' =>
    split
    · next null =>
      cases null
      exact iff_of_false nofun fun h => h.2 (Option.some.inj h.1).symm
    · next other =>
      constructor
      · rintro ⟨⟩
        exact ⟨rfl, fun null => other (congrArg some null)⟩
      · rintro ⟨⟨⟩, -⟩
        rfl

theorem find?_update_self {bs : Bindings} {name : String} {b b' : Binding}
    (found : bs.find? (.text name) = .ok (some b)) (binding : b' ≠ .foreign .null) :
    (bs.update (.text name) b').find? (.text name) = .ok (some b') := by
  cases bs with
  | other v => cases found
  | table c =>
    have stored := (find?_table_eq_some_iff.1 found).1
    exact find?_table_eq_some_iff.2 ⟨Catalogue.at?_modify_self stored _, binding⟩

theorem ne_null_of_find? {bs : Bindings} {name : Value} {b : Binding}
    (found : bs.find? name = .ok (some b)) : b ≠ .foreign .null := by
  obtain ⟨stored, -, found⟩ := bind_eq_ok_iff.1 found
  split at found
  · cases found
  · next other =>
    cases found
    exact fun null => other (congrArg some null)

/-- Traces are left under texts alone. -/
theorem update_of_ne_text {bs : Bindings} {name : Value} {b : Binding}
    (other : ∀ text, name ≠ .text text) : bs.update name b = bs := by
  unfold update
  split
  · next text => exact absurd rfl (other text)
  · rfl

theorem holds_update (bs : Bindings) (name : String) (b : Binding) (v : Value) :
    (bs.update (.text name) b).holds v = bs.holds v := by
  cases bs with
  | other => rfl
  | table c => exact Catalogue.contains_modify c _ _ v

end Bindings

namespace Shape

/-- The shapes differ in nothing but their bindings. -/
def SameFields (s t : Shape) : Prop := t = { s with bindings := t.bindings }

theorem SameFields.refl (s : Shape) : s.SameFields s := rfl

theorem sameFields_iff {s t : Shape} :
    s.SameFields t ↔ t.id = s.id ∧ t.figure = s.figure ∧ t.extras = s.extras := by
  obtain ⟨id, figure, bindings, extras⟩ := s
  obtain ⟨id', figure', bindings', extras'⟩ := t
  simp [SameFields]

theorem SameFields.trans {r s t : Shape} (first : r.SameFields s) (second : s.SameFields t) :
    r.SameFields t := by
  rw [sameFields_iff] at *
  exact ⟨second.1.trans first.1, second.2.1.trans first.2.1, second.2.2.trans first.2.2⟩

theorem SameFields.perform {s t : Shape} (same : s.SameFields t) (operation : String) :
    t.perform operation = s.perform operation := by
  rw [same]
  rfl

theorem SameFields.read {s t : Shape} (same : s.SameFields t) (name : Value) :
    t.read name = s.read name := by
  rw [same]
  rfl

theorem SameFields.withAttribute {s t : Shape} (same : s.SameFields t) {name : String}
    (other : name ≠ "bindings") (v : Value) :
    (s.withAttribute name v).SameFields (t.withAttribute name v) := by
  rw [same]
  unfold Shape.withAttribute
  split
  · rfl
  · dsimp only
    split <;> rfl

/-! ### The value of a property -/

/-- What a property is worth in the resolved shape: the value of its binding, or its own. -/
def valueOf (env : Environment) (s : Shape) (name : String) : Outcome Value :=
  match s.bindings.find? (.text name) with
  | .error cause => .fail (.misuse cause)
  | .ok none =>
    match s.read (.text name) with
    | .error cause => .fail (.misuse cause)
    | .ok v => pure v
  | .ok (some b) => (b.resolve env).outcome

/-- Gives properties their values, one after the other. -/
def filledWith (env : Environment) (s : Shape) : List String → Shape → Outcome Shape
  | [], r => pure r
  | name :: rest, r => do
    let v ← s.valueOf env name
    filledWith env s rest (r.withAttribute name v)

variable {env : Environment} {s t : Shape} {names : List String}

theorem filledWith_congr (same : ∀ name ∈ names, t.valueOf env name = s.valueOf env name)
    (r : Shape) : filledWith env t names r = filledWith env s names r := by
  induction names generalizing r with
  | nil => rfl
  | cons name rest ih =>
    obtain ⟨first, others⟩ := List.forall_mem_cons.1 same
    rw [filledWith, filledWith, first]
    congr 1
    funext v
    exact ih others _

/-- The values are given alike to shapes that are related, if giving one value keeps them so. -/
theorem agrees_filledWith {R : Shape → Shape → Prop}
    (step : ∀ name ∈ names, ∀ r r' v, R r r' → R (r.withAttribute name v) (r'.withAttribute name v))
    {r r' : Shape} (related : R r r') :
    (filledWith env s names r).Agrees R (filledWith env s names r') := by
  induction names generalizing r r' with
  | nil => exact ⟨rfl, .ok related⟩
  | cons name rest ih =>
    obtain ⟨first, others⟩ := List.forall_mem_cons.1 step
    rw [filledWith, filledWith]
    exact (s.valueOf env name).agrees_bind fun v _ => ih others (first r r' v related)

/-- Resolving gives the properties their values: the traces that one binding leaves are not seen by
the next one. -/
theorem resolveProperties_eq (env : Environment) (nodup : names.Nodup) (s r : Shape) :
    (resolveProperties env (names.map .text) s r).1 = filledWith env s names r := by
  induction names generalizing s r with
  | nil => rfl
  | cons name rest ih =>
    obtain ⟨fresh, later⟩ := List.nodup_cons.1 nodup
    have shown : (Value.text name).shown = name := rfl
    rw [List.map_cons, resolveProperties, filledWith, valueOf, shown]
    cases s.bindings.find? (.text name) with
    | error cause => rfl
    | ok entry =>
      cases entry with
      | none =>
        dsimp only
        cases s.read (.text name) with
        | error cause => rfl
        | ok v => exact ih later s (r.withAttribute name v)
      | some b =>
        dsimp only
        generalize b.resolve env = done
        obtain ⟨⟨result, notices⟩, traced⟩ := done
        dsimp only
        cases result with
        | error failure => rfl
        | ok v =>
          let s' := { s with bindings := s.bindings.update (.text name) traced }
          have untouched : ∀ other ∈ rest, s'.valueOf env other = s.valueOf env other := by
            intro other member
            have different : other ≠ name := by
              rintro rfl
              exact fresh member
            unfold valueOf
            rw [Bindings.find?_update_of_ne _ different]
            rfl
          have onward := (ih later s' (r.withAttribute name v)).trans
            (filledWith_congr untouched (r.withAttribute name v))
          exact congrArg (fun later : Outcome Shape =>
            (⟨later.result, notices ++ later.notices⟩ : Outcome Shape)) onward

/-! ### The resolved shape -/

/-- The shape has the properties of its kind of figure, none were put in their place by hand. -/
def IsOrdinary (s : Shape) : Prop := s.extras.find? "bindable" = none

theorem SameFields.isOrdinary (same : s.SameFields t) (ordinary : s.IsOrdinary) : t.IsOrdinary := by
  rw [same]
  exact ordinary

theorem bindable_of_ordinary (ordinary : s.IsOrdinary) :
    s.bindable = .list ((Figure.bindable s.figure.kind).map .text) := by
  unfold bindable
  rw [ordinary]
  rfl

/-- The operations that resolving needs are not hidden. -/
def readyToResolve (s : Shape) : Except Misuse Unit := do
  s.perform "resolve"
  s.perform "clone"
  s.perform "get_bindable_properties"

theorem SameFields.readyToResolve (same : s.SameFields t) :
    t.readyToResolve = s.readyToResolve := by
  rw [same]
  rfl

theorem outcome_resolve (ordinary : s.IsOrdinary) (env : Environment) :
    (s.resolve env).outcome =
      match s.readyToResolve with
      | .error cause => .fail (.misuse cause)
      | .ok () => filledWith env s (Figure.bindable s.figure.kind) s := by
  have names : (s.perform "resolve" >>= fun _ => s.resolvable) =
      s.readyToResolve >>= fun _ => .ok ((Figure.bindable s.figure.kind).map .text) := by
    unfold resolvable readyToResolve
    rw [bindable_of_ordinary ordinary]
    cases s.perform "resolve" with
    | error => rfl
    | ok =>
      cases s.perform "clone" with
      | error => rfl
      | ok => cases s.perform "get_bindable_properties" <;> rfl
  unfold resolve
  rw [names]
  cases s.readyToResolve with
  | error cause => rfl
  | ok => exact resolveProperties_eq env (nodup_bindable _) s s

/-- Shapes of the same fields resolve alike where their properties have the same values. -/
theorem agrees_resolve (ordinary : s.IsOrdinary) (same : s.SameFields t)
    (values : ∀ name ∈ Figure.bindable s.figure.kind, t.valueOf env name = s.valueOf env name) :
    (s.resolve env).outcome.Agrees SameFields (t.resolve env).outcome := by
  have figure := (sameFields_iff.1 same).2.1
  rw [outcome_resolve ordinary, outcome_resolve (same.isOrdinary ordinary), same.readyToResolve,
    figure, filledWith_congr values]
  cases s.readyToResolve with
  | error cause => exact ⟨rfl, .error _⟩
  | ok =>
    exact agrees_filledWith (fun name member _ _ v related =>
      related.withAttribute (ne_of_mem_bindable _ name member).2 v) same

/-- The value of a property in the resolved shape, null when it has none. -/
def valueIn (env : Environment) (s : Shape) (name : String) : Value :=
  (s.valueOf env name).result.toOption.getD .null

theorem valueIn_eq {name : String} {v : Value} (given : (s.valueOf env name).result = .ok v) :
    s.valueIn env name = v := by
  unfold valueIn
  rw [given]
  rfl

theorem filledWith_result_iff {r r' : Shape} :
    (filledWith env s names r).result = .ok r' ↔
      (∀ name ∈ names, (s.valueOf env name).result = .ok (s.valueIn env name)) ∧
        r' = names.foldl (fun r name => r.withAttribute name (s.valueIn env name)) r := by
  induction names generalizing r with
  | nil =>
    change (Except.ok r = Except.ok r') ↔ _
    simp [eq_comm]
  | cons name rest ih =>
    rw [filledWith, Outcome.bind_eq_ok_iff, List.forall_mem_cons, List.foldl_cons]
    constructor
    · rintro ⟨v, given, later⟩
      obtain ⟨others, filled⟩ := ih.1 later
      rw [valueIn_eq given]
      exact ⟨⟨given, others⟩, filled⟩
    · rintro ⟨⟨given, others⟩, filled⟩
      exact ⟨_, given, ih.2 ⟨others, filled⟩⟩

theorem foldl_withAttribute (r : Shape) (value : String → Value) :
    (Figure.bindable r.figure.kind).foldl (fun r name => r.withAttribute name (value name)) r =
      { r with figure := r.figure.filled value } := by
  obtain ⟨id, figure, bindings, extras⟩ := r
  cases figure <;> rfl

theorem read_filled {name : String} (member : name ∈ Figure.bindable s.figure.kind)
    (value : String → Value) :
    ({ s with figure := s.figure.filled value } : Shape).read (.text name) =
      .ok (value name) := by
  have listed (r : Shape) (here : (name, value name) ∈ r.figure.properties) :
      r.read (.text name) = .ok (value name) := read_property here
  refine listed _ ?_
  obtain ⟨id, figure, bindings, extras⟩ := s
  cases figure with
  | rectangle | polygon =>
    simp only [Figure.kind, Figure.bindable, List.mem_cons, List.not_mem_nil, or_false] at member
    obtain rfl | rfl | rfl | rfl := member <;> simp [Figure.filled, Figure.properties]
  | path =>
    simp only [Figure.kind, Figure.bindable, List.mem_cons, List.not_mem_nil, or_false] at member
    obtain rfl | rfl := member <;> simp [Figure.filled, Figure.properties]
  | blank => cases member

/-- What a shape is resolved to: the shape with the values of its properties. -/
theorem resolve_eq_ok_iff (ordinary : s.IsOrdinary) {r : Shape} :
    (s.resolve env).outcome.result = .ok r ↔ s.readyToResolve = .ok () ∧
      (∀ name ∈ Figure.bindable s.figure.kind,
        (s.valueOf env name).result = .ok (s.valueIn env name)) ∧
      r = { s with figure := s.figure.filled (s.valueIn env) } := by
  rw [outcome_resolve ordinary, ← foldl_withAttribute s]
  cases s.readyToResolve with
  | error cause => exact iff_of_false nofun nofun
  | ok => exact filledWith_result_iff.trans ⟨fun h => ⟨rfl, h⟩, fun h => h.2⟩

/-- In the resolved shape a property is worth what it was worth before. -/
theorem valueOf_resolved {name : String} (member : name ∈ Figure.bindable s.figure.kind)
    (given : (s.valueOf env name).result = .ok (s.valueIn env name)) :
    ({ s with figure := s.figure.filled (s.valueIn env) } : Shape).valueOf env name =
      s.valueOf env name := by
  have own := read_filled member (s.valueIn env)
  unfold valueOf at given ⊢
  dsimp only
  cases found : s.bindings.find? (.text name) with
  | error cause => rfl
  | ok entry =>
    rw [found] at given
    cases entry with
    | some b => rfl
    | none =>
      dsimp only at given ⊢
      rw [own]
      cases kept : s.read (.text name) with
      | error cause =>
        rw [kept] at given
        cases given
      | ok v =>
        rw [kept] at given
        cases given
        rfl

/-- What was resolved resolves to itself, with the same notices. -/
theorem resolve_resolved (ordinary : s.IsOrdinary) {r : Shape}
    (success : (s.resolve env).outcome.result = .ok r) :
    (r.resolve env).outcome = (s.resolve env).outcome := by
  obtain ⟨ready, given, rfl⟩ := (resolve_eq_ok_iff ordinary).1 success
  have kind : (s.figure.filled (s.valueIn env)).kind = s.figure.kind := Figure.kind_filled _
  generalize hr : ({ s with figure := s.figure.filled (s.valueIn env) } : Shape) = r at *
  have figure : r.figure.kind = s.figure.kind := by rw [← hr, kind]
  have values : ∀ name ∈ Figure.bindable s.figure.kind,
      r.valueOf env name = s.valueOf env name := by
    intro name member
    rw [← hr]
    exact valueOf_resolved member (given name member)
  have ordinary' : r.IsOrdinary := by rw [← hr]; exact ordinary
  have ready' : r.readyToResolve = .ok () := by rw [← hr]; exact ready
  rw [outcome_resolve ordinary, ready] at success ⊢
  rw [outcome_resolve ordinary', ready', figure, filledWith_congr values]
  have notices : (filledWith env s (Figure.bindable s.figure.kind) r).notices =
      (filledWith env s (Figure.bindable s.figure.kind) s).notices :=
    (agrees_filledWith (R := fun _ _ => True) (fun _ _ _ _ _ _ => trivial) trivial).1
  have again : (filledWith env s (Figure.bindable s.figure.kind) r).result = .ok r := by
    refine filledWith_result_iff.2 ⟨given, ?_⟩
    rw [← figure, foldl_withAttribute, ← hr]
    simp
  exact congrArg₂ Outcome.mk (again.trans success.symm) notices

/-! ### Traces -/

/-- The second shape is the first one with traces of resolving in its bindings: no property is worth
anything else, in no environment, and the document is the same. -/
structure Traced (s t : Shape) : Prop where
  fields : s.SameFields t
  values : ∀ env name, t.valueOf env name = s.valueOf env name
  document : t.toValue = s.toValue

theorem Traced.refl (s : Shape) : s.Traced s := ⟨rfl, fun _ _ => rfl, rfl⟩

theorem Traced.trans {r s t : Shape} (first : r.Traced s) (second : s.Traced t) : r.Traced t :=
  ⟨first.fields.trans second.fields,
    fun env name => (second.values env name).trans (first.values env name),
    second.document.trans first.document⟩

/-- A walk through the bindings does not notice that one was changed, if its step does not. -/
theorem mapM_entries_modify {γ : Type} {c : Catalogue Binding} {key : Value.Key} {b : Binding}
    (b' : Binding) (step : Value × Binding → Except Misuse γ) (stored : c.at? key = some b)
    (same : ∀ shown, step (shown, b') = step (shown, b)) :
    (c.modify key fun _ => b').entries.mapM step = c.entries.mapM step := by
  rw [Catalogue.entries_modify]
  refine mapM_map_congr fun entry member => ?_
  split
  · next here =>
    have found : c.at? key = some entry.2.2 := by
      unfold Catalogue.at?
      rw [← here, (Table.find?_eq_some_iff c.table entry.1 entry.2).2 member]
      rfl
    obtain rfl := Option.some.inj (found.symm.trans stored)
    exact same entry.2.1
  · rfl

theorem traced_update {s : Shape} {name : String} {b b' : Binding}
    (found : s.bindings.find? (.text name) = .ok (some b)) (alike : b.Alike b')
    (binding : b' ≠ .foreign .null) (written : b'.toValue = b.toValue) :
    s.Traced { s with bindings := s.bindings.update (.text name) b' } where
  fields := rfl
  values env other := by
    unfold valueOf
    dsimp only
    by_cases same : other = name
    · rw [same, Bindings.find?_update_self found binding, found]
      exact alike env
    · rw [Bindings.find?_update_of_ne _ same]
      rfl
  document := by
    obtain ⟨id, figure, bindings, extras⟩ := s
    cases bindings with
    | other v => cases found
    | table c =>
      have own : Shape.ownFields ⟨id, figure, (Bindings.table c).update (.text name) b', extras⟩ =
          Shape.ownFields ⟨id, figure, .table c, extras⟩ := by
        unfold ownFields isBound
        simp only [Bindings.holds_update]
        rfl
      unfold toValue
      rw [own]
      simp only [Bindings.entries, Bindings.update, ok_bind]
      rw [mapM_entries_modify b' _ (Bindings.find?_table_eq_some_iff.1 found).1]
      · rfl
      · intro shown
        dsimp only
        rw [written]

theorem traced_resolveProperties (env : Environment) (names : List Value) (s r : Shape) :
    s.Traced (resolveProperties env names s r).2 := by
  induction names generalizing s r with
  | nil => exact .refl s
  | cons name rest ih =>
    rw [resolveProperties]
    cases found : s.bindings.find? name with
    | error cause => exact .refl s
    | ok entry =>
      cases entry with
      | none =>
        dsimp only
        cases s.read name with
        | error cause => exact .refl s
        | ok v => exact ih s _
      | some b =>
        have step : s.Traced { s with
            bindings := s.bindings.update name (b.resolve env).binding } := by
          cases name with
          | text name =>
            refine traced_update found (b.alike_resolve env) ?_ (b.toValue_resolve env)
            rw [ne_eq, Binding.resolve_eq_foreign_iff]
            exact Bindings.ne_null_of_find? found
          | null | bool | int | float | list | object =>
            rw [Bindings.update_of_ne_text fun _ same => by cases same]
            exact .refl s
        dsimp only
        cases (b.resolve env).outcome.result with
        | error failure => exact step
        | ok v => exact step.trans (ih _ _)

/-- Resolving leaves nothing but traces in a shape, also when it fails. -/
theorem traced_resolve (env : Environment) (s : Shape) : s.Traced (s.resolve env).shape := by
  unfold resolve
  split
  · exact .refl s
  · exact traced_resolveProperties env _ s s

/-! ### The order of setting bindings -/

/-- Binds properties, one after the other. -/
def bindEach (s : Shape) : List (String × Binding) → Except Failure Shape
  | [] => .ok s
  | (name, b) :: rest => do bindEach (← s.bind (.text name) b) rest

/-- The property can be bound. -/
def CanBind (s : Shape) (name : String) : Prop :=
  s.perform "set_binding" = .ok () ∧ s.bindable.holds (.text name) = .ok true ∧
    ∃ c, s.bindings = .table c

theorem SameFields.canBind_iff {c c' : Catalogue Binding} {name : String} (same : s.SameFields t)
    (hs : s.bindings = .table c) (ht : t.bindings = .table c') :
    t.CanBind name ↔ s.CanBind name := by
  have bindable : t.bindable = s.bindable := by
    rw [same]
    rfl
  unfold CanBind
  rw [same.perform, bindable, hs, ht]
  simp

/-- A property that can be bound is bound, and nothing else changes. -/
theorem exists_bind {name : String} (can : s.CanBind name) (b : Binding) :
    ∃ c', s.bind (.text name) b = .ok { s with bindings := .table c' } := by
  obtain ⟨ready, known, c, table⟩ := can
  obtain ⟨c', inserted⟩ := c.exists_insert (v := .text name) rfl b
  refine ⟨c', ?_⟩
  unfold bind
  rw [ready, known, table]
  have bound : (liftM ((Bindings.table c).bind (.text name) b) : Except Failure Bindings) =
      .ok (.table c') :=
    liftM_eq_ok_iff.2 (bind_eq_ok_iff.2 ⟨c', inserted, rfl⟩)
  exact bind_eq_ok_iff.2 ⟨(), rfl, bind_eq_ok_iff.2 ⟨true, rfl, bind_eq_ok_iff.2 ⟨_, bound, rfl⟩⟩⟩

theorem cases_bind {name : String} {b : Binding} (success : s.bind (.text name) b = .ok t) :
    s.CanBind name ∧ s.SameFields t ∧ ∃ c c', s.bindings = .table c ∧ t.bindings = .table c' ∧
      ∀ other, c'.atText? other = if other = name then some b else c.atText? other := by
  unfold bind at success
  obtain ⟨⟨⟩, ready, success⟩ := bind_eq_ok_iff.1 success
  obtain ⟨known, hknown, success⟩ := bind_eq_ok_iff.1 success
  split at success
  · next member =>
    obtain ⟨bs, hbs, success⟩ := bind_eq_ok_iff.1 success
    cases success
    have hbs := liftM_eq_ok_iff.1 hbs
    cases table : s.bindings with
    | other v =>
      rw [table] at hbs
      cases hbs
    | table c =>
      rw [table] at hbs
      obtain ⟨c', inserted, bound⟩ := bind_eq_ok_iff.1 hbs
      cases bound
      subst member
      refine ⟨⟨liftM_eq_ok_iff.1 ready, liftM_eq_ok_iff.1 hknown, c, table⟩, rfl, c, c', rfl, rfl,
        fun other => ?_⟩
      rw [Catalogue.atText?_insert inserted]
      simp only [Value.equals_text_iff, Value.text.injEq, @eq_comm _ name]
  · cases success

theorem exists_bindEach_iff {sets : List (String × Binding)} (c : Catalogue Binding)
    (table : s.bindings = .table c) :
    (∃ t, s.bindEach sets = .ok t) ↔ ∀ set ∈ sets, s.CanBind set.1 := by
  induction sets generalizing s c with
  | nil => exact iff_of_true ⟨s, rfl⟩ nofun
  | cons set rest ih =>
    obtain ⟨name, b⟩ := set
    rw [List.forall_mem_cons]
    constructor
    · rintro ⟨t, success⟩
      obtain ⟨s', bound, later⟩ := bind_eq_ok_iff.1 success
      obtain ⟨can, same, c₁, c₂, hs, hs', -⟩ := cases_bind bound
      refine ⟨can, fun set member => (same.canBind_iff hs hs').1 ?_⟩
      exact (ih c₂ hs').1 ⟨t, later⟩ set member
    · rintro ⟨can, others⟩
      obtain ⟨c', bound⟩ := exists_bind can b
      have still (set : String × Binding) (member : set ∈ rest) :=
        (SameFields.canBind_iff (s := s) (t := { s with bindings := .table c' }) rfl table rfl).2
          (others set member)
      obtain ⟨t, later⟩ := (ih c' rfl).2 still
      exact ⟨t, bind_eq_ok_iff.2 ⟨_, bound, later⟩⟩

/-- After bindings of different properties were set, each is found under its name, and elsewhere
what was there before. -/
theorem bindEach_spec {sets : List (String × Binding)} {c : Catalogue Binding}
    (nodup : (sets.map Prod.fst).Nodup) (table : s.bindings = .table c)
    (success : s.bindEach sets = .ok t) :
    s.SameFields t ∧ ∃ c', t.bindings = .table c' ∧
      (∀ set ∈ sets, c'.atText? set.1 = some set.2) ∧
      ∀ name, name ∉ sets.map Prod.fst → c'.atText? name = c.atText? name := by
  induction sets generalizing s c with
  | nil =>
    cases success
    exact ⟨rfl, c, table, nofun, fun _ _ => rfl⟩
  | cons set rest ih =>
    obtain ⟨name, b⟩ := set
    obtain ⟨fresh, later⟩ := List.nodup_cons.1 nodup
    obtain ⟨s', bound, success⟩ := bind_eq_ok_iff.1 success
    obtain ⟨-, same, c₁, c₂, hs, hs', found⟩ := cases_bind bound
    obtain rfl : c = c₁ := by
      rw [table] at hs
      exact Bindings.table.inj hs
    obtain ⟨onward, c', ht, here, elsewhere⟩ := ih later hs' success
    refine ⟨same.trans onward, c', ht, List.forall_mem_cons.2 ⟨?_, here⟩, fun other absent => ?_⟩
    · rw [elsewhere name fresh, found, if_pos rfl]
    · rw [List.map_cons, List.mem_cons, not_or] at absent
      rw [elsewhere other absent.2, found, if_neg absent.1]

/-- Bindings of different properties can be set in any order, and under each name the same is
found after that. -/
theorem exists_bindEach_perm {sets sets' : List (String × Binding)}
    (nodup : (sets.map Prod.fst).Nodup) (perm : sets.Perm sets')
    (success : s.bindEach sets = .ok t) :
    ∃ t', s.bindEach sets' = .ok t' ∧ s.SameFields t ∧ t.SameFields t' ∧
      ∀ name, t'.bindings.find? (.text name) = t.bindings.find? (.text name) := by
  cases table : s.bindings with
  | other v =>
    -- nothing can be bound in the place of bindings, so nothing was
    cases sets with
    | nil =>
      cases success
      rw [List.nil_perm.1 perm]
      exact ⟨s, rfl, rfl, rfl, fun _ => rfl⟩
    | cons set rest =>
      obtain ⟨s', bound, -⟩ := bind_eq_ok_iff.1 success
      obtain ⟨-, -, c, c', hs, -⟩ := cases_bind bound
      rw [table] at hs
      cases hs
  | table c =>
    have can := (exists_bindEach_iff c table).1 ⟨t, success⟩
    obtain ⟨t', success'⟩ : ∃ t', s.bindEach sets' = .ok t' :=
      (exists_bindEach_iff c table).2 fun set member => can set (perm.mem_iff.2 member)
    obtain ⟨same, c₁, ht, here, elsewhere⟩ := bindEach_spec nodup table success
    obtain ⟨same', c₂, ht', here', elsewhere'⟩ :=
      bindEach_spec ((perm.map _).nodup_iff.1 nodup) table success'
    have fields : t.SameFields t' := by
      rw [sameFields_iff] at *
      exact ⟨same'.1.trans same.1.symm, same'.2.1.trans same.2.1.symm,
        same'.2.2.trans same.2.2.symm⟩
    refine ⟨t', success', same, fields, fun name => ?_⟩
    have found : c₂.atText? name = c₁.atText? name := by
      by_cases member : name ∈ sets.map Prod.fst
      · obtain ⟨set, hset, rfl⟩ := List.mem_map.1 member
        rw [here set hset, here' set (perm.mem_iff.1 hset)]
      · rw [elsewhere name member, elsewhere' name fun h => member ((perm.map _).mem_iff.2 h)]
    rw [ht, ht']
    have asked (c : Catalogue Binding) : (Bindings.table c).get? (.text name) =
        .ok (c.atText? name) := rfl
    unfold Bindings.find?
    rw [asked, asked, found]

/-! ### Resolving, again and in any order -/

/-- What a property of a resolved shape is worth. -/
theorem valueOf_eq_ok_iff {name : String} {v : Value} :
    (s.valueOf env name).result = .ok v ↔
      (∃ b, s.bindings.find? (.text name) = .ok (some b) ∧ (b.resolve env).outcome.result = .ok v) ∨
        s.bindings.find? (.text name) = .ok none ∧ s.read (.text name) = .ok v := by
  unfold valueOf
  cases s.bindings.find? (.text name) with
  | error cause => simp [Outcome.fail]
  | ok entry =>
    cases entry with
    | some b => simp
    | none =>
      cases s.read (.text name) with
      | error cause => simp [Outcome.fail]
      | ok own =>
        change Except.ok own = Except.ok v ↔ _
        simp

/-- A resolved shape differs from the shape in the properties that are bound, which are worth what
their bindings come to. The document of the shape does not change; resolving it again, in whatever
environment, gives the fields, the notices or the failure that it would have given before, and so
does resolving what it was resolved to. Nor does the order matter in which bindings were set. -/
theorem resolve_values (ordinary : s.IsOrdinary) (env : Environment) :
    (∀ r, (s.resolve env).outcome.result = .ok r →
      (∃ value : String → Value, r = { s with figure := s.figure.filled value } ∧
        ∀ name ∈ Figure.bindable s.figure.kind, r.read (.text name) = .ok (value name) ∧
          ((∃ b, s.bindings.find? (.text name) = .ok (some b) ∧
              (b.resolve env).outcome.result = .ok (value name)) ∨
            s.bindings.find? (.text name) = .ok none ∧ s.read (.text name) = .ok (value name))) ∧
      (r.resolve env).outcome = (s.resolve env).outcome) ∧
    (s.resolve env).shape.toValue = s.toValue ∧
    (∀ env', (s.resolve env').outcome.Agrees SameFields
      ((s.resolve env).shape.resolve env').outcome) ∧
    ∀ (sets sets' : List (String × Binding)) (t : Shape), (sets.map Prod.fst).Nodup →
      sets.Perm sets' → s.bindEach sets = .ok t →
      ∃ t', s.bindEach sets' = .ok t' ∧
        (t.resolve env).outcome.Agrees SameFields (t'.resolve env).outcome := by
  have traced := s.traced_resolve env
  refine ⟨fun r success => ⟨?_, resolve_resolved ordinary success⟩, traced.document,
    fun env' => agrees_resolve ordinary traced.fields fun name _ => traced.values env' name, ?_⟩
  · obtain ⟨-, given, rfl⟩ := (resolve_eq_ok_iff ordinary).1 success
    exact ⟨s.valueIn env, rfl, fun name member =>
      ⟨read_filled member _, valueOf_eq_ok_iff.1 (given name member)⟩⟩
  · intro sets sets' t nodup perm success
    obtain ⟨t', success', fields, same, found⟩ := exists_bindEach_perm nodup perm success
    refine ⟨t', success', agrees_resolve (fields.isOrdinary ordinary) same fun name _ => ?_⟩
    unfold valueOf
    rw [found name, same.read]

/-- A rectangle whose width is an infinity that a clamp brings down to zero. -/
def limited : Shape where
  id := .text "r"
  figure := .rectangle (.int 0) (.int 1) (.int 2) (.int 3)
  bindings := .table (Catalogue.empty.insertText "width"
    (.processed (.literal (.float (.infinite false)))
      [.clamp (.float (.zero false)) (.float (.zero false))] (some "stale")))

theorem resolve_values_limited :
    limited.IsOrdinary ∧ ∃ r, (limited.resolve ⟨none, none⟩).outcome.result = .ok r ∧
      (∀ name ∈ ["x", "y", "width", "height"], (∃ b v, limited.bindings.find? (.text name) =
          .ok (some b) ∧ (b.resolve ⟨none, none⟩).outcome.result = .ok v ∧
          r.read (.text name) = .ok v) ∨ r.read (.text name) = limited.read (.text name)) ∧
      (r.resolve ⟨none, none⟩).outcome = (limited.resolve ⟨none, none⟩).outcome := by
  have ordinary : limited.IsOrdinary := rfl
  obtain ⟨r, success⟩ : ∃ r, (limited.resolve ⟨none, none⟩).outcome.result = .ok r := ⟨_, rfl⟩
  obtain ⟨⟨value, -, each⟩, again⟩ := (resolve_values ordinary ⟨none, none⟩).1 r success
  refine ⟨ordinary, r, success, fun name member => ?_, again⟩
  obtain ⟨now, ⟨b, bound, resolved⟩ | ⟨-, own⟩⟩ := each name member
  · exact .inl ⟨b, value name, bound, resolved, now⟩
  · exact .inr (now.trans own.symm)

end Shape

end Joinery
