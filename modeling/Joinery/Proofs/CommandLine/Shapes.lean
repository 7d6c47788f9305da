import Joinery.Proofs.CommandLine.Decoding
import Joinery.Proofs.Shape.Reloading

/-!
# Shapes that loading does not report

Which bindings and shapes of a document lead to a failure that loading does not report. A chain of
handlers goes by what it wraps first, a shape by its figure before its bindings.
-/
namespace Joinery

open CommandLine

theorem Value.slips_itemsOrNone_iff (v : Value) : Slips v.itemsOrNone ↔ False := by
  unfold itemsOrNone
  split
  · exact Figure.slips_items_iff v
  · exact slips_ok_iff []

/-! ### Bindings -/

namespace Binding

open BindingRegistry

/-- What a document holds for a binding is a constant that is too large, or a chain around such a
thing, or a chain with a handler that is not reported. -/
inductive Breaks : Value → Prop
  | literal {fields : List (String × Value)} (typed : fields.lookup "type" = some (.text "literal"))
      (beyond : ((fields.lookup "value").getD (.int 0)).IsBeyond) : Breaks (.object fields)
  | wrapped {fields wrapped : List (String × Value)}
      (typed : fields.lookup "type" = some (.text "processed"))
      (found : fields.lookup "wrappedBinding" = some (.object wrapped))
      (breaks : Breaks (.object wrapped)) : Breaks (.object fields)
  | handler {fields wrapped : List (String × Value)} {inner : Binding} {items : List Value}
      (typed : fields.lookup "type" = some (.text "processed"))
      (found : fields.lookup "wrappedBinding" = some (.object wrapped))
      (made : BindingRegistry.builtin.create (.object wrapped) = .ok inner)
      (listed : ((fields.lookup "handlers").getD .null).itemsOrNone = .ok items)
      (breaks : Reaches (fun v => ∃ h, HandlerRegistry.builtin.create v = .ok h) Handler.Breaks
        items) : Breaks (.object fields)

theorem escapes_literalOf_iff (fields : List (String × Value)) :
    Escapes (literalOf (.object fields)) ↔
      ((fields.lookup "value").getD (.int 0)).IsBeyond := by
  let value := (fields.lookup "value").getD (.int 0)
  have given : (Value.object fields).getD "value" (.int 0) = .ok value := rfl
  rw [← Value.toDouble_eq_outOfRange_iff]
  change _ ↔ value.toDouble = _
  unfold literalOf
  rw [given, liftM_ok, ok_bind]
  cases hx : value.toDouble with
  | ok x => exact iff_of_false (not_failsWith_ok _) (by simp)
  | error cause =>
    rw [Except.error.injEq]
    by_cases same : cause = .outOfRange
    · subst same
      exact failsWith_error_iff.trans (iff_of_true rfl rfl)
    · refine iff_of_false ?_ same
      rintro ⟨failure, failed, unreported⟩
      split at failed
      · cases failed
      · next h => exact same (Except.error.inj h)
      · cases failed
        cases unreported

theorem escapes_handlersOf_iff (fields : List (String × Value)) :
    Escapes (BindingRegistry.builtin.handlersOf (.object fields)) ↔ ∃ items,
      ((fields.lookup "handlers").getD .null).itemsOrNone = .ok items ∧
      Reaches (fun v => ∃ h, HandlerRegistry.builtin.create v = .ok h) Handler.Breaks items := by
  let listed := (fields.lookup "handlers").getD .null
  have parts : BindingRegistry.builtin.handlersOf (.object fields) =
      (liftM listed.itemsOrNone : Except Failure (List Value)) >>=
        fun items => items.mapM HandlerRegistry.builtin.create := rfl
  rw [parts, Escapes, failsWith_bind_iff]
  refine (or_iff_right fun h => (Value.slips_itemsOrNone_iff _).1 (escapes_liftM_iff.1 h)).trans ?_
  refine exists_congr fun items => and_congr liftM_eq_ok_iff ?_
  rw [failsWith_mapM_iff]
  exact reaches_congr (fun _ => Iff.rfl) Handler.escapes_create_iff

theorem not_escapes_parameterOf (fields : List (String × Value)) :
    ¬ Escapes (parameterOf (.object fields)) := by
  have parts : parameterOf (.object fields) =
      if ((fields.lookup "parameterId").getD .null).isTruthy then
        .ok (.parameter ((fields.lookup "parameterId").getD .null))
      else .error (.binding .parameterMissing) := rfl
  rw [parts]
  split
  · exact not_failsWith_ok _
  · rintro ⟨_, ⟨⟩, ⟨⟩⟩

theorem not_escapes_expressionOf (fields : List (String × Value)) :
    ¬ Escapes (expressionOf (.object fields)) := by
  have given : (Value.object fields).get "expression" =
      .ok ((fields.lookup "expression").getD .null) := rfl
  unfold expressionOf
  rw [given, liftM_ok, ok_bind]
  split
  · split
    · rintro ⟨_, ⟨⟩, ⟨⟩⟩
    · exact not_failsWith_ok _
  · rintro ⟨_, ⟨⟩, ⟨⟩⟩

theorem escapes_create_chain_iff {fields wrapped : List (String × Value)}
    (factory : BindingRegistry.builtin.factoryFor (.object fields) = .ok .chain)
    (found : fields.lookup "wrappedBinding" = some (.object wrapped)) :
    Escapes (BindingRegistry.builtin.create (.object fields)) ↔
      Escapes (BindingRegistry.builtin.create (.object wrapped)) ∨
        (∃ inner, BindingRegistry.builtin.create (.object wrapped) = .ok inner) ∧
          Escapes (BindingRegistry.builtin.handlersOf (.object fields)) := by
  rw [create_of_chain factory, found]
  refine failsWith_bind_iff_of_forall fun inner _ => ?_
  refine failsWith_bind_iff.trans (or_iff_left ?_)
  rintro ⟨hs, -, h⟩
  exact not_failsWith_ok _ h

/-- Only constants and chains break the program. -/
theorem Breaks.typed {fields : List (String × Value)} (breaks : Breaks (.object fields)) :
    fields.lookup "type" = some (.text "literal") ∨
      fields.lookup "type" = some (.text "processed") := by
  cases breaks with
  | literal typed => exact .inl typed
  | wrapped typed | handler typed => exact .inr typed

theorem breaks_literal_iff {fields : List (String × Value)}
    (typed : fields.lookup "type" = some (.text "literal")) :
    Breaks (.object fields) ↔ ((fields.lookup "value").getD (.int 0)).IsBeyond := by
  refine ⟨fun breaks => ?_, .literal typed⟩
  cases breaks with
  | literal _ beyond => exact beyond
  | wrapped other | handler other => simp [typed] at other

theorem breaks_processed_iff {fields : List (String × Value)}
    (typed : fields.lookup "type" = some (.text "processed")) :
    Breaks (.object fields) ↔ ∃ wrapped, fields.lookup "wrappedBinding" = some (.object wrapped) ∧
      (Breaks (.object wrapped) ∨
        (∃ inner, BindingRegistry.builtin.create (.object wrapped) = .ok inner) ∧ ∃ items,
          ((fields.lookup "handlers").getD .null).itemsOrNone = .ok items ∧
          Reaches (fun v => ∃ h, HandlerRegistry.builtin.create v = .ok h) Handler.Breaks items) := by
  constructor
  · intro breaks
    cases breaks with
    | literal other => simp [typed] at other
    | wrapped _ found breaks => exact ⟨_, found, .inl breaks⟩
    | handler _ found made listed breaks =>
      exact ⟨_, found, .inr ⟨⟨_, made⟩, _, listed, breaks⟩⟩
  · rintro ⟨wrapped, found, breaks | ⟨⟨inner, made⟩, items, listed, breaks⟩⟩
    · exact .wrapped typed found breaks
    · exact .handler typed found made listed breaks

theorem not_escapes_factoryFor (fields : List (String × Value)) :
    ¬ Escapes (BindingRegistry.builtin.factoryFor (.object fields)) := by
  rintro ⟨failure, failed, unreported⟩
  cases typed : fields.lookup "type" with
  | none =>
    unfold BindingRegistry.factoryFor at failed
    simp only [typed] at failed
    cases failed
    cases unreported
  | some word =>
    rw [factoryFor_object typed] at failed
    cases found : BindingRegistry.builtin.factories.find? word with
    | error cause =>
      rw [found] at failed
      cases failed
      exact (Catalogue.slips_find?_iff _ word).1 ⟨cause, found, unreported⟩
    | ok result =>
      rw [found] at failed
      cases result <;> cases failed
      cases unreported

/-- Where no factory is found, the failure is reported. -/
theorem escapes_create_of_refused {fields : List (String × Value)}
    (none : ∀ factory, BindingRegistry.builtin.factoryFor (.object fields) ≠ .ok factory) :
    ¬ Escapes (BindingRegistry.builtin.create (.object fields)) ∧ ¬ Breaks (.object fields) := by
  constructor
  · cases failed : BindingRegistry.builtin.factoryFor (.object fields) with
    | ok factory => exact absurd failed (none factory)
    | error failure =>
      rw [create_of_refused failed, Escapes, failsWith_error_iff]
      exact fun unreported => not_escapes_factoryFor fields ⟨failure, failed, unreported⟩
  · intro breaks
    obtain typed | typed := breaks.typed
    · exact none _ (factoryFor_of_find? typed rfl)
    · exact none _ (factoryFor_of_find? typed rfl)

/-- A chain around nothing is refused, which is reported. -/
theorem not_escapes_create_of_unwrapped {fields : List (String × Value)}
    (factory : BindingRegistry.builtin.factoryFor (.object fields) = .ok .chain)
    (unwrapped : ∀ wrapped, fields.lookup "wrappedBinding" ≠ some (.object wrapped)) :
    ¬ Escapes (BindingRegistry.builtin.create (.object fields)) := by
  rw [create_of_chain factory]
  split
  · next wrapped found => exact absurd found (unwrapped wrapped)
  · rintro ⟨_, ⟨⟩, ⟨⟩⟩

theorem escapes_create_iff (v : Value) :
    Escapes (BindingRegistry.builtin.create v) ↔ Breaks v := by
  cases v with
  | object fields =>
    by_cases known : ∃ factory, BindingRegistry.builtin.factoryFor (.object fields) = .ok factory
    · obtain ⟨factory, made⟩ := known
      obtain ⟨word, typed, found⟩ := exists_word_of_factoryFor made
      obtain ⟨rfl, rfl⟩ | ⟨rfl, rfl⟩ | ⟨rfl, rfl⟩ | ⟨rfl, rfl⟩ := find?_factories_cases found
      · rw [create_plain made, escapes_literalOf_iff, breaks_literal_iff typed]
      · rw [create_plain made]
        refine iff_of_false (not_escapes_parameterOf fields) fun breaks => ?_
        simpa [typed] using breaks.typed
      · rw [create_plain made]
        refine iff_of_false (not_escapes_expressionOf fields) fun breaks => ?_
        simpa [typed] using breaks.typed
      · rw [breaks_processed_iff typed]
        by_cases object : ∃ wrapped, fields.lookup "wrappedBinding" = some (.object wrapped)
        · obtain ⟨wrapped, inside⟩ := object
          rw [escapes_create_chain_iff made inside, escapes_create_iff (.object wrapped),
            escapes_handlersOf_iff]
          simp [inside]
        · refine iff_of_false (not_escapes_create_of_unwrapped made fun wrapped inside =>
            object ⟨wrapped, inside⟩) ?_
          rintro ⟨wrapped, inside, -⟩
          exact object ⟨wrapped, inside⟩
    · obtain ⟨reported, whole⟩ := escapes_create_of_refused fun factory h => known ⟨factory, h⟩
      exact iff_of_false reported whole
  | null | bool | int | float | text | list =>
    have reported {v : Value} (other : BindingRegistry.builtin.factoryFor v =
        .error (.binding .notTyped)) : ¬ Escapes (BindingRegistry.builtin.create v) := by
      unfold BindingRegistry.create
      rw [other]
      rintro ⟨_, ⟨⟩, ⟨⟩⟩
    exact iff_of_false (reported rfl) nofun
termination_by sizeOf v
decreasing_by exact BindingRegistry.sizeOf_lookup_lt inside

end Binding

/-! ### Shapes -/

namespace Shape

/-- What stands for the bindings of a shape is something else than an object, or the first of them
that is not accepted is not reported. -/
def BindingsBreak (kind : FigureKind) (v : Value) : Prop :=
  (v.isTruthy = true ∧ ∀ fields, v ≠ .object fields) ∨ ∃ fields, v = .object fields ∧
    Reaches (fun field => (∃ b, BindingRegistry.builtin.create field.2 = .ok b) ∧
      snake field.1 ∈ Figure.bindable kind) (fun field => Binding.Breaks field.2) fields

/-- A shape of a known kind has a figure that is not reported, or else bindings that are not. -/
def Breaks (v : Value) : Prop :=
  ∃ fields kind, v = .object fields ∧ ((fields.lookup "type").getD .null).isTruthy = true ∧
    ShapeRegistry.builtin.kindOf ((fields.lookup "type").getD .null) = .ok kind ∧
    (Figure.Breaks kind (optionsOf kind fields) ∨
      (∃ figure, Figure.ofOptions kind (optionsOf kind fields) = .ok figure) ∧
        BindingsBreak kind ((fields.lookup "bindings").getD .null))

theorem not_escapes_bind {s : Shape} (plain : s.extras = Table.empty) {c : Catalogue Binding}
    (table : s.bindings = .table c) (name : String) (b : Binding) :
    ¬ Escapes (s.bind (.text name) b) ∧
      ((∃ s', s.bind (.text name) b = .ok s') ↔ name ∈ Figure.bindable s.figure.kind) := by
  by_cases member : name ∈ Figure.bindable s.figure.kind
  · obtain ⟨c', inserted⟩ := c.exists_insert (v := .text name) rfl b
    rw [bind_of_mem plain table member inserted]
    exact ⟨not_failsWith_ok _, iff_of_true ⟨_, rfl⟩ member⟩
  · have refused : s.bind (.text name) b =
        .error (.shape (.notBindable (Value.text name).shown s.type.shown)) := by
      have absent : (Figure.bindable s.figure.kind).contains name = false := by
        simpa using member
      unfold bind
      rw [perform_of_plain plain, bindable_of_plain plain, holds_texts, absent]
      rfl
    rw [refused]
    refine ⟨?_, iff_of_false nofun member⟩
    rintro ⟨_, ⟨⟩, ⟨⟩⟩

theorem escapes_bindAll_iff {kind : FigureKind} {fields : List (String × Value)} {s : Shape}
    (plain : s.extras = Table.empty) {c : Catalogue Binding} (table : s.bindings = .table c)
    (drawn : s.figure.kind = kind) :
    Escapes (bindAll .builtin s fields) ↔
      Reaches (fun field => (∃ b, BindingRegistry.builtin.create field.2 = .ok b) ∧
        snake field.1 ∈ Figure.bindable kind) (fun field => Binding.Breaks field.2) fields := by
  induction fields generalizing s c with
  | nil => exact iff_of_false (not_failsWith_ok s) not_reaches_nil
  | cons field rest ih =>
    obtain ⟨name, v⟩ := field
    rw [reaches_cons_iff, ← Binding.escapes_create_iff, and_assoc]
    refine failsWith_bind_iff_of_forall fun b _ => ?_
    obtain ⟨reported, bound⟩ := not_escapes_bind plain table (snake name) b
    rw [drawn] at bound
    rw [← bound]
    refine (failsWith_bind_iff_of_forall fun s' success => ?_).trans (or_iff_right reported)
    obtain ⟨-, c', -, rfl⟩ := bind_eq_ok plain table success
    exact ih plain rfl drawn

theorem known_of_optionsOf (kind : FigureKind) (fields : List (String × Value)) :
    ∀ option ∈ optionsOf kind fields,
      ((Figure.defaults kind).lookup option.1).isSome = true := by
  intro option member
  obtain ⟨named, -⟩ := optionsOf_known kind fields option member
  cases found : (Figure.defaults kind).lookup option.1 with
  | some v => rfl
  | none =>
    rw [List.lookup_eq_none_iff] at found
    obtain ⟨entry, hentry, same⟩ := List.mem_map.1 named
    exact absurd (found entry hentry) (by simp [same])

theorem fieldsOrNone_object (fields : List (String × Value)) :
    fieldsOrNone (.object fields) = .ok fields := by
  cases fields <;> rfl

theorem escapes_bindings_iff {s : Shape} (plain : s.extras = Table.empty)
    (free : s.bindings = .empty) (v : Value) :
    Escapes (do bindAll .builtin s (← fieldsOrNone v)) ↔ BindingsBreak s.figure.kind v := by
  have other (noObject : ∀ fields, v ≠ .object fields)
      (found : fieldsOrNone v = if v.isTruthy then .error (.notObject v.kind) else .ok []) :
      Escapes (do bindAll .builtin s (← fieldsOrNone v)) ↔ BindingsBreak s.figure.kind v := by
    rw [found]
    split
    · next truthy => exact iff_of_true ⟨_, rfl, rfl⟩ (.inl ⟨truthy, noObject⟩)
    · next absent =>
      refine iff_of_false (not_failsWith_ok s) ?_
      rintro (⟨truthy, -⟩ | ⟨fields, same, -⟩)
      · exact absent truthy
      · exact noObject fields same
  cases v with
  | object fields =>
    rw [fieldsOrNone_object]
    refine (escapes_bindAll_iff plain free rfl).trans ⟨fun h => .inr ⟨fields, rfl, h⟩, ?_⟩
    rintro (⟨-, noObject⟩ | ⟨_, ⟨⟩, h⟩)
    · exact absurd rfl (noObject fields)
    · exact h
  | null | bool | int | float | text | list => exact other nofun rfl

theorem kind_of_ofOptions {kind : FigureKind} {options : List (String × Value)} {f : Figure}
    (success : Figure.ofOptions kind options = .ok f) : f.kind = kind := by
  obtain ⟨option, -, success⟩ := bind_eq_ok_iff.1 success
  cases kind with
  | rectangle | blank =>
    cases success
    rfl
  | polygon =>
    obtain ⟨n, -, success⟩ := bind_eq_ok_iff.1 success
    cases success
    rfl
  | path =>
    obtain ⟨items, -, success⟩ := bind_eq_ok_iff.1 success
    obtain ⟨points, -, success⟩ := bind_eq_ok_iff.1 success
    cases success
    rfl

theorem escapes_ofFields_iff (kind : FigureKind) (fields : List (String × Value)) :
    Escapes (ofFields kind .builtin fields) ↔ Figure.Breaks kind (optionsOf kind fields) ∨
      (∃ figure, Figure.ofOptions kind (optionsOf kind fields) = .ok figure) ∧
        BindingsBreak kind ((fields.lookup "bindings").getD .null) := by
  rw [← Figure.slips_ofOptions_iff (known_of_optionsOf kind fields), ← escapes_liftM_iff,
    ← exists_liftM_iff]
  refine failsWith_bind_iff_of_forall fun figure success => ?_
  rw [← kind_of_ofOptions (liftM_eq_ok_iff.1 success)]
  let id := (fields.lookup "id").getD (.text "")
  exact escapes_bindings_iff (s := { id, figure }) rfl rfl _

theorem escapes_ofValue_iff (v : Value) :
    Escapes (ShapeRegistry.builtin.ofValue v) ↔ Breaks v := by
  cases v with
  | object fields =>
    let word := (fields.lookup "type").getD .null
    have parts : ShapeRegistry.builtin.ofValue (.object fields) =
        if word.isTruthy then do ofFields (← ShapeRegistry.builtin.kindOf word) .builtin fields
        else .error (.shape .typeMissing) := rfl
    rw [parts]
    split
    · next truthy =>
      have reported : ¬ Escapes (ShapeRegistry.builtin.kindOf word) := by
        unfold ShapeRegistry.kindOf
        split
        · exact not_failsWith_ok _
        · rintro ⟨_, ⟨⟩, ⟨⟩⟩
      refine (failsWith_bind_iff.trans (or_iff_right reported)).trans ?_
      constructor
      · rintro ⟨kind, known, h⟩
        exact ⟨fields, kind, rfl, truthy, known, (escapes_ofFields_iff kind fields).1 h⟩
      · rintro ⟨_, kind, ⟨⟩, -, known, h⟩
        exact ⟨kind, known, (escapes_ofFields_iff kind fields).2 h⟩
    · next absent =>
      refine iff_of_false ?_ fun ⟨_, _, same, truthy, _⟩ => ?_
      · rintro ⟨_, ⟨⟩, ⟨⟩⟩
      · cases same
        exact absent truthy
  | null | bool | int | float | text | list =>
    refine iff_of_false ?_ fun ⟨_, _, same, _⟩ => nomatch same
    rintro ⟨_, ⟨⟩, ⟨⟩⟩

end Shape

end Joinery
