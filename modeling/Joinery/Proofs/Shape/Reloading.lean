import Joinery.Shape.Registry
import Joinery.Proofs.Binding.Reloading
import Joinery.Proofs.Shape.Figure
import Joinery.Proofs.Shape.Names

/-!
# Shapes written and read back

A shape that was made from a document is written so that it reads back: the kind of figure, the
properties that no binding hides, and the bindings, in their order. The properties that are hidden
are read back as defaults. Names of options are written in camel case and read in snake case.
-/
namespace Joinery

namespace Shape

/-! ### Names -/

theorem mem_defaults_of_mem_bindable (kind : FigureKind) :
    ∀ name ∈ Figure.bindable kind, name ∈ (Figure.defaults kind).map Prod.fst := by
  cases kind <;> decide

/-! ### Binding properties -/

/-- Whether something is bound to a property. -/
def hides (s : Shape) (name : String) : Bool :=
  match s.bindings with
  | .table c => c.table.contains (.text name)
  | .other _ => false

/-- A shape as documents give it: a figure with bindings of its properties, which were made from
documents, and no attributes besides. -/
structure IsRead (s : Shape) : Prop where
  figure : s.figure.IsRead
  plain : s.extras = Table.empty
  bound : ∃ c, s.bindings = .table c ∧ Catalogue.Grown c.spine ∧
    ∀ entry ∈ c.entries, ∃ name, entry.1 = .text name ∧ name ∈ Figure.bindable s.figure.kind ∧
      ∃ v, BindingRegistry.builtin.create v = .ok entry.2

theorem holds_texts (names : List String) (name : String) :
    (Value.list (names.map .text)).holds (.text name) = .ok (names.contains name) := by
  unfold Value.holds
  dsimp only
  rw [List.any_map, List.contains_eq_any_beq]
  rfl

theorem perform_of_plain {s : Shape} (plain : s.extras = Table.empty) (operation : String) :
    s.perform operation = .ok () := by
  unfold perform
  rw [plain]
  rfl

theorem bindable_of_plain {s : Shape} (plain : s.extras = Table.empty) :
    s.bindable = .list ((Figure.bindable s.figure.kind).map .text) := by
  unfold bindable
  rw [plain]
  rfl

theorem bind_eq_ok {s s' : Shape} {c : Catalogue Binding} {name : String} {b : Binding}
    (plain : s.extras = Table.empty) (table : s.bindings = .table c)
    (success : s.bind (.text name) b = .ok s') :
    name ∈ Figure.bindable s.figure.kind ∧
      ∃ c', c.insert (.text name) b = .ok c' ∧ s' = { s with bindings := .table c' } := by
  unfold bind at success
  rw [perform_of_plain plain, bindable_of_plain plain, holds_texts, table] at success
  obtain ⟨_, -, success⟩ := bind_eq_ok_iff.1 success
  obtain ⟨known, hknown, success⟩ := bind_eq_ok_iff.1 success
  cases hknown
  split at success
  · next member =>
    obtain ⟨bs, hbs, success⟩ := bind_eq_ok_iff.1 success
    obtain ⟨c', inserted, hc'⟩ := bind_eq_ok_iff.1 (liftM_eq_ok_iff.1 hbs)
    cases hc'
    cases success
    exact ⟨List.contains_iff_mem.1 member, c', inserted, rfl⟩
  · cases success

theorem bind_of_mem {s : Shape} {c c' : Catalogue Binding} {name : String} {b : Binding}
    (plain : s.extras = Table.empty) (table : s.bindings = .table c)
    (member : name ∈ Figure.bindable s.figure.kind) (inserted : c.insert (.text name) b = .ok c') :
    s.bind (.text name) b = .ok { s with bindings := .table c' } := by
  unfold bind
  rw [perform_of_plain plain, bindable_of_plain plain, holds_texts, table,
    List.contains_iff_mem.2 member]
  refine bind_eq_ok_iff.2 ⟨(), rfl, bind_eq_ok_iff.2 ⟨true, rfl, ?_⟩⟩
  refine bind_eq_ok_iff.2 ⟨.table c', ?_, rfl⟩
  exact liftM_eq_ok_iff.2 (bind_eq_ok_iff.2 ⟨c', inserted, rfl⟩)

theorem isRead_bindAll {s s' : Shape} {fields : List (String × Value)} (read : s.IsRead)
    (success : bindAll .builtin s fields = .ok s') : s'.IsRead := by
  induction fields generalizing s with
  | nil =>
    cases success
    exact read
  | cons field rest ih =>
    obtain ⟨b, made, success⟩ := bind_eq_ok_iff.1 success
    obtain ⟨next, hnext, success⟩ := bind_eq_ok_iff.1 success
    obtain ⟨c, table, grown, each⟩ := read.bound
    obtain ⟨member, c', inserted, rfl⟩ := bind_eq_ok read.plain table hnext
    have next : IsRead { s with bindings := .table c' } := by
      refine ⟨read.figure, read.plain, c', rfl, grown.insert inserted, fun entry hentry => ?_⟩
      obtain before | ⟨new, shown | ⟨old, before⟩⟩ := Catalogue.mem_entries_insert inserted hentry
      · exact each entry before
      · exact ⟨_, shown, member, _, by rw [new]; exact made⟩
      · obtain ⟨name, hname, hmember, -⟩ := each _ before
        exact ⟨name, hname, hmember, _, by rw [new]; exact made⟩
    exact ih next success

/-- Whether all bindings of a shape have ranges that are infinite to the open sides only. -/
def isBounded (s : Shape) : Bool :=
  match s.bindings with
  | .table c => c.values.all Binding.isBounded
  | .other _ => true

/-- A property that is bound, and the field of a document that binds it. -/
def BindsTo (kind : FigureKind) (entry : Value × Binding) (field : String × Value) : Prop :=
  ∃ name, entry.1 = .text name ∧ name ∈ Figure.bindable kind ∧ field.1 = camel name ∧
    BindingRegistry.builtin.create field.2 = .ok entry.2

theorem snake_camel_of_bindable {kind : FigureKind} {name : String}
    (member : name ∈ Figure.bindable kind) : snake (camel name) = name :=
  snake_camel (isPropertyName_of_mem_defaults (mem_defaults_of_mem_bindable kind name member))

/-- The bindings that a document lists are all bound, in the same order. -/
theorem bindAll_of_bindsTo {s : Shape} {total : Catalogue Binding} {fields : List (String × Value)}
    (plain : s.extras = Table.empty) (grown : Catalogue.Grown total.spine)
    (each : List.Forall₂ (BindsTo s.figure.kind) total.entries fields) :
    bindAll .builtin { s with bindings := .empty } fields =
      .ok { s with bindings := .table total } := by
  let behind (c : Catalogue Binding) : Shape := { s with bindings := .table c }
  let completes (c : Catalogue Binding) (rest : List (Value × Binding)) : Prop :=
    ∀ fields, List.Forall₂ (BindsTo s.figure.kind) rest fields →
      bindAll .builtin (behind c) fields = .ok (behind total)
  have filled : completes .empty total.entries := by
    refine grown.fill (motive := completes) (fun fields each => ?_)
      fun c c' v b rest member absent inserted later fields each => ?_
    · cases each
      rfl
    · cases each with
      | @cons _ field _ rest first others =>
        obtain ⟨name, rfl, bindable, hname, made⟩ := first
        have bound : (behind c).bind (.text name) b = .ok (behind c') :=
          bind_of_mem plain rfl bindable inserted
        rw [Shape.bindAll, made, hname, snake_camel_of_bindable bindable]
        refine bind_eq_ok_iff.2 ⟨b, rfl, bind_eq_ok_iff.2 ⟨behind c', bound, ?_⟩⟩
        exact later rest others
  exact filled fields each

/-! ### Documents -/

/-- The fields of a document for the properties that are not hidden. -/
def fieldsOf (hidden : String → Bool) (f : Figure) : List (String × Value) :=
  (f.options hidden).map fun option => (camel option.1, option.2)

/-- The document of a shape, with what is written of its bindings. -/
def written (s : Shape) (bs : List (String × Value)) : Value :=
  .object (("id", s.id) :: ("type", .text s.figure.kind.label) :: ("bindings", .object bs) ::
    fieldsOf s.hides s.figure)

/-- A property that is bound, in a document. -/
def entryField (entry : Value × Binding) : Except Misuse (String × Value) := do
  return (camel (← entry.1.asWord), ← entry.2.toValue)

theorem filterMapM_map_eq_ok {α β γ ε : Type} {f : β → Except ε (Option γ)} {h : α → β}
    {g : α → Option γ} {items : List α} (each : ∀ item ∈ items, f (h item) = .ok (g item)) :
    (items.map h).filterMapM f = .ok (items.filterMap g) := by
  induction items with
  | nil => rfl
  | cons item rest ih =>
    obtain ⟨first, others⟩ := List.forall_mem_cons.1 each
    rw [List.map_cons, List.filterMapM_cons, first, ih others, List.filterMap_cons]
    cases g item <;> rfl

theorem bindable_eq_map_properties (f : Figure) :
    Figure.bindable f.kind = f.properties.map Prod.fst := by
  cases f <;> rfl

theorem read_property {s : Shape} {property : String × Value}
    (member : property ∈ s.figure.properties) : s.read (.text property.1) = .ok property.2 := by
  obtain ⟨id, figure, bindings, extras⟩ := s
  cases figure with
  | rectangle | polygon =>
    simp only [Figure.properties, List.mem_cons, List.not_mem_nil, or_false] at member
    obtain rfl | rfl | rfl | rfl := member <;> rfl
  | path =>
    simp only [Figure.properties, List.mem_cons, List.not_mem_nil, or_false] at member
    obtain rfl | rfl := member <;> rfl
  | blank => cases member

theorem ownFields_eq {s : Shape} (read : s.IsRead) :
    s.ownFields = .ok ((s.figure.properties.filter fun p => !s.hides p.1).map fun p =>
      (camel p.1, p.2)) := by
  obtain ⟨c, table, -, -⟩ := read.bound
  unfold ownFields
  rw [bindable_of_plain read.plain, bindable_eq_map_properties, List.map_map]
  refine bind_eq_ok_iff.2 ⟨_, rfl, ?_⟩
  have each : ∀ p ∈ s.figure.properties, (do
      if ← s.isBound (.text p.1) then return none
      let v ← s.read (.text p.1)
      return some (camel (Value.text p.1).shown, v) : Except Misuse (Option (String × Value))) =
        .ok (if s.hides p.1 then none else some (camel p.1, p.2)) := by
    intro p member
    have bound : s.isBound (.text p.1) = .ok (s.hides p.1) := by
      unfold isBound hides
      rw [table]
      rfl
    rw [bound, read_property member]
    cases s.hides p.1 <;> rfl
  refine (filterMapM_map_eq_ok each).trans (congrArg Except.ok ?_)
  induction s.figure.properties with
  | nil => rfl
  | cons p rest ih =>
    rw [List.filterMap_cons, ih]
    cases hidden : s.hides p.1 <;> simp [hidden]

theorem extraFields_eq {s : Shape} (read : s.IsRead) :
    ∃ extra, s.extraFields = .ok extra ∧
      fieldsOf s.hides s.figure = ((s.figure.properties.filter fun p => !s.hides p.1).map fun p =>
        (camel p.1, p.2)) ++ extra := by
  unfold extraFields
  rw [perform_of_plain read.plain]
  obtain ⟨id, figure, bindings, extras⟩ := s
  have figureRead := read.figure
  cases figure with
  | rectangle | polygon => exact ⟨[], rfl, (List.append_nil _).symm⟩
  | path course closed offsetX offsetY =>
    obtain ⟨⟨ps, rfl⟩, -⟩ := figureRead
    refine ⟨_, rfl, ?_⟩
    have points : camel "points" = "points" := by decide +kernel
    have closes : camel "closed" = "closed" := by decide +kernel
    dsimp only [fieldsOf, Figure.options]
    rw [List.map_append, List.map_cons, List.map_cons, List.map_nil, points, closes]
  | blank => exact figureRead.elim

theorem toValue_eq {s : Shape} {c : Catalogue Binding} {bs : List (String × Value)}
    (read : s.IsRead) (table : s.bindings = .table c)
    (success : c.entries.mapM entryField = .ok bs) : s.toValue = .ok (s.written bs) := by
  obtain ⟨extra, hextra, fields⟩ := extraFields_eq read
  have typed : s.type = .text s.figure.kind.label := by
    unfold type
    rw [read.plain]
    rfl
  unfold toValue
  rw [perform_of_plain read.plain, table, ownFields_eq read, hextra, typed]
  refine bind_eq_ok_iff.2 ⟨(), rfl, bind_eq_ok_iff.2 ⟨c.entries, rfl, ?_⟩⟩
  refine bind_eq_ok_iff.2 ⟨bs, success, ?_⟩
  refine bind_eq_ok_iff.2 ⟨_, rfl, bind_eq_ok_iff.2 ⟨extra, rfl, ?_⟩⟩
  rw [Shape.written, fields]
  rfl

/-- The options of a figure are settings that are not null. -/
theorem options_known {f : Figure} (read : f.IsRead) (hidden : String → Bool) :
    ∀ option ∈ f.options hidden, option.1 ∈ (Figure.defaults f.kind).map Prod.fst ∧
      option.2.isNull = false := by
  have properties : ∀ property ∈ f.properties,
      property.1 ∈ (Figure.defaults f.kind).map Prod.fst ∧ property.2.isNull = false := by
    cases f with
    | rectangle x y width height =>
      obtain ⟨hx, hy, hwidth, hheight⟩ := read
      simp [Figure.properties, Figure.kind, Figure.defaults, *]
    | polygon centerX centerY radius sides =>
      obtain ⟨hcenterX, hcenterY, hradius, n, -, rfl⟩ := read
      have hsides : (Value.int n).isNull = false := rfl
      simp [Figure.properties, Figure.kind, Figure.defaults, *]
    | path course closed offsetX offsetY =>
      obtain ⟨-, -, hoffsetX, hoffsetY⟩ := read
      simp [Figure.properties, Figure.kind, Figure.defaults, *]
    | blank => exact read.elim
  intro option member
  cases f with
  | rectangle | polygon =>
    have own := List.mem_of_mem_filter member
    exact properties option own
  | path course closed offsetX offsetY =>
    obtain ⟨⟨ps, rfl⟩, hclosed, -⟩ := read
    obtain own | fixed := List.mem_append.1 member
    · exact properties option (List.mem_of_mem_filter own)
    · simp only [List.mem_cons, List.not_mem_nil, or_false] at fixed
      obtain rfl | rfl := fixed
      · exact ⟨.head _, rfl⟩
      · exact ⟨.tail _ (.head _), hclosed⟩
  | blank => exact read.elim

theorem optionsOf_fields {f : Figure} (read : f.IsRead) (hidden : String → Bool)
    (id type bs : Value) :
    optionsOf f.kind (("id", id) :: ("type", type) :: ("bindings", bs) :: fieldsOf hidden f) =
      (f.options hidden).reverse := by
  have others : ∀ name ∈ ["id", "type", "bindings"],
      ((Figure.defaults f.kind).map Prod.fst).contains (snake name) = false := by
    cases f.kind <;> decide +kernel
  have own : ∀ options : List (String × Value), (∀ option ∈ options,
      option.1 ∈ (Figure.defaults f.kind).map Prod.fst ∧ option.2.isNull = false) →
      optionsOf f.kind (options.map fun option => (camel option.1, option.2)) =
        options.reverse := by
    intro options known
    refine congrArg List.reverse ?_
    induction options with
    | nil => rfl
    | cons option rest ih =>
      obtain ⟨⟨member, present⟩, later⟩ := List.forall_mem_cons.1 known
      rw [List.map_cons, List.filterMap_cons, ih later]
      simp only [snake_camel (isPropertyName_of_mem_defaults member),
        List.contains_iff_mem.2 member, present]
      rfl
  rw [← own _ (options_known read hidden)]
  simp only [optionsOf, optionsAmong, fieldsOf, List.filterMap_cons, others "id" (by decide),
    others "type" (by decide), others "bindings" (by decide), Bool.false_and, Bool.false_eq_true,
    if_false]

/-- The shape with the defaults in the place of hidden properties. -/
def withHidden (s : Shape) (hidden : String → Bool) : Shape :=
  { s with figure := s.figure.exposed hidden }

/-- The shape as it is read back: the properties that are bound have their defaults. -/
def reloaded (s : Shape) : Shape := s.withHidden s.hides

theorem kindOf_label {r : ShapeRegistry} (kinds : r.kinds = ShapeRegistry.builtin.kinds)
    {kind : FigureKind} (hkind : kind ≠ .blank) : r.kindOf (.text kind.label) = .ok kind := by
  unfold ShapeRegistry.kindOf
  rw [kinds]
  cases kind with
  | blank => exact absurd rfl hkind
  | rectangle | polygon | path => rfl

theorem isRead_reloaded {s : Shape} (read : s.IsRead) : s.reloaded.IsRead := by
  refine ⟨read.figure.exposed s.hides, read.plain, ?_⟩
  obtain ⟨c, table, grown, each⟩ := read.bound
  refine ⟨c, table, grown, ?_⟩
  rw [reloaded, withHidden, Figure.kind_exposed]
  exact each

theorem written_reloaded (s : Shape) (bs : List (String × Value)) :
    s.reloaded.written bs = s.written bs := by
  have hides : s.reloaded.hides = s.hides := rfl
  unfold written fieldsOf
  rw [hides, reloaded, withHidden, Figure.kind_exposed, Figure.options_exposed]

/-- The bindings of a shape are written so that they can be bound again. -/
theorem IsRead.bindings_back {s : Shape} {c : Catalogue Binding} (read : s.IsRead)
    (bounded : s.isBounded = true) (table : s.bindings = .table c) :
    ∃ bs, c.entries.mapM entryField = .ok bs ∧
      List.Forall₂ (BindsTo s.figure.kind) c.entries bs := by
  obtain ⟨c', table', -, each⟩ := read.bound
  cases table.symm.trans table'
  refine exists_mapM fun entry member => ?_
  obtain ⟨name, hname, bindable, v, made⟩ := each entry member
  unfold isBounded at bounded
  rw [table] at bounded
  have inside := List.all_eq_true.1 bounded entry.2 (List.mem_map.2 ⟨entry, member, rfl⟩)
  obtain ⟨w, hw, back⟩ := Binding.written_back made inside
  refine ⟨(camel name, w), ?_, name, hname, bindable, rfl, back⟩
  unfold entryField
  rw [hname, hw]
  rfl

theorem IsRead.kind_ne_blank {s : Shape} (read : s.IsRead) : s.figure.kind ≠ .blank := by
  obtain ⟨id, figure, bindings, extras⟩ := s
  have figureRead := read.figure
  cases figure with
  | blank => exact figureRead.elim
  | rectangle | polygon | path => nofun

/-- What is written of a shape with its bindings reads back. -/
theorem IsRead.ofValue_written {s : Shape} {c : Catalogue Binding} {bs : List (String × Value)}
    (read : s.IsRead) (table : s.bindings = .table c)
    (bound : List.Forall₂ (BindsTo s.figure.kind) c.entries bs) {r : ShapeRegistry}
    (kinds : r.kinds = ShapeRegistry.builtin.kinds) (bindings : r.bindings = .builtin) :
    r.ofValue (s.written bs) = .ok s.reloaded := by
  obtain ⟨c', table', grown, -⟩ := read.bound
  cases table.symm.trans table'
  have typed : (Value.text s.figure.kind.label).isTruthy = true := by
    cases s.figure.kind <;> rfl
  have figure : Figure.ofOptions s.figure.kind (optionsOf s.figure.kind
      (("id", s.id) :: ("type", .text s.figure.kind.label) :: ("bindings", .object bs) ::
        fieldsOf s.hides s.figure)) = .ok (s.figure.exposed s.hides) := by
    rw [optionsOf_fields read.figure]
    exact Figure.ofOptions_options read.figure s.hides
  have fields : fieldsOrNone (.object bs) = .ok bs := by
    cases bs <;> rfl
  have filled : bindAll .builtin { id := s.id, figure := s.figure.exposed s.hides } bs =
      .ok s.reloaded := by
    rw [← Figure.kind_exposed _ s.hides] at bound
    have all := bindAll_of_bindsTo (s := s.reloaded) read.plain grown bound
    have start : ({ s.reloaded with bindings := .empty } : Shape) =
        { id := s.id, figure := s.figure.exposed s.hides } := by
      unfold reloaded withHidden
      rw [read.plain]
    have same : ({ s.reloaded with bindings := .table c } : Shape) = s.reloaded := by
      rw [← table]
      rfl
    rwa [start, same] at all
  unfold ShapeRegistry.ofValue written
  refine (if_pos typed).trans (bind_eq_ok_iff.2 ⟨_, kindOf_label kinds read.kind_ne_blank, ?_⟩)
  rw [bindings]
  refine bind_eq_ok_iff.2 ⟨_, liftM_eq_ok_iff.2 figure, ?_⟩
  exact bind_eq_ok_iff.2 ⟨bs, liftM_eq_ok_iff.2 fields, filled⟩

/-- A shape that was read is written so that it reads back, save for what is hidden. What is read
back is written the same. -/
theorem IsRead.written_back {s : Shape} (read : s.IsRead) (bounded : s.isBounded = true)
    {r : ShapeRegistry} (kinds : r.kinds = ShapeRegistry.builtin.kinds)
    (bindings : r.bindings = .builtin) :
    ∃ w, s.toValue = .ok w ∧ r.ofValue w = .ok s.reloaded ∧ s.reloaded.toValue = .ok w := by
  obtain ⟨c, table, -, -⟩ := read.bound
  obtain ⟨bs, hbs, bound⟩ := read.bindings_back bounded table
  have again := toValue_eq (isRead_reloaded read) (c := c) table hbs
  rw [written_reloaded] at again
  exact ⟨_, toValue_eq read table hbs, read.ofValue_written table bound kinds bindings, again⟩

/-! ### Shapes of documents -/

/-- A shape stays as documents give it when it is given another id. -/
theorem IsRead.withId {s : Shape} (read : s.IsRead) (id : Value) :
    ({ s with id := id } : Shape).IsRead :=
  ⟨read.figure, read.plain, read.bound⟩

/-- The options that fields give are settings that are not null. -/
theorem optionsOf_known (kind : FigureKind) (fields : List (String × Value)) :
    ∀ option ∈ optionsOf kind fields, option.1 ∈ (Figure.defaults kind).map Prod.fst ∧
      option.2.isNull = false := by
  intro option member
  obtain ⟨field, -, given⟩ := List.mem_filterMap.1 (List.mem_reverse.1 member)
  dsimp only at given
  split at given
  · next known =>
    cases given
    obtain ⟨named, present⟩ := (Bool.and_eq_true _ _).mp known
    exact ⟨List.contains_iff_mem.1 named, by simpa using present⟩
  · cases given

theorem kindOf_ne_blank {r : ShapeRegistry} (kinds : r.kinds = ShapeRegistry.builtin.kinds)
    {word : Value} {kind : FigureKind} (success : r.kindOf word = .ok kind) : kind ≠ .blank := by
  unfold ShapeRegistry.kindOf at success
  split at success
  · next found =>
    cases success
    rw [kinds] at found
    have member := (Table.find?_eq_some_iff _ _ _).1 found
    have entries : ShapeRegistry.builtin.kinds.entries =
        [("rectangle", .rectangle), ("polygon", .polygon), ("path", .path)] := rfl
    rw [entries] at member
    rintro rfl
    simp at member
  · cases success

theorem isRead_ofValue {r : ShapeRegistry} (kinds : r.kinds = ShapeRegistry.builtin.kinds)
    (bindings : r.bindings = .builtin) {v : Value} {s : Shape} (success : r.ofValue v = .ok s) :
    s.IsRead := by
  unfold ShapeRegistry.ofValue at success
  split at success
  · next fields =>
    dsimp only at success
    split at success
    · obtain ⟨kind, hkind, success⟩ := bind_eq_ok_iff.1 success
      obtain ⟨figure, hfigure, success⟩ := bind_eq_ok_iff.1 success
      obtain ⟨bound, -, success⟩ := bind_eq_ok_iff.1 success
      rw [bindings] at success
      have present : ∀ option ∈ optionsOf kind fields, option.2.isNull = false :=
        fun option member => (optionsOf_known kind fields option member).2
      obtain ⟨-, figureRead⟩ := Figure.isRead_ofOptions present (kindOf_ne_blank kinds hkind)
        (liftM_eq_ok_iff.1 hfigure)
      refine isRead_bindAll (s := { id := _, figure := figure }) ?_ success
      exact ⟨figureRead, rfl, .empty, rfl, .nil, List.forall_mem_nil _⟩
    · cases success
  · cases success

end Shape

end Joinery
