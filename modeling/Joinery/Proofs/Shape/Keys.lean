import Joinery.Proofs.Shape.Values

/-!
# What is read under the keys of a document

A document of a shape holds its attributes under their keys. What class a shape is of matters by the
names of its properties only, so this is stated for any names of properties: each key that is read
back gives the attribute that it was written from, be it as an option or as a binding, and no two
attributes share one.
-/
namespace Joinery.Shape

/-- Attributes as fields of a document, each under its key. -/
def keyed (attributes : List (String × Value)) : List (String × Value) :=
  attributes.map fun a => (camel a.1, a.2)

variable {attributes : List (String × Value)} {names : List String} {s t : Shape}

theorem keyed_append (before after : List (String × Value)) :
    keyed (before ++ after) = keyed before ++ keyed after :=
  List.map_append

/-- Keys are distinct where names are. -/
theorem nodup_keyed_iff (named : ∀ a ∈ attributes, IsPropertyName a.1) :
    ((keyed attributes).map Prod.fst).Nodup ↔ (attributes.map Prod.fst).Nodup := by
  have keys : (keyed attributes).map Prod.fst = (attributes.map Prod.fst).map camel := by
    rw [keyed, List.map_map, List.map_map]
    rfl
  rw [keys]
  refine ⟨List.Nodup.of_map camel, fun nodup => nodup.map_on ?_⟩
  intro name hname other hother same
  obtain ⟨a, ha, rfl⟩ := List.mem_map.1 hname
  obtain ⟨b, hb, rfl⟩ := List.mem_map.1 hother
  exact camel_injOn (named a ha) (named b hb) same

/-! ### Reading -/

/-- An attribute among known names that is not null. -/
def isOption (known : List String) (a : String × Value) : Bool :=
  known.contains a.1 && !a.2.isNull

/-- Under its key an attribute is read by its name. -/
theorem optionsAmong_keyed (named : ∀ a ∈ attributes, IsPropertyName a.1) (known : List String) :
    optionsAmong known (keyed attributes) = (attributes.filter (isOption known)).reverse := by
  refine congrArg List.reverse ?_
  induction attributes with
  | nil => rfl
  | cons a rest ih =>
    obtain ⟨first, others⟩ := List.forall_mem_cons.1 named
    rw [keyed, List.map_cons, List.filterMap_cons, ← keyed, ih others, List.filter_cons]
    have asked : (known.contains a.1 && !a.2.isNull) = isOption known a := rfl
    dsimp only
    rw [snake_camel first, asked]
    cases isOption known a <;> rfl

/-- A binding of a property as it is made from a document. -/
def IsMade (registry : BindingRegistry) (written : String × Value) (set : String × Binding) :
    Prop :=
  set.1 = written.1 ∧ registry.create written.2 = .ok set.2

/-- Under their keys bindings are read back for the properties by which they were written. -/
theorem bindAll_keyed_iff (named : ∀ a ∈ attributes, IsPropertyName a.1)
    (registry : BindingRegistry) :
    bindAll registry s (keyed attributes) = .ok t ↔
      ∃ sets, List.Forall₂ (IsMade registry) attributes sets ∧ s.bindEach sets = .ok t := by
  induction attributes generalizing s with
  | nil =>
    constructor
    · exact fun success => ⟨[], .nil, success⟩
    · rintro ⟨_, ⟨⟩, success⟩
      exact success
  | cons a rest ih =>
    obtain ⟨first, others⟩ := List.forall_mem_cons.1 named
    rw [keyed, List.map_cons, ← keyed, bindAll, snake_camel first]
    constructor
    · intro success
      obtain ⟨b, made, success⟩ := bind_eq_ok_iff.1 success
      obtain ⟨next, bound, success⟩ := bind_eq_ok_iff.1 success
      obtain ⟨sets, each, later⟩ := (ih others).1 success
      exact ⟨(a.1, b) :: sets, .cons ⟨rfl, made⟩ each, bind_eq_ok_iff.2 ⟨next, bound, later⟩⟩
    · rintro ⟨_, each, success⟩
      cases each with
      | @cons _ set _ sets made each =>
        obtain ⟨next, bound, later⟩ := bind_eq_ok_iff.1 success
        rw [made.1] at bound
        refine bind_eq_ok_iff.2 ⟨set.2, made.2, bind_eq_ok_iff.2 ⟨next, bound, ?_⟩⟩
        exact (ih others).2 ⟨sets, each, later⟩

/-! ### Writing -/

/-- Bindings are those of properties with given names. -/
def BindsOnly (names : List String) (bs : Bindings) : Prop :=
  ∀ entries, bs.entries = .ok entries → ∀ entry ∈ entries, ∃ name ∈ names, entry.1 = .text name

theorem bindsOnly_empty : BindsOnly names .empty := by
  rintro _ ⟨⟩
  exact List.forall_mem_nil _

/-- Binding keeps to the properties that can be bound. -/
theorem BindsOnly.bind {name : Value} {b : Binding} (only : BindsOnly names s.bindings)
    (listed : s.bindable = .list (names.map .text)) (success : s.bind name b = .ok t) :
    BindsOnly names t.bindings := by
  unfold Shape.bind at success
  obtain ⟨_, -, success⟩ := bind_eq_ok_iff.1 success
  obtain ⟨known, hknown, success⟩ := bind_eq_ok_iff.1 success
  split at success
  · next held =>
    obtain ⟨bs, hbs, success⟩ := bind_eq_ok_iff.1 success
    cases success
    have hbs := liftM_eq_ok_iff.1 hbs
    have bindable : ∃ property ∈ names, name = .text property := by
      rw [listed, held] at hknown
      have found := Except.ok.inj (liftM_eq_ok_iff.1 hknown)
      obtain ⟨_, listed, same⟩ := List.any_eq_true.1 found
      obtain ⟨property, member, rfl⟩ := List.mem_map.1 listed
      exact ⟨property, member, Value.equals_text_iff.1 same⟩
    cases table : s.bindings with
    | other v =>
      rw [table] at hbs
      cases hbs
    | table c =>
      rw [table] at hbs only
      obtain ⟨c', inserted, bound⟩ := bind_eq_ok_iff.1 hbs
      cases bound
      rintro _ ⟨⟩ entry member
      obtain before | ⟨-, shown | ⟨old, before⟩⟩ := Catalogue.mem_entries_insert inserted member
      · exact only _ rfl entry before
      · exact shown ▸ bindable
      · exact only _ rfl (entry.1, old) before
  · cases success

/-- What a document of a shape holds besides the attributes of every shape: its bindings, the values
of its properties that are not bound, and what no binding can give. -/
structure Holds (s : Shape) (names : List String) (bound own others : List (String × Value)) :
    Prop where
  bindings : ∃ entries, s.bindings.entries = .ok entries ∧
    List.Forall₂ (fun entry b => entry.1 = .text b.1 ∧ entry.2.toValue = .ok b.2) entries bound
  values : List.Forall₂ (fun name a => ∃ v, a = (name, v) ∧ s.read (.text name) = .ok v)
    (names.filter fun name => !s.hides name) own
  others : s.extraFields = .ok others

/-- The attributes of a shape that a document of it holds. -/
def attributesOf (s : Shape) (bound own others : List (String × Value)) : List (String × Value) :=
  [("id", s.id), ("type", s.type), ("bindings", .object (keyed bound))] ++ own ++ others

/-- The field that a property has in a document unless it is bound. -/
def ownField (s : Shape) (name : Value) : Except Misuse (Option (String × Value)) := do
  if ← s.isBound name then return none
  let v ← s.read name
  return some (camel name.shown, v)

theorem exists_own {c : Catalogue Binding} {fields : List (String × Value)}
    (table : s.bindings = .table c)
    (success : (names.map .text).filterMapM s.ownField = .ok fields) :
    ∃ own, fields = keyed own ∧
      List.Forall₂ (fun name a => ∃ v, a = (name, v) ∧ s.read (.text name) = .ok v)
        (names.filter fun name => !s.hides name) own := by
  have bound (name : String) : s.isBound (.text name) = .ok (s.hides name) := by
    unfold isBound hides
    rw [table]
    rfl
  induction names generalizing fields with
  | nil =>
    cases success
    exact ⟨[], rfl, .nil⟩
  | cons name rest ih =>
    rw [List.map_cons, List.filterMapM_cons, ownField, bound, ok_bind] at success
    obtain ⟨field, written, success⟩ := bind_eq_ok_iff.1 success
    rw [List.filter_cons]
    cases hidden : s.hides name with
    | true =>
      rw [hidden] at written
      cases written
      exact ih success
    | false =>
      rw [hidden] at written
      obtain ⟨v, read, written⟩ := bind_eq_ok_iff.1 written
      cases written
      obtain ⟨later, hlater, success⟩ := bind_eq_ok_iff.1 success
      cases success
      obtain ⟨own, rfl, values⟩ := ih hlater
      exact ⟨(name, v) :: own, rfl, .cons ⟨v, rfl, read⟩ values⟩

theorem exists_bound {entries : List (Value × Binding)} {fields : List (String × Value)}
    (success : entries.mapM entryField = .ok fields) :
    ∃ bound, fields = keyed bound ∧
      List.Forall₂ (fun entry b => entry.1 = .text b.1 ∧ entry.2.toValue = .ok b.2)
        entries bound := by
  have each := mapM_eq_ok_iff.1 success
  clear success
  induction each with
  | nil => exact ⟨[], rfl, .nil⟩
  | @cons entry field _ _ first _ ih =>
    obtain ⟨bound, rfl, later⟩ := ih
    obtain ⟨name, word, written⟩ := bind_eq_ok_iff.1 first
    obtain ⟨v, value, written⟩ := bind_eq_ok_iff.1 written
    cases written
    refine ⟨(name, v) :: bound, rfl, .cons ⟨?_, value⟩ later⟩
    cases shown : entry.1 with
    | text word' =>
      rw [shown] at word
      cases word
      rfl
    | _ =>
      rw [shown] at word
      cases word

theorem name_of_extraFields {others : List (String × Value)}
    (success : s.extraFields = .ok others) :
    ∀ a ∈ others, a.1 ∈ ["points", "closed"] := by
  unfold extraFields at success
  obtain ⟨_, -, success⟩ := bind_eq_ok_iff.1 success
  split at success
  · obtain ⟨points, -, success⟩ := bind_eq_ok_iff.1 success
    cases success
    simp
  · cases success
    exact List.forall_mem_nil _

theorem keyed_of_single_words (single : ∀ a ∈ attributes, camel a.1 = a.1) :
    keyed attributes = attributes := by
  have same : ∀ a ∈ attributes, (camel a.1, a.2) = a := fun a member => by rw [single a member]
  exact (List.map_congr_left same).trans (List.map_id' attributes)

/-- A document is what the shape has, each attribute under its key. -/
theorem toValue_eq_keyed {fields : List (String × Value)}
    (listed : s.bindable = .list (names.map .text)) (success : s.toValue = .ok (.object fields)) :
    ∃ bound own others, s.Holds names bound own others ∧
      fields = keyed (s.attributesOf bound own others) := by
  obtain ⟨_, -, success⟩ := bind_eq_ok_iff.1 success
  obtain ⟨entries, hentries, success⟩ := bind_eq_ok_iff.1 success
  obtain ⟨boundKeys, hbound, success⟩ := bind_eq_ok_iff.1 success
  obtain ⟨ownKeys, hown, success⟩ := bind_eq_ok_iff.1 success
  obtain ⟨others, hothers, success⟩ := bind_eq_ok_iff.1 success
  cases success
  cases table : s.bindings with
  | other v =>
    rw [table] at hentries
    cases hentries
  | table c =>
    obtain ⟨bound, rfl, bindings⟩ := exists_bound hbound
    have listing : s.ownFields = (names.map .text).filterMapM s.ownField := by
      unfold ownFields
      rw [listed]
      rfl
    obtain ⟨own, rfl, values⟩ := exists_own table (listing.symm.trans hown)
    refine ⟨bound, own, others, ⟨⟨entries, hentries, bindings⟩, values, hothers⟩, ?_⟩
    have every : ∀ a ∈ [("id", s.id), ("type", s.type), ("bindings", .object (keyed bound))],
        camel a.1 = a.1 := by
      have single : ∀ name ∈ ["id", "type", "bindings"], camel name = name := by decide +kernel
      simpa using single
    have fixed : ∀ a ∈ others, camel a.1 = a.1 := fun a member =>
      (by decide +kernel : ∀ name ∈ ["points", "closed"], camel name = name) a.1
        (name_of_extraFields hothers a member)
    rw [attributesOf, keyed_append, keyed_append, keyed_of_single_words every,
      keyed_of_single_words fixed]

theorem exists_of_mem_forall₂ {α β : Type} {R : α → β → Prop} {items : List α} {results : List β}
    (each : List.Forall₂ R items results) {b : β} (member : b ∈ results) :
    ∃ a ∈ items, R a b := by
  induction each with
  | nil => cases member
  | @cons a _ _ _ first _ ih =>
    obtain rfl | later := List.mem_cons.1 member
    · exact ⟨a, .head _, first⟩
    · obtain ⟨a', inside, related⟩ := ih later
      exact ⟨a', .tail _ inside, related⟩

/-- The attributes that a document holds have names of properties. -/
theorem Holds.named {bound own others : List (String × Value)}
    (holds : s.Holds names bound own others) (named : ∀ name ∈ names, IsPropertyName name) :
    ∀ a ∈ s.attributesOf bound own others, IsPropertyName a.1 := by
  have every : ∀ name ∈ ["id", "type", "bindings"], IsPropertyName name := by decide +kernel
  have drawn : ∀ name ∈ ["points", "closed"], IsPropertyName name := by decide +kernel
  intro a member
  rw [attributesOf, List.mem_append, List.mem_append] at member
  obtain (fixed | inOwn) | inOthers := member
  · exact every a.1 (List.mem_map_of_mem (f := Prod.fst) fixed)
  · obtain ⟨name, unbound, v, rfl, -⟩ := exists_of_mem_forall₂ holds.values inOwn
    exact named name (List.mem_of_mem_filter unbound)
  · exact drawn a.1 (name_of_extraFields holds.others a inOthers)

theorem Holds.bound_named {bound own others : List (String × Value)}
    (holds : s.Holds names bound own others) (only : BindsOnly names s.bindings)
    (named : ∀ name ∈ names, IsPropertyName name) : ∀ b ∈ bound, IsPropertyName b.1 := by
  obtain ⟨entries, hentries, each⟩ := holds.bindings
  intro b member
  obtain ⟨entry, inside, same, -⟩ := exists_of_mem_forall₂ each member
  obtain ⟨name, listed, text⟩ := only entries hentries entry inside
  cases same.symm.trans text
  exact named b.1 listed

/-! ### Keys and attributes -/

/-- Names are read off keys, so different properties have different keys, and so have the attributes
of every built-in kind. A document of a shape of any class, whatever the names of its properties,
holds the attributes of the shape under their keys, which are as distinct as their names; read as
options they are those attributes, and read as bindings they are bound to the properties that they
were bound to. -/
theorem attributes_read_by_their_keys :
    (∀ name, IsPropertyName name → snake (camel name) = name) ∧
      (∀ a b, IsPropertyName a → IsPropertyName b → camel a = camel b → a = b) ∧
      (∀ kind, AreProperties (["id", "type", "bindings"] ++ (Figure.defaults kind).map Prod.fst)) ∧
      ∀ (s : Shape) (names : List String) (fields : List (String × Value)),
        s.bindable = .list (names.map .text) → (∀ name ∈ names, IsPropertyName name) →
        BindsOnly names s.bindings → s.toValue = .ok (.object fields) →
        ∃ bound own others, s.Holds names bound own others ∧
          fields = keyed (s.attributesOf bound own others) ∧
          ((fields.map Prod.fst).Nodup ↔
            ((s.attributesOf bound own others).map Prod.fst).Nodup) ∧
          (((keyed bound).map Prod.fst).Nodup ↔ (bound.map Prod.fst).Nodup) ∧
          (∀ known, optionsAmong known fields =
            ((s.attributesOf bound own others).filter (isOption known)).reverse) ∧
          ∀ (registry : BindingRegistry) (r t : Shape),
            bindAll registry r (keyed bound) = .ok t ↔
              ∃ sets, List.Forall₂ (IsMade registry) bound sets ∧ r.bindEach sets = .ok t := by
  refine ⟨fun _ => snake_camel, fun _ _ => camel_injOn, areProperties_defaults, ?_⟩
  intro s names fields listed named only success
  obtain ⟨bound, own, others, holds, rfl⟩ := toValue_eq_keyed listed success
  have attributes := holds.named named
  have bindings := holds.bound_named only named
  exact ⟨bound, own, others, holds, rfl, nodup_keyed_iff attributes, nodup_keyed_iff bindings,
    optionsAmong_keyed attributes, fun registry r t => bindAll_keyed_iff bindings registry⟩

/-- A shape of a class of its own. -/
def slot : Shape where
  id := .text "slot-1"
  figure := .blank
  extras := Table.ofList [("type", .text "slot"),
    ("bindable", .list [.text "center_x2", .text "half_length", .text "r"]),
    ("center_x2", .int 1), ("half_length", .int 0), ("r", .null)]

/-- When one of its properties is bound, the document holds a key for each of the others, and what is
not null is read back under its name. -/
theorem attributes_read_by_their_keys_slot :
    ∃ s fields, slot.bind (.text "half_length") (.literal (.int 5)) = .ok s ∧
      s.toValue = .ok (.object fields) ∧ (fields.map Prod.fst).Nodup ∧
      optionsAmong ["center_x2", "half_length", "r"] fields = [("center_x2", .int 1)] := by
  let s : Shape := { slot with
    bindings := .table (Catalogue.empty.insertText "half_length" (.literal (.int 5))) }
  have set : slot.bind (.text "half_length") (.literal (.int 5)) = .ok s := rfl
  have only : BindsOnly ["center_x2", "half_length", "r"] s.bindings := bindsOnly_empty.bind rfl set
  have written : s.toValue = .ok (.object [("id", .text "slot-1"), ("type", .text "slot"),
      ("bindings", .object
        [("halfLength", .object [("type", .text "literal"), ("value", .int 5)])]),
      ("centerX2", .int 1), ("r", .null)]) := rfl
  obtain ⟨bound, own, others, holds, -, distinct, -, read, -⟩ :=
    attributes_read_by_their_keys.2.2.2 s ["center_x2", "half_length", "r"] _ rfl
      (by decide +kernel) only written
  have values := holds.values
  have unbound : (["center_x2", "half_length", "r"].filter fun name => !s.hides name) =
      ["center_x2", "r"] := by decide
  rw [unbound] at values
  have plain : others = [] := Except.ok.inj holds.others.symm
  obtain - | ⟨⟨v, rfl, first⟩, - | ⟨⟨w, rfl, second⟩, ⟨⟩⟩⟩ := values
  cases first
  cases second
  refine ⟨s, _, set, written, distinct.2 ?_, ?_⟩
  · rw [plain]
    show ["id", "type", "bindings", "center_x2", "r"].Nodup
    decide
  · rw [read, plain]
    rfl

end Joinery.Shape
