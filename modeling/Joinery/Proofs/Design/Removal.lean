import Joinery.Proofs.Design.Resolving
import Joinery.Proofs.Joint.Owners
import Joinery.Proofs.Joint.Removal

/-!
# Removing a shape with its joints

A shape is removed first and the joints of its edges after it, which are found by cutting the keys
of all joints at their last two colons. So a key that is no text ends the removal halfway, and a
shape whose id is no text leaves its joints behind. In all other cases what goes is the shape with
the joints whose keys name it, and what stays keeps its place.
-/
namespace Joinery

namespace Catalogue

variable {β : Type} {c : Catalogue β}

theorem slots_eraseAt (c : Catalogue β) (key : Value.Key) :
    (c.eraseAt key).slots = c.slots.filter fun slot => slot.1 ≠ key := by
  simp [slots, eraseAt, Table.erase, Table.filter, List.filter_map, Function.comp_def]

/-- What is found under a text is what stands there. -/
theorem IsTextual.atText?_eq_some_iff (textual : c.IsTextual) {text : String} {b : β} :
    c.atText? text = some b ↔ (.text text, b) ∈ c.entries := by
  unfold atText? at? entries Table.values
  rw [Option.map_eq_some_iff]
  constructor
  · rintro ⟨⟨shown, _⟩, found, rfl⟩
    have member := (Table.find?_eq_some_iff _ _ _).1 found
    obtain ⟨text', hkey, rfl⟩ := textual _ member
    cases hkey
    exact List.mem_map.2 ⟨_, member, rfl⟩
  · intro member
    obtain ⟨⟨k, _⟩, hentry, rfl⟩ := List.mem_map.1 member
    obtain ⟨text', rfl, shown⟩ := textual _ hentry
    cases shown
    exact ⟨_, (Table.find?_eq_some_iff _ _ _).2 hentry, rfl⟩

end Catalogue

/-! ### Keys that name shapes -/

/-- The path and the place of an edge are integers, as they are on every outline. -/
def Edge.IsCounted {α : Type} (e : Edge α) : Prop :=
  ∃ path index : Int, e.path = .int path ∧ e.index = .int index

namespace JointStore

/-- A key that starts with a text names the shape of that text, unless it is empty. -/
theorem shapeOf?_named (owner : String) (p : Spot) :
    shapeOf? (owner ++ ":" ++ p.localKey) = if owner = "" then none else some owner := by
  split
  · next empty =>
    have colons : (owner ++ ":" ++ p.localKey).toList =
        (':' :: (toString p.path).toList) ++ ':' :: (toString p.index).toList := by
      simp [empty, toList_localKey]
    have before : beforeLastColon? (':' :: (toString p.path).toList) = some [] :=
      @beforeLastColon?_append [] _ (colon_notMem_toString p.path)
    unfold shapeOf?
    simp only [colons, beforeLastColon?_append (colon_notMem_toString p.index),
      Option.bind_eq_bind, Option.bind_some, before]
  · next nonempty => exact shapeOf?_key ⟨some ⟨owner, nonempty⟩, p.path, p.index⟩

section

variable {α : Type} {e : Edge α}

theorem exists_localKey (counted : e.IsCounted) : ∃ p : Spot, p.shape = none ∧
    e.localKey = p.localKey := by
  obtain ⟨path, index, hpath, hindex⟩ := counted
  refine ⟨⟨none, path, index⟩, rfl, ?_⟩
  unfold Edge.localKey
  rw [hpath, hindex]
  rfl

theorem shapeOf?_localKey (counted : e.IsCounted) : shapeOf? e.localKey = none := by
  obtain ⟨p, unowned, same⟩ := exists_localKey counted
  have named := shapeOf?_key p
  rw [unowned] at named
  rw [same]
  unfold Spot.key at named
  rwa [unowned] at named

/-- The key of an edge of a shape names the shape by what its id is shown as. -/
theorem shapeOf?_edge (counted : e.IsCounted) (owned : e.isOwned = true) :
    shapeOf? e.key = if e.shape.shown = "" then none else some e.shape.shown := by
  obtain ⟨p, -, same⟩ := exists_localKey counted
  rw [← shapeOf?_named e.shape.shown p, ← same]
  unfold Edge.key
  rw [owned]
  rfl

end

/-- An id that counts as present finds exactly the keys that name it, if it is a text, and none
otherwise. -/
theorem belongsTo_iff {id : Value} (truthy : id.isTruthy = true) {key : String} :
    belongsTo id key = true ↔ ∃ owner, id = .text owner ∧ shapeOf? key = some owner := by
  unfold belongsTo
  cases shapeOf? key with
  | none =>
    refine iff_of_false (fun null => ?_) (fun ⟨_, _, named⟩ => nomatch named)
    cases id with
    | null => cases truthy
    | bool | int | float | text | list | object => cases null
  | some owner =>
    refine Value.equals_text_iff.trans ⟨fun same => ⟨owner, same, rfl⟩, ?_⟩
    rintro ⟨_, rfl, named⟩
    rw [Option.some.inj named]

end JointStore

namespace Design

open Edit

variable {d : Design} {key : Value.Key} {s : Shape}

/-! ### The edit -/

/-- The removal of a shape that is there ends as the removal of its joints does; the shape is gone in
either case. -/
theorem removeAt_eq (found : d.shapes.at? key = some s) (id : Value) :
    removeAt key id d = match d.joints.removeShape id with
      | .ok step => (⟨.ok (some s), JointStore.removalNotices step.answer id⟩,
          { d with shapes := d.shapes.eraseAt key, joints := step.store })
      | .error cause => (.fail (.misuse cause), { d with shapes := d.shapes.eraseAt key }) := by
  unfold removeAt
  rw [design_bind_apply, found]
  cases d.joints.removeShape id with
  | error cause => rfl
  | ok step =>
    let after : Design := { d with shapes := d.shapes.eraseAt key, joints := step.store }
    exact congrArg (fun ns => ((⟨.ok (some s), ns⟩ : Outcome (Option Shape)), after))
      (List.append_nil (JointStore.removalNotices step.answer id))

theorem removeShape_eq_removeAt (found : d.shapes.at? key = some s) {id : Value}
    (hid : id.key = .ok key) : removeShape id d = removeAt key id d := by
  have filled : d.shapes.size ≠ 0 := by
    have member := Catalogue.mem_slots_of_at? found
    have entries : d.shapes.table.entries ≠ [] := by
      intro none
      simp [Catalogue.slots, none] at member
    exact fun empty => entries (List.eq_nil_of_length_eq_zero empty)
  unfold removeShape
  rw [design_bind_apply, if_neg filled, hid]
  rfl

/-- A shape of a design that was read is found under its key, and its id counts as present. -/
theorem IsRead.of_mem_places (read : d.IsRead) (member : (key, s) ∈ d.places) :
    d.shapes.at? key = some s ∧ s.id.isTruthy = true := by
  obtain ⟨⟨_, shown, _⟩, hentry, same⟩ := List.mem_map.1 member
  cases same
  obtain ⟨own, truthy, -⟩ := read.shapes (shown, s) (List.mem_map.2 ⟨_, hentry, rfl⟩)
  have own : shown = s.id := own
  refine ⟨?_, own ▸ truthy⟩
  unfold Catalogue.at?
  rw [(Table.find?_eq_some_iff _ _ _).2 hentry]
  rfl

/-! ### What a removal is to leave -/

/-- A removal took a shape and the joints of its edges from a design, and nothing else. -/
structure Cascades (d : Design) (key : Value.Key) (s : Shape) (answer : Outcome (Option Shape))
    (after : Design) : Prop where
  completes : answer.result = .ok (some s)
  shapes : after.places = d.places.filter fun place => place.1 ≠ key
  own : ∀ e : Edge Value, e.IsCounted → e.shape = s.id → after.joints.at? e.key = none
  order : after.joints.items.Sublist d.joints.items
  /-- The joints of the other shapes stay. -/
  others : ∀ place ∈ d.places, place.1 ≠ key → ∀ e : Edge Value, e.IsCounted →
    e.shape = place.2.id → ∀ joint, (.text e.key, joint) ∈ d.joints.items →
      (.text e.key, joint) ∈ after.joints.items
  /-- The joints under local keys stay. -/
  locals : ∀ e : Edge Value, e.IsCounted → ∀ joint, (.text e.localKey, joint) ∈ d.joints.items →
    (.text e.localKey, joint) ∈ after.joints.items
  /-- What went names the shape. -/
  named : ∀ item ∈ d.joints.items, item ∉ after.joints.items →
    ∃ text, item.1 = .text text ∧ JointStore.shapeOf? text = some s.id.shown
  rest : after = { d with shapes := after.shapes, joints := after.joints }

/-- The keys of all joints are texts. -/
def HasTextKeys (d : Design) : Prop := ∀ item ∈ d.joints.items, ∃ text, item.1 = .text text

/-- Some edge of the shape has a joint of its own. -/
def IsJointed (d : Design) (s : Shape) : Prop :=
  ∃ e : Edge Value, e.IsCounted ∧ e.shape = s.id ∧ (d.joints.at? e.key).isSome = true

/-- The id of the shape is a text, and no other shape has an id that is shown as that text. -/
def IsToldApart (d : Design) (key : Value.Key) (s : Shape) : Prop :=
  (∃ id, s.id = .text id) ∧ ∀ place ∈ d.places, place.1 ≠ key → place.2.id.shown ≠ s.id.shown

theorem IsRead.isTextual_iff (read : d.IsRead) : d.joints.joints.IsTextual ↔ d.HasTextKeys :=
  read.joints.grown.isFiled.isTextual_iff

/-- When the joints of a shape can be removed, the shape goes and the joints whose keys belong to its
id; all else stays. -/
theorem IsRead.exists_removed (read : d.IsRead) (member : (key, s) ∈ d.places)
    (texts : d.HasTextKeys) : ∃ notices joints,
      removeAt key s.id d =
        (⟨.ok (some s), notices⟩, { d with shapes := d.shapes.eraseAt key, joints := joints }) ∧
      joints.items = (d.joints.items.filter fun item => !JointStore.isOf s.id item.1) ∧
      joints.joints.IsTextual := by
  obtain ⟨found, -⟩ := read.of_mem_places member
  obtain ⟨step, success⟩ := JointStore.exists_removeShape_iff.2 texts
  obtain ⟨items, textual, -⟩ :=
    JointStore.items_removeShape (read.isTextual_iff.2 texts) success
  refine ⟨JointStore.removalNotices step.answer s.id, step.store, ?_, items, textual⟩
  rw [removeAt_eq found, success]

/-- A key that is no text ends the removal when the shape is gone and no joint is. -/
theorem IsRead.exists_halfway (read : d.IsRead) (member : (key, s) ∈ d.places)
    (other : ¬ d.HasTextKeys) : ∃ cause,
      removeAt key s.id d = (.fail (.misuse cause), { d with shapes := d.shapes.eraseAt key }) := by
  obtain ⟨found, -⟩ := read.of_mem_places member
  have refused : Fails (d.joints.removeShape s.id) :=
    not_not.1 fun given => other (JointStore.exists_removeShape_iff.1 (not_fails_iff.1 given))
  obtain ⟨cause, failed⟩ := refused
  exact ⟨cause, by rw [removeAt_eq found, failed]⟩

/-- The joint of an edge of another shape goes only when the two ids are shown alike. -/
theorem shown_eq_of_isOf {id id' : Value} (truthy : id.isTruthy = true)
    (truthy' : id'.isTruthy = true) {e : Edge Value} (counted : e.IsCounted)
    (shape : e.shape = id') (own : JointStore.isOf id (.text e.key) = true) :
    (∃ owner, id = .text owner) ∧ id'.shown = id.shown := by
  obtain ⟨owner, rfl, named⟩ := (JointStore.belongsTo_iff truthy).1 own
  refine ⟨⟨owner, rfl⟩, ?_⟩
  have owned : e.isOwned = true := by rw [Edge.isOwned, shape, truthy']
  rw [JointStore.shapeOf?_edge counted owned, shape] at named
  split at named
  · cases named
  · exact Option.some.inj named

/-- An edge of a shape whose id is a text has a key that belongs to it. -/
theorem isOf_key {id : String} (truthy : (Value.text id).isTruthy = true) {e : Edge Value}
    (counted : e.IsCounted) (shape : e.shape = .text id) :
    JointStore.isOf (.text id) (.text e.key) = true := by
  have owned : e.isOwned = true := by rw [Edge.isOwned, shape, truthy]
  refine (JointStore.belongsTo_iff truthy).2 ⟨id, rfl, ?_⟩
  have nonempty : id ≠ "" := by simpa [Value.isTruthy] using truthy
  rw [JointStore.shapeOf?_edge counted owned, shape]
  exact if_neg nonempty

/-- Edges of shapes whose ids are shown alike have the same keys. -/
theorem key_withShape {e : Edge Value} {id : Value} (owned : e.isOwned = true)
    (truthy : id.isTruthy = true) (alike : id.shown = e.shape.shown) :
    (e.withShape id).key = e.key := by
  have owned' : (e.withShape id).isOwned = true := truthy
  unfold Edge.key
  rw [owned, owned', Edge.withShape, alike]
  rfl

/-- The edges of a shape without joints have none. -/
theorem IsRead.notMem_of_not_isJointed (read : d.IsRead) (texts : d.HasTextKeys)
    (unjointed : ¬ d.IsJointed s) {e : Edge Value} (counted : e.IsCounted) (shape : e.shape = s.id)
    (joint : Joint) : (.text e.key, joint) ∉ d.joints.items := by
  intro stood
  have before : d.joints.at? e.key = some joint :=
    (read.isTextual_iff.2 texts).atText?_eq_some_iff.2 stood
  exact unjointed ⟨e, counted, shape, by rw [before]; rfl⟩

/-- A removal leaves what it is to leave when the keys of all joints are texts, and the shape has no
joints or is told by its id from all others. -/
theorem IsRead.cascades (read : d.IsRead) (member : (key, s) ∈ d.places) (texts : d.HasTextKeys)
    (clear : ¬ d.IsJointed s ∨ d.IsToldApart key s) :
    Cascades d key s (removeAt key s.id d).1 (removeAt key s.id d).2 := by
  obtain ⟨-, truthy⟩ := read.of_mem_places member
  obtain ⟨notices, joints, removed, items, textual⟩ := read.exists_removed member texts
  rw [removed]
  have stays : ∀ item ∈ d.joints.items, JointStore.isOf s.id item.1 = false →
      item ∈ joints.items := by
    intro item hitem apart
    rw [items]
    exact List.mem_filter.2 ⟨hitem, by rw [apart]; rfl⟩
  refine ⟨rfl, Catalogue.slots_eraseAt _ _, ?_, ?_, ?_, ?_, ?_, rfl⟩
  · intro e counted shape
    refine Option.eq_none_iff_forall_ne_some.2 fun joint held => ?_
    have left := textual.atText?_eq_some_iff.1 held
    have left : (Value.text e.key, joint) ∈ joints.items := left
    rw [items, List.mem_filter] at left
    obtain ⟨stood, apart⟩ := left
    obtain unjointed | ⟨⟨id, told⟩, -⟩ := clear
    · exact read.notMem_of_not_isJointed texts unjointed counted shape joint stood
    · rw [told] at truthy shape apart
      rw [isOf_key truthy counted shape] at apart
      cases apart
  · rw [items]
    exact List.filter_sublist
  · intro place hplace other e counted shape joint stood
    obtain ⟨-, truthy'⟩ := read.of_mem_places hplace
    refine stays _ stood (Bool.eq_false_iff.2 fun own => ?_)
    obtain ⟨-, alike⟩ := shown_eq_of_isOf truthy truthy' counted shape own
    obtain unjointed | ⟨-, distinct⟩ := clear
    · have owned : e.isOwned = true := by rw [Edge.isOwned, shape, truthy']
      have same := key_withShape owned truthy (by rw [shape, alike])
      exact read.notMem_of_not_isJointed texts unjointed (e := e.withShape s.id) counted rfl joint
        (same.symm ▸ stood)
    · exact distinct place hplace other alike
  · intro e counted joint stood
    refine stays _ stood (Bool.eq_false_iff.2 fun own => ?_)
    obtain ⟨owner, -, named⟩ := (JointStore.belongsTo_iff truthy).1 own
    rw [JointStore.shapeOf?_localKey counted] at named
    cases named
  · intro item hitem gone
    obtain ⟨text, same⟩ := texts item hitem
    have own : JointStore.isOf s.id item.1 = true := by
      by_contra apart
      exact gone (stays item hitem (Bool.eq_false_iff.2 apart))
    rw [same] at own
    obtain ⟨owner, told, named⟩ := (JointStore.belongsTo_iff truthy).1 own
    exact ⟨text, same, by rw [named, told]; rfl⟩

/-- A removal that left what it is to leave met texts alone, and a shape without joints or one that
its id tells from all others. -/
theorem IsRead.of_cascades (read : d.IsRead) (member : (key, s) ∈ d.places)
    (left : Cascades d key s (removeAt key s.id d).1 (removeAt key s.id d).2) :
    d.HasTextKeys ∧ (¬ d.IsJointed s ∨ d.IsToldApart key s) := by
  obtain ⟨-, truthy⟩ := read.of_mem_places member
  have texts : d.HasTextKeys := by
    by_contra other
    obtain ⟨cause, halfway⟩ := read.exists_halfway member other
    have completes := left.completes
    rw [halfway] at completes
    cases completes
  obtain ⟨notices, joints, removed, items, textual⟩ := read.exists_removed member texts
  rw [removed] at left
  refine ⟨texts, or_iff_not_imp_left.2 fun jointed => ?_⟩
  obtain ⟨e, counted, shape, held⟩ := not_not.1 jointed
  obtain ⟨joint, held⟩ := Option.isSome_iff_exists.1 held
  have stood : (Value.text e.key, joint) ∈ d.joints.items :=
    (read.isTextual_iff.2 texts).atText?_eq_some_iff.1 held
  have gone : (Value.text e.key, joint) ∉ joints.items := by
    intro remains
    have found := textual.atText?_eq_some_iff.2 remains
    cases (left.own e counted shape).symm.trans found
  have own : JointStore.isOf s.id (.text e.key) = true := by
    by_contra apart
    refine gone ?_
    rw [items]
    exact List.mem_filter.2 ⟨stood, by simpa using apart⟩
  refine ⟨(shown_eq_of_isOf truthy truthy counted shape own).1, fun place hplace other alike => ?_⟩
  obtain ⟨-, truthy'⟩ := read.of_mem_places hplace
  have owned : e.isOwned = true := by rw [Edge.isOwned, shape, truthy]
  have same := key_withShape owned truthy' (by rw [shape, alike])
  have stays := left.others place hplace other (e.withShape place.2.id) counted rfl joint
  rw [same] at stays
  exact gone (stays stood)

/-- In a design that was read from a document, the removal of a shape takes the shape and the joints
of its edges and leaves all else as it was, in order, exactly when the keys of all joints are texts
and the shape has no joints or an id that is a text and is told from all others. When a key is no
text, the shape goes and the removal ends there, with all joints left. The shape is found by its own
id; only NaN is an id by which nothing else finds it. -/
theorem removeAt_cascades_iff {settings : Settings} {v : Value}
    (loaded : (ofValue settings v).result = .ok d) (member : (key, s) ∈ d.places) :
    (s.id.key = .ok key → removeShape s.id d = removeAt key s.id d) ∧
      (Cascades d key s (removeAt key s.id d).1 (removeAt key s.id d).2 ↔
        d.HasTextKeys ∧ (¬ d.IsJointed s ∨ d.IsToldApart key s)) ∧
      (¬ d.HasTextKeys → ∃ cause, removeAt key s.id d =
        (.fail (.misuse cause), { d with shapes := d.shapes.eraseAt key })) := by
  have read := isRead_ofValue loaded
  refine ⟨removeShape_eq_removeAt (read.of_mem_places member).1, ⟨read.of_cascades member, ?_⟩,
    read.exists_halfway member⟩
  rintro ⟨texts, clear⟩
  exact read.cascades member texts clear

/-- A document with rectangles of given ids and joints under given keys. -/
def jointed (ids : List String) (keys : List Value) : Value :=
  .object [("shapes", .list (ids.map fun id =>
      .object [("id", .text id), ("type", .text "rectangle")])),
    ("edgeJoinery", .list (keys.map fun key =>
      .object [("key", key), ("type", .text "dovetail")]))]

theorem exists_text_of_kind {v : Value} (h : v.kind = .text) : ∃ text, v = .text text := by
  cases v with
  | text text => exact ⟨text, rfl⟩
  | null | bool | int | float | list | object => cases h

/-- One shape may have an id that the id of another one begins with; the joints of each are told by
the last two colons of their keys. -/
theorem removeAt_cascades_iff_colons : ∃ d s,
    (ofValue {} (jointed ["a", "a:0"] [.text "0:1", .text "a:0:1", .text "a:0:0:1"])).result =
        .ok d ∧ (.text "a:0", s) ∈ d.places ∧
      Cascades d (.text "a:0") s (removeAt (.text "a:0") s.id d).1
        (removeAt (.text "a:0") s.id d).2 := by
  obtain ⟨d, loaded, keys, ids, places⟩ := exists_of_any_toOption
    (x := (ofValue {} (jointed ["a", "a:0"] [.text "0:1", .text "a:0:1", .text "a:0:0:1"])).result)
    (P := fun d => (∀ item ∈ d.joints.items, item.1.kind = .text) ∧
      (∀ place ∈ d.places, place.2.id.kind = .text) ∧
      d.places.map (fun place => (place.1, place.2.id.shown)) =
        [(.text "a", "a"), (.text "a:0", "a:0")]) (by decide +kernel)
  have shown : ∀ place ∈ d.places, (place.1, place.2.id.shown) ∈
      [(Value.Key.text "a", "a"), (.text "a:0", "a:0")] :=
    fun place member => places ▸ List.mem_map_of_mem member
  have there : (Value.Key.text "a:0", "a:0") ∈
      d.places.map fun place => (place.1, place.2.id.shown) := by
    rw [places]
    exact .tail _ (.head _)
  obtain ⟨⟨_, s⟩, member, same⟩ := List.mem_map.1 there
  obtain ⟨rfl, own⟩ := Prod.mk.inj same
  refine ⟨d, s, loaded, member, (removeAt_cascades_iff loaded member).2.1.2
    ⟨fun item hitem => exists_text_of_kind (keys item hitem), .inr
      ⟨exists_text_of_kind (ids _ member), fun place hplace other alike => ?_⟩⟩⟩
  have listed := shown place hplace
  have named : place.2.id.shown = "a:0" := alike.trans own
  rw [named] at listed
  have stored : place.1 = .text "a:0" := by simpa using listed
  exact other stored

/-- A joint under a key that is no text ends the removal of a shape halfway: the shape is gone, and
its joint stands. -/
theorem not_forall_removeAt_cascades :
    ¬ ∀ (settings : Settings) (v : Value) (d : Design) (key : Value.Key) (s : Shape),
      (ofValue settings v).result = .ok d → (key, s) ∈ d.places →
        Cascades d key s (removeAt key s.id d).1 (removeAt key s.id d).2 := by
  intro cascades
  obtain ⟨d, loaded, there, refused⟩ := exists_of_any_toOption
    (x := (ofValue {} (jointed ["r"] [.text "r:0:0", .int 5])).result)
    (P := fun d => d.places.length = 1 ∧ ∀ place ∈ d.places,
      (removeAt place.1 place.2.id d).1.result.toOption.isNone = true) (by decide +kernel)
  obtain ⟨⟨key, s⟩, only⟩ := List.length_eq_one_iff.1 there
  have member : (key, s) ∈ d.places := only ▸ List.mem_singleton_self _
  have failed := refused _ member
  rw [(cascades {} _ d key s loaded member).completes] at failed
  cases failed

end Design

end Joinery
