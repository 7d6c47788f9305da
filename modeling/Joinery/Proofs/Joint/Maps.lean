import Joinery.Proofs.Joint.Keys
import Joinery.Proofs.Table

/-!
# Joint stores as maps

A store that is only changed through edges is a pair of maps: the joints of the edges of shapes, by
shape, path and place, and those of edges without a shape, by path and place. The maps are changed
without any keys; a run of operations on the store and the same run on the maps answer the same,
since the keys of a store tell the identities of its edges.
-/
namespace Joinery

/-- The joints of edges of shapes, and those of edges that belong to no shape. -/
structure JointMaps where
  owned : ShapeId × Int × Int → Option Joint
  loose : Int × Int → Option Joint

namespace JointMaps

def empty : JointMaps := ⟨fun _ => none, fun _ => none⟩

/-- What is stored for an edge itself. -/
def stored (m : JointMaps) (p : Spot) : Option Joint :=
  match p.shape with
  | some id => m.owned (id, p.path, p.index)
  | none => m.loose (p.path, p.index)

/-- Changes what is stored for an edge itself. -/
def put (m : JointMaps) (p : Spot) (joint : Option Joint) : JointMaps :=
  match p.shape with
  | some id => { m with owned := Function.update m.owned (id, p.path, p.index) joint }
  | none => { m with loose := Function.update m.loose (p.path, p.index) joint }

/-- The joint of an edge: its own, or else the one that its place has without the shape. -/
def get (m : JointMaps) (p : Spot) : Option Joint :=
  match p.shape with
  | some id =>
    match m.owned (id, p.path, p.index) with
    | some joint => some joint
    | none => m.loose (p.path, p.index)
  | none => m.loose (p.path, p.index)

/-- Stores a joint for an edge, aligned to the left if it has no alignment. -/
def set (m : JointMaps) (p : Spot) (joint : Joint) : Option Joint × JointMaps :=
  (some joint.aligned, m.put p (some joint.aligned))

/-- Stores the flipped joint of an edge, if it has one. -/
def flip (m : JointMaps) (p : Spot) : Option Joint × JointMaps :=
  match m.get p with
  | some joint => m.set p joint.flipped
  | none => (none, m)

/-- Removes the joint that is stored for an edge itself, or else the one of its place without the
shape; answers whether there was one. -/
def remove (m : JointMaps) (p : Spot) : Bool × JointMaps :=
  if (m.stored p).isSome then (true, m.put p none)
  else if (m.stored p.unowned).isSome then (true, m.put p.unowned none)
  else (false, m)

/-- Removes the joints of a shape; answers their number. -/
noncomputable def removeShape (m : JointMaps) (id : String) : Nat × JointMaps :=
  (Set.ncard { place : ShapeId × Int × Int | place.1.val = id ∧ (m.owned place).isSome },
    { m with owned := fun place => if place.1.val = id then none else m.owned place })

end JointMaps

/-! ### Runs of operations -/

/-- An edge: its identity, and what keys do not tell. -/
structure Located (α : Type) extends Spot where
  start : Point α
  stop : Point α
  closed : Value

def Located.edge {α : Type} (e : Located α) : Edge α := e.toSpot.edge e.start e.stop e.closed

/-- What is done with a store. -/
inductive JointOperation (α : Type) where
  | set (e : Located α) (joint : Joint)
  | assign (e : Located α) (type : Value) (given : List (String × Value))
  | flip (e : Located α)
  | get (e : Located α)
  | remove (e : Located α)
  | removeShape (id : String)
  | clear

/-- What is answered. -/
inductive JointAnswer where
  | joint (found : Option Joint)
  | removed (found : Bool)
  | count (number : Nat)
  | refused (cause : Failure)
  | done

namespace JointOperation

variable {α : Type}

/-- An operation on a store; one that is refused leaves the store as it is. -/
def onStore (op : JointOperation α) (s : JointStore) : JointAnswer × JointStore :=
  match op with
  | .set e joint =>
    let step := s.set? (some e.edge) (some joint)
    (.joint step.answer, step.store)
  | .assign e type given =>
    match s.assign (some e.edge) type given with
    | .ok step => (.joint step.answer, step.store)
    | .error cause => (.refused cause, s)
  | .flip e => (.joint (s.flip e.edge).answer, (s.flip e.edge).store)
  | .get e => (.joint (s.get e.edge), s)
  | .remove e => (.removed (s.remove e.edge).answer, (s.remove e.edge).store)
  | .removeShape id =>
    match s.removeShape (.text id) with
    | .ok step => (.count step.answer, step.store)
    | .error cause => (.refused (.misuse cause), s)
  | .clear => (.done, s.clear)

/-- The same operation on maps, with the defaults of the store. -/
noncomputable def onMaps (defaults : JointDefaults) (op : JointOperation α) (m : JointMaps) :
    JointAnswer × JointMaps :=
  match op with
  | .set e joint => ((m.set e.toSpot joint).map .joint id)
  | .assign e type given =>
    match JointStore.filled defaults type given with
    | .ok joint => (m.set e.toSpot joint).map .joint id
    | .error cause => (.refused cause, m)
  | .flip e => (m.flip e.toSpot).map .joint id
  | .get e => (.joint (m.get e.toSpot), m)
  | .remove e => (m.remove e.toSpot).map .removed id
  | .removeShape shape => (m.removeShape shape).map .count id
  | .clear => (.done, .empty)

/-- The answers of a run of operations, and what is stored after it. -/
def run {σ : Type} (step : JointOperation α → σ → JointAnswer × σ) :
    List (JointOperation α) → σ → List JointAnswer × σ
  | [], s => ([], s)
  | op :: rest, s =>
    let (answer, s') := step op s
    let (answers, last) := run step rest s'
    (answer :: answers, last)

end JointOperation

/-! ### What the keys of a store tell -/

/-- A store holds what maps say: under the key of each edge, and under nothing else. -/
structure Represents (defaults : JointDefaults) (s : JointStore) (m : JointMaps) : Prop where
  defaults : s.defaults = defaults
  textual : s.joints.IsTextual
  keys : ∀ text, (s.at? text).isSome → ∃ p : Spot, text = p.key
  stored : ∀ p : Spot, s.at? p.key = m.stored p

namespace JointMaps

theorem stored_put (m : JointMaps) (p q : Spot) (joint : Option Joint) :
    (m.put p joint).stored q = if q = p then joint else m.stored q := by
  obtain ⟨pshape, ppath, pindex⟩ := p
  obtain ⟨qshape, qpath, qindex⟩ := q
  cases pshape <;> cases qshape <;>
    simp [put, stored, Function.update_apply, Spot.mk.injEq]

theorem get_eq (m : JointMaps) (p : Spot) :
    m.get p = (m.stored p).or (if p.shape.isSome then m.stored p.unowned else none) := by
  obtain ⟨shape, path, index⟩ := p
  cases shape with
  | none => simp [get, stored]
  | some id =>
    simp only [get, stored, Spot.unowned]
    cases m.owned (id, path, index) <;> simp

end JointMaps

namespace JointStore

theorem at?_insertText (s : JointStore) (key key' : String) (joint : Joint) :
    ({ s with joints := s.joints.insertText key joint } : JointStore).at? key' =
      if key' = key then some joint else s.at? key' :=
  Catalogue.atText?_insertText s.joints key key' joint

theorem at?_eraseKey (s : JointStore) (key key' : String) :
    (s.eraseKey key).at? key' = if key' = key then none else s.at? key' :=
  Catalogue.atText?_eraseText s.joints key key'

theorem at?_foldl_eraseKey (keys : List String) (s : JointStore) (key : String) :
    (keys.foldl eraseKey s).at? key = if key ∈ keys then none else s.at? key := by
  induction keys generalizing s with
  | nil => simp
  | cons first rest ih =>
    rw [List.foldl_cons, ih, at?_eraseKey]
    by_cases hrest : key ∈ rest
    · simp [hrest]
    · by_cases hfirst : key = first <;> simp [hrest, hfirst]

theorem isTextual_foldl_eraseKey (keys : List String) {s : JointStore}
    (textual : s.joints.IsTextual) : (keys.foldl eraseKey s).joints.IsTextual := by
  induction keys generalizing s with
  | nil => exact textual
  | cons first rest ih => exact ih (textual.eraseText first)

theorem defaults_foldl_eraseKey (keys : List String) (s : JointStore) :
    (keys.foldl eraseKey s).defaults = s.defaults := by
  induction keys generalizing s with
  | nil => rfl
  | cons first rest ih => exact ih (s.eraseKey first)

end JointStore

namespace Represents

variable {defaults : JointDefaults} {s : JointStore} {m : JointMaps}

theorem insert (h : Represents defaults s m) (p : Spot) (joint : Joint) :
    Represents defaults { s with joints := s.joints.insertText p.key joint }
      (m.put p (some joint)) where
  defaults := h.defaults
  textual := h.textual.insertText p.key joint
  keys text found := by
    rw [JointStore.at?_insertText] at found
    split at found
    · exact ⟨p, ‹_›⟩
    · exact h.keys text found
  stored q := by
    rw [JointStore.at?_insertText, JointMaps.stored_put, h.stored q]
    exact if_congr ⟨Spot.key_injective, fun same => by rw [same]⟩ rfl rfl

theorem erase (h : Represents defaults s m) (p : Spot) :
    Represents defaults (s.eraseKey p.key) (m.put p none) where
  defaults := h.defaults
  textual := h.textual.eraseText p.key
  keys text found := by
    rw [JointStore.at?_eraseKey] at found
    split at found
    · cases found
    · exact h.keys text found
  stored q := by
    rw [JointStore.at?_eraseKey, JointMaps.stored_put, h.stored q]
    exact if_congr ⟨Spot.key_injective, fun same => by rw [same]⟩ rfl rfl

theorem get_edge {α : Type} (h : Represents defaults s m) (e : Located α) :
    s.get e.edge = m.get e.toSpot := by
  have hlocal : s.at? e.toSpot.localKey = m.stored e.toSpot.unowned := h.stored e.toSpot.unowned
  unfold JointStore.get Located.edge
  rw [Spot.key_edge, Spot.isOwned_edge, Spot.localKey_edge, h.stored, hlocal, JointMaps.get_eq]
  cases m.stored e.toSpot <;> rfl

theorem set_edge {α : Type} (h : Represents defaults s m) (e : Located α) (joint : Joint) :
    (s.set? (some e.edge) (some joint)).answer = (m.set e.toSpot joint).1 ∧
      Represents defaults (s.set? (some e.edge) (some joint)).store (m.set e.toSpot joint).2 := by
  have hkey : e.edge.key = e.toSpot.key := Spot.key_edge _ _ _ _
  have hstore : (s.set? (some e.edge) (some joint)).store =
      { s with joints := s.joints.insertText e.edge.key joint.aligned } := rfl
  refine ⟨rfl, ?_⟩
  rw [hstore, hkey]
  exact h.insert e.toSpot joint.aligned

theorem flip_edge {α : Type} (h : Represents defaults s m) (e : Located α) :
    (s.flip e.edge).answer = (m.flip e.toSpot).1 ∧
      Represents defaults (s.flip e.edge).store (m.flip e.toSpot).2 := by
  unfold JointStore.flip JointMaps.flip
  rw [h.get_edge e]
  cases m.get e.toSpot with
  | none => exact ⟨rfl, h⟩
  | some joint => exact h.set_edge e joint.flipped

theorem remove_edge {α : Type} (h : Represents defaults s m) (e : Located α) :
    (s.remove e.edge).answer = (m.remove e.toSpot).1 ∧
      Represents defaults (s.remove e.edge).store (m.remove e.toSpot).2 := by
  have hkey : e.edge.key = e.toSpot.key := Spot.key_edge _ _ _ _
  have hlocal : e.edge.localKey = e.toSpot.unowned.key := Spot.localKey_edge _ _ _ _
  unfold JointStore.remove JointMaps.remove
  rw [hkey, hlocal, List.find?_cons, List.find?_cons, List.find?_nil, h.stored, h.stored]
  cases own : (m.stored e.toSpot).isSome with
  | true => exact ⟨rfl, h.erase e.toSpot⟩
  | false =>
    cases below : (m.stored e.toSpot.unowned).isSome with
    | true => exact ⟨rfl, h.erase e.toSpot.unowned⟩
    | false => exact ⟨rfl, h⟩

/-! ### Removing a shape -/

theorem belongsTo_key (id : String) (p : Spot) :
    JointStore.belongsTo (.text id) p.key = true ↔
      ∃ owner, p.shape = some owner ∧ owner.val = id := by
  unfold JointStore.belongsTo
  rw [JointStore.shapeOf?_key]
  cases p.shape with
  | none => exact iff_of_false nofun nofun
  | some owner =>
    have hequals : (Value.text id).equals (.text owner.val) = (id == owner.val) := by
      unfold Value.equals Value.equalsBy
      rfl
    simp only [Option.map_some, hequals, beq_iff_eq, Option.some.injEq]
    constructor
    · intro same
      exact ⟨owner, rfl, same.symm⟩
    · rintro ⟨_, rfl, same⟩
      exact same.symm

theorem mapM_textKey {items : List (Value × Joint)} {texts : List String}
    (shown : items.map Prod.fst = texts.map .text) :
    items.mapM (fun item => JointStore.textKey item.1) = .ok texts := by
  induction items generalizing texts with
  | nil =>
    cases texts with
    | nil => rfl
    | cons text rest => cases shown
  | cons item rest ih =>
    cases texts with
    | nil => cases shown
    | cons text others =>
      obtain ⟨hitem, hrest⟩ := List.cons.inj shown
      have hkey : JointStore.textKey item.1 = .ok text := by
        rw [hitem]
        rfl
      rw [List.mapM_cons, hkey, ih hrest]
      rfl

/-- When all keys are texts, those that belong to the shape are removed and told of. -/
theorem removeShape_eq {s : JointStore} {texts : List String}
    (shown : s.items.map Prod.fst = texts.map .text) (shape : Value) :
    s.removeShape shape =
      .ok ⟨(texts.filter (JointStore.belongsTo shape)).length,
        (texts.filter (JointStore.belongsTo shape)).foldl JointStore.eraseKey s,
        (texts.filter (JointStore.belongsTo shape)).map fun key => ⟨.text key, none⟩⟩ := by
  unfold JointStore.removeShape
  rw [mapM_textKey shown]
  rfl

/-- The keys of the edges of a shape, as the store finds them. -/
theorem exists_doomed (h : Represents defaults s m) (id : String) :
    ∃ doomed : List String, doomed.Nodup ∧
      (∀ text, text ∈ doomed ↔
        (s.at? text).isSome = true ∧ JointStore.belongsTo (.text id) text = true) ∧
      ∃ changes, s.removeShape (.text id) =
        .ok ⟨doomed.length, doomed.foldl JointStore.eraseKey s, changes⟩ := by
  obtain ⟨texts, shown, nodup, present⟩ := h.textual.texts
  refine ⟨texts.filter (JointStore.belongsTo (.text id)), nodup.filter _, fun text => ?_, ?_⟩
  · rw [List.mem_filter, present]
    rfl
  · exact ⟨_, removeShape_eq shown (.text id)⟩

theorem mem_doomed_iff (h : Represents defaults s m) {id : String} {doomed : List String}
    (mem : ∀ text, text ∈ doomed ↔
      (s.at? text).isSome = true ∧ JointStore.belongsTo (.text id) text = true) (text : String) :
    text ∈ doomed ↔ ∃ place : ShapeId × Int × Int, (place.1.val = id ∧ (m.owned place).isSome) ∧
      (Spot.mk (some place.1) place.2.1 place.2.2).key = text := by
  rw [mem]
  constructor
  · rintro ⟨present, belongs⟩
    obtain ⟨p, rfl⟩ := h.keys text present
    obtain ⟨owner, hshape, hid⟩ := (belongsTo_key id p).1 belongs
    obtain ⟨shape, path, index⟩ := p
    cases hshape
    rw [h.stored] at present
    exact ⟨(owner, path, index), ⟨hid, present⟩, rfl⟩
  · rintro ⟨⟨owner, path, index⟩, ⟨hid, present⟩, rfl⟩
    rw [h.stored, belongsTo_key]
    exact ⟨present, owner, rfl, hid⟩

/-- As many keys are removed as the map has joints of the shape. -/
theorem length_doomed (h : Represents defaults s m) {id : String} {doomed : List String}
    (nodup : doomed.Nodup)
    (mem : ∀ text, text ∈ doomed ↔
      (s.at? text).isSome = true ∧ JointStore.belongsTo (.text id) text = true) :
    doomed.length = (m.removeShape id).1 := by
  have hinjective : Function.Injective fun place : ShapeId × Int × Int =>
      (Spot.mk (some place.1) place.2.1 place.2.2).key := by
    rintro ⟨owner, path, index⟩ ⟨owner', path', index'⟩ same
    cases Spot.key_injective same
    rfl
  have himage : (doomed.toFinset : Set String) = (fun place : ShapeId × Int × Int =>
      (Spot.mk (some place.1) place.2.1 place.2.2).key) ''
        { place | place.1.val = id ∧ (m.owned place).isSome } := by
    ext text
    rw [List.coe_toFinset]
    exact h.mem_doomed_iff mem text
  calc doomed.length = doomed.toFinset.card := (List.toFinset_card_of_nodup nodup).symm
    _ = (doomed.toFinset : Set String).ncard := (Set.ncard_coe_finset doomed.toFinset).symm
    _ = (m.removeShape id).1 := by
      rw [himage]
      exact Set.ncard_image_of_injective _ hinjective

theorem stored_removeShape (id : String) (p : Spot) :
    (m.removeShape id).2.stored p =
      if ∃ owner, p.shape = some owner ∧ owner.val = id then none else m.stored p := by
  obtain ⟨shape, path, index⟩ := p
  cases shape with
  | none => simp [JointMaps.removeShape, JointMaps.stored]
  | some owner => simp [JointMaps.removeShape, JointMaps.stored]

theorem removeShape_text (h : Represents defaults s m) (id : String) :
    ∃ step, s.removeShape (.text id) = .ok step ∧ step.answer = (m.removeShape id).1 ∧
      Represents defaults step.store (m.removeShape id).2 := by
  obtain ⟨doomed, nodup, mem, changes, success⟩ := h.exists_doomed id
  refine ⟨_, success, h.length_doomed nodup mem, ?_⟩
  refine ⟨?_, JointStore.isTextual_foldl_eraseKey doomed h.textual, fun text found => ?_,
    fun p => ?_⟩
  · rw [JointStore.defaults_foldl_eraseKey]
    exact h.defaults
  · rw [JointStore.at?_foldl_eraseKey] at found
    split at found
    · cases found
    · exact h.keys text found
  · have hmem : p.key ∈ doomed ↔
        (m.stored p).isSome = true ∧ ∃ owner, p.shape = some owner ∧ owner.val = id := by
      rw [mem, belongsTo_key, h.stored]
    rw [JointStore.at?_foldl_eraseKey, stored_removeShape, h.stored]
    by_cases belongs : ∃ owner, p.shape = some owner ∧ owner.val = id
    · rw [if_pos belongs]
      cases hstored : m.stored p with
      | none => exact ite_self none
      | some joint => exact if_pos (hmem.2 ⟨by rw [hstored]; rfl, belongs⟩)
    · rw [if_neg belongs, if_neg fun member => belongs (hmem.1 member).2]

/-! ### Runs -/

theorem step {α : Type} (h : Represents defaults s m) (op : JointOperation α) :
    (op.onStore s).1 = (op.onMaps defaults m).1 ∧
      Represents defaults (op.onStore s).2 (op.onMaps defaults m).2 := by
  cases op with
  | set e joint =>
    obtain ⟨answer, after⟩ := h.set_edge e joint
    exact ⟨congrArg JointAnswer.joint answer, after⟩
  | assign e type given =>
    dsimp only [JointOperation.onStore, JointOperation.onMaps, JointStore.assign]
    rw [h.defaults]
    cases JointStore.filled defaults type given with
    | error cause => exact ⟨rfl, h⟩
    | ok joint =>
      obtain ⟨answer, after⟩ := h.set_edge e joint
      exact ⟨congrArg JointAnswer.joint answer, after⟩
  | flip e =>
    obtain ⟨answer, after⟩ := h.flip_edge e
    exact ⟨congrArg JointAnswer.joint answer, after⟩
  | get e => exact ⟨congrArg JointAnswer.joint (h.get_edge e), h⟩
  | remove e =>
    obtain ⟨answer, after⟩ := h.remove_edge e
    exact ⟨congrArg JointAnswer.removed answer, after⟩
  | removeShape id =>
    obtain ⟨step, success, answer, after⟩ := h.removeShape_text id
    dsimp only [JointOperation.onStore, JointOperation.onMaps]
    rw [success]
    exact ⟨congrArg JointAnswer.count answer, after⟩
  | clear =>
    exact ⟨rfl, ⟨h.defaults, Catalogue.isTextual_empty, nofun, fun p => by
      obtain ⟨shape, path, index⟩ := p
      cases shape <;> rfl⟩⟩

theorem run {α : Type} (h : Represents defaults s m) (ops : List (JointOperation α)) :
    (JointOperation.run JointOperation.onStore ops s).1 =
        (JointOperation.run (JointOperation.onMaps defaults) ops m).1 ∧
      Represents defaults (JointOperation.run JointOperation.onStore ops s).2
        (JointOperation.run (JointOperation.onMaps defaults) ops m).2 := by
  induction ops generalizing s m with
  | nil => exact ⟨rfl, h⟩
  | cons op rest ih =>
    obtain ⟨answer, after⟩ := h.step op
    obtain ⟨answers, last⟩ := ih after
    exact ⟨List.cons_eq_cons.2 ⟨answer, answers⟩, last⟩

theorem empty (defaults : JointDefaults) : Represents defaults { defaults } .empty where
  defaults := rfl
  textual := Catalogue.isTextual_empty
  keys := nofun
  stored p := by
    obtain ⟨shape, path, index⟩ := p
    cases shape <;> rfl

end Represents

end Joinery
