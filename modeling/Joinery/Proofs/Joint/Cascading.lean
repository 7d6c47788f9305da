import Joinery.Proofs.Joint.Loading
import Joinery.Proofs.Joint.Owners
import Joinery.Proofs.Joint.Telling

/-!
# Removing the joints of shapes

Whatever was done with a store before, the joints of a shape are removed by their keys, in order,
and every listener is told of each of them. A key that is no text stops the removal before anything
is removed. No shape at all is taken for the shape of the local keys, so these go when the joints of
no shape are removed.
-/
namespace Joinery

/-! ### Listeners by number -/

namespace Audience

variable {a : Audience} {n : Nat}

/-- Each listener has a number of its own, which is not given again. -/
structure IsNumbered (a : Audience) : Prop where
  nodup : (a.members.map Prod.fst).Nodup
  given : ∀ member ∈ a.members, member.1 < a.next

theorem isNumbered_empty : ({} : Audience).IsNumbered := ⟨.nil, nofun⟩

theorem IsNumbered.join (numbered : a.IsNumbered) (onlyOnce : Bool) :
    (a.join onlyOnce).2.IsNumbered where
  nodup := by
    have fresh : a.next ∉ a.members.map Prod.fst := by
      intro taken
      obtain ⟨member, among, same⟩ := List.mem_map.1 taken
      exact absurd (numbered.given member among) (by omega)
    unfold Audience.join
    rw [List.map_append]
    exact List.nodup_append_comm.1 (List.nodup_cons.2 ⟨fresh, numbered.nodup⟩)
  given member among := by
    obtain before | last := List.mem_append.1 among
    · exact Nat.lt_succ_of_lt (numbered.given member before)
    · cases List.mem_singleton.1 last
      exact Nat.lt_succ_self _

theorem IsNumbered.filter (numbered : a.IsNumbered) (stays : Nat × Bool → Bool) :
    ({ a with members := a.members.filter stays } : Audience).IsNumbered where
  nodup := numbered.nodup.sublist (List.filter_sublist.map _)
  given member among := numbered.given member (List.mem_filter.1 among).1

theorem IsNumbered.hear (numbered : a.IsNumbered) (changes : List JointChange) :
    (a.hear changes).2.IsNumbered := by
  induction changes generalizing a with
  | nil => exact numbered
  | cons change rest ih => exact ih (numbered.filter _)

/-- A listener is found by its number. -/
theorem IsNumbered.filter_eq (numbered : a.IsNumbered) {once : Bool}
    (member : (n, once) ∈ a.members) :
    a.members.filter (fun other => other.1 = n) = [(n, once)] := by
  have own (other : Nat × Bool) (among : other ∈ a.members) :
      decide (other.1 = n) = (other == (n, once)) := by
    rw [Bool.eq_iff_iff, decide_eq_true_iff, beq_iff_eq]
    exact ⟨List.inj_on_of_nodup_map numbered.nodup among member, fun same => by rw [same]⟩
  rw [List.filter_congr own, List.filter_beq, List.count_eq_one_of_mem numbered.nodup.of_map member]
  rfl

/-- Who is not there hears nothing. -/
theorem heardBy_eq_nil (absent : a.members.filter (fun member => member.1 = n) = [])
    (changes : List JointChange) : heardBy n (a.hear changes).1 = [] := by
  induction changes generalizing a with
  | nil => rfl
  | cons change rest ih =>
    have after : (a.members.filter fun member => !member.2).filter (fun member => member.1 = n) =
        [] := by
      rw [List.filter_comm, absent]
      rfl
    rw [heardBy_hear_cons, absent, ih after]
    rfl

/-- A listener hears every change once, in order, and one that leaves then only the first. -/
theorem IsNumbered.heardBy_eq (numbered : a.IsNumbered) {member : Nat × Bool}
    (among : member ∈ a.members) (changes : List JointChange) :
    heardBy member.1 (a.hear changes).1 = if member.2 then changes.take 1 else changes := by
  obtain ⟨n, once⟩ := member
  have present := numbered.filter_eq among
  cases once with
  | false => exact (Keeps.hear ⟨numbered.given _ among, present⟩ changes).1
  | true =>
    cases changes with
    | nil => rfl
    | cons change rest =>
      have gone : (a.members.filter fun member => !member.2).filter (fun member => member.1 = n) =
          [] := by
        rw [List.filter_comm, present]
        rfl
      rw [heardBy_hear_cons, present, heardBy_eq_nil gone]
      rfl

end Audience

/-! ### What an operation does to a store -/

namespace JointStore

variable {α : Type}

theorem store_set? (s : JointStore) (e : Option (Edge α)) (j : Option Joint) :
    (s.set? e j).store = s ∨
      ∃ key stored, (s.set? e j).store = { s with joints := s.joints.insertText key stored } := by
  cases e with
  | none => exact .inl rfl
  | some e =>
    cases j with
    | none => exact .inl rfl
    | some j => exact .inr ⟨e.key, j.aligned, rfl⟩

end JointStore

/-- An operation stores a joint under a text, removes some texts, clears the store, or loads a
document. -/
theorem JointEdit.apply_cases {α : Type} (op : JointEdit α) (s : JointStore) :
    (∃ key j, (op.apply s).1 = { s with joints := s.joints.insertText key j }) ∨
      (∃ keys : List String, (op.apply s).1 = keys.foldl JointStore.eraseKey s) ∨
      (op.apply s).1 = s.clear ∨
      ∃ document, op = .load document ∧ (op.apply s).1 = (s.load document).store := by
  have unchanged : ∃ keys : List String, s = keys.foldl JointStore.eraseKey s := ⟨[], rfl⟩
  cases op with
  | set e j =>
    obtain same | stored := s.store_set? e j
    · exact .inr (.inl ⟨[], same⟩)
    · exact .inl stored
  | assign e type given =>
    dsimp only [apply, JointStore.assign]
    cases JointStore.filled s.defaults type given with
    | error cause => exact .inr (.inl unchanged)
    | ok j =>
      obtain same | stored := s.store_set? e (some j)
      · exact .inr (.inl ⟨[], same⟩)
      · exact .inl stored
  | flip e =>
    dsimp only [apply, JointStore.flip]
    cases s.get e with
    | none => exact .inr (.inl unchanged)
    | some j => exact .inl ⟨e.key, j.flipped.aligned, rfl⟩
  | remove e =>
    dsimp only [apply, JointStore.remove]
    cases [e.key, e.localKey].find? fun key => (s.at? key).isSome with
    | none => exact .inr (.inl unchanged)
    | some key => exact .inr (.inl ⟨[key], rfl⟩)
  | removeShape shape =>
    dsimp only [apply]
    cases success : s.removeShape shape with
    | error cause => exact .inr (.inl unchanged)
    | ok step =>
      obtain ⟨keys, -, made⟩ := bind_eq_ok_iff.1 success
      cases made
      exact .inr (.inl ⟨_, rfl⟩)
  | clear => exact .inr (.inr (.inl rfl))
  | load document => exact .inr (.inr (.inr ⟨document, rfl, rfl⟩))

/-! ### Keys of a store in any run -/

namespace JointStore

variable {α : Type}

/-- The keys of all joints are texts. -/
def HasTextKeys (s : JointStore) : Prop := ∀ item ∈ s.items, ∃ text, item.1 = .text text

/-- The keys of the joints of a document are texts. -/
def IsKeyedByTexts (document : Value) : Prop :=
  ∀ pair ∈ written document, ∃ text, pair.1 = .text text

theorem isFiled_apply {s : JointStore} (filed : s.joints.IsFiled) (op : JointEdit α) :
    (op.apply s).1.joints.IsFiled := by
  obtain ⟨key, j, after⟩ | ⟨keys, after⟩ | after | ⟨document, -, after⟩ := op.apply_cases s
  · rw [after]
    exact filed.insertText key j
  · rw [after]
    intro entry member
    rw [entries_foldl_eraseKey] at member
    exact filed entry (List.mem_filter.1 member).1
  · rw [after]
    exact nofun
  · rw [after]
    exact (s.holds_load document).2.1.grown.isFiled

theorem isTextual_load (s : JointStore) {document : Value} (texts : IsKeyedByTexts document) :
    (s.load document).store.joints.IsTextual := by
  obtain ⟨-, holds, -⟩ := s.holds_load document
  refine holds.grown.isFiled.isTextual_iff.2 fun item member => ?_
  have kept : item ∈ Catalogue.latest (readable document) := holds.items ▸ member
  obtain ⟨pair, among, same⟩ := Catalogue.exists_of_mem_latest kept
  rw [← same]
  exact texts pair (List.takeWhile_subset _ among)

theorem isTextual_apply {s : JointStore} (textual : s.joints.IsTextual) {op : JointEdit α}
    (texts : ∀ document, op = .load document → IsKeyedByTexts document) :
    (op.apply s).1.joints.IsTextual := by
  obtain ⟨key, j, after⟩ | ⟨keys, after⟩ | after | ⟨document, load, after⟩ := op.apply_cases s
  · rw [after]
    exact textual.insertText key j
  · rw [after]
    exact isTextual_foldl_eraseKey keys textual
  · rw [after]
    exact Catalogue.isTextual_empty
  · rw [after]
    exact s.isTextual_load (texts document load)

end JointStore

/-! ### Runs -/

/-- A store, and those who listen to it. -/
structure ToldStore where
  store : JointStore
  audience : Audience

/-- What is done with a store: it is changed, and listeners come and leave. -/
inductive JointUse (α : Type) where
  | edit (op : JointEdit α)
  | join (onlyOnce : Bool)
  | leave (number : Nat)

namespace ToldStore

open JointStore

variable {α : Type} {c : ToldStore}

/-- What comes of a use; every change is told to those who listen. -/
def act (c : ToldStore) : JointUse α → ToldStore
  | .edit op => ⟨(op.apply c.store).1, (c.audience.hear (op.apply c.store).2).2⟩
  | .join onlyOnce => ⟨c.store, (c.audience.join onlyOnce).2⟩
  | .leave number => ⟨c.store, c.audience.leave number⟩

/-- What uses lead to, one after the other, from the store that a document gives. -/
def reached (defaults : JointDefaults) (document : Value) (uses : List (JointUse α)) : ToldStore :=
  uses.foldl act ⟨(({ defaults } : JointStore).load document).store, {}⟩

/-- What holds of every store with listeners. -/
structure IsSound (c : ToldStore) : Prop where
  filed : c.store.joints.IsFiled
  numbered : c.audience.IsNumbered

theorem IsSound.act (sound : c.IsSound) (use : JointUse α) : (c.act use).IsSound := by
  cases use with
  | edit op => exact ⟨isFiled_apply sound.filed op, sound.numbered.hear _⟩
  | join onlyOnce => exact ⟨sound.filed, sound.numbered.join onlyOnce⟩
  | leave number => exact ⟨sound.filed, sound.numbered.filter _⟩

theorem isSound_reached (defaults : JointDefaults) (document : Value) (uses : List (JointUse α)) :
    (reached defaults document uses).IsSound := by
  have read : (({ defaults } : JointStore).load document).store.joints.IsFiled :=
    (JointStore.holds_load _ document).2.1.grown.isFiled
  exact List.foldlRecOn uses act (motive := IsSound) ⟨read, Audience.isNumbered_empty⟩
    fun c sound use _ => sound.act use

/-- Only documents bring keys that are no texts. -/
theorem isTextual_reached (defaults : JointDefaults) {document : Value} {uses : List (JointUse α)}
    (texts : IsKeyedByTexts document)
    (later : ∀ next, .edit (.load next) ∈ uses → IsKeyedByTexts next) :
    (reached defaults document uses).store.joints.IsTextual := by
  refine List.foldlRecOn uses act (motive := fun c => c.store.joints.IsTextual) ?_
    fun c textual use member => ?_
  · exact isTextual_load { defaults } texts
  · cases use with
    | edit op => exact isTextual_apply textual fun next load => later next (load ▸ member)
    | join | leave => exact textual

/-! ### The joints of a shape -/

/-- A key that names the shape which is asked for. -/
def IsOwned : Option String → Value → Prop
  | some shape, .text key => Names key shape
  | _, _ => False

/-- A key that names no shape. -/
def IsLocal : Value → Prop
  | .text key => ∀ shape, ¬ Names key shape
  | _ => False

theorem shapeOf?_eq_none_iff {key : String} : shapeOf? key = none ↔ IsLocal (.text key) := by
  rw [Option.eq_none_iff_forall_ne_some]
  exact forall_congr' fun shape => not_congr shapeOf?_eq_some_iff

instance (shape : Option String) (key : Value) : Decidable (IsOwned shape key) :=
  match shape, key with
  | some shape, .text key => inferInstanceAs (Decidable (Names key shape))
  | none, _ => isFalse id
  | some _, .null | some _, .bool _ | some _, .int _ | some _, .float _ | some _, .list _
  | some _, .object _ => isFalse id

instance (key : Value) : Decidable (IsLocal key) :=
  match key with
  | .text _ => decidable_of_iff _ shapeOf?_eq_none_iff
  | .null | .bool _ | .int _ | .float _ | .list _ | .object _ => isFalse id

/-- Which keys belong to the shape that is asked for; the local keys do to none at all. -/
theorem isOf_iff (shape : Option String) (key : Value) :
    isOf (shape.elim .null .text) key = true ↔ IsOwned shape key ∨ shape = none ∧ IsLocal key := by
  cases key with
  | text key =>
    dsimp only [isOf]
    unfold belongsTo
    cases shape with
    | none =>
      rw [or_iff_right (a := IsOwned none (.text key)) id, ← shapeOf?_eq_none_iff]
      cases shapeOf? key with
      | none => exact iff_of_true rfl ⟨rfl, rfl⟩
      | some owner => exact iff_of_false nofun fun unnamed => nomatch unnamed.2
    | some shape =>
      have named : IsOwned (some shape) (.text key) ↔ shapeOf? key = some shape :=
        shapeOf?_eq_some_iff.symm
      rw [named, or_iff_left fun unasked => nomatch unasked.1]
      cases shapeOf? key with
      | none => exact iff_of_false nofun nofun
      | some owner =>
        exact Value.equals_text_iff.trans ⟨fun same => by rw [Value.text.inj same],
          fun same => by rw [Option.some.inj same]; rfl⟩
  | null | bool | int | float | list | object =>
    cases shape <;> exact iff_of_false nofun fun either => either.elim id And.right

/-- A removal takes the joints whose keys are to go and no others, which keep their order; it
answers how many there were, and tells every listener of each of them in order. A listener that
leaves when it has been told once hears of the first one. -/
structure IsRemoval (c : ToldStore) (gone : Value → Prop) [DecidablePred gone]
    (step : JointStep Nat) : Prop where
  items : step.store.items = c.store.items.filter fun item => ¬ gone item.1
  defaults : step.store.defaults = c.store.defaults
  answer : step.answer = (c.store.items.filter fun item => gone item.1).length
  changes : step.changes = (c.store.items.filter fun item => gone item.1).map fun item =>
    ⟨item.1, none⟩
  heard : ∀ member ∈ c.audience.members,
    Audience.heardBy member.1 (c.audience.hear step.changes).1 =
      if member.2 then step.changes.take 1 else step.changes

/-- Asked for a shape, or for none, the store removes the joints whose keys are to go. -/
def Removes (c : ToldStore) (shape : Option String) (gone : Value → Prop) [DecidablePred gone] :
    Prop :=
  ∃ step, c.store.removeShape (shape.elim .null .text) = .ok step ∧ c.IsRemoval gone step

theorem IsRemoval.congr {gone gone' : Value → Prop} [DecidablePred gone] [DecidablePred gone']
    {step : JointStep Nat} (same : ∀ item ∈ c.store.items, gone item.1 ↔ gone' item.1)
    (removal : c.IsRemoval gone step) : c.IsRemoval gone' step := by
  have stays : (c.store.items.filter fun item => ¬ gone item.1) =
      c.store.items.filter fun item => ¬ gone' item.1 :=
    List.filter_congr fun item member => decide_eq_decide.2 (not_congr (same item member))
  have goes : (c.store.items.filter fun item => gone item.1) =
      c.store.items.filter fun item => gone' item.1 :=
    List.filter_congr fun item member => decide_eq_decide.2 (same item member)
  exact ⟨stays ▸ removal.items, removal.defaults, goes ▸ removal.answer, goes ▸ removal.changes,
    removal.heard⟩

theorem IsSound.removes (sound : c.IsSound) (texts : c.store.HasTextKeys) (shape : Option String) :
    c.Removes shape fun key => IsOwned shape key ∨ shape = none ∧ IsLocal key := by
  have textual := sound.filed.isTextual_iff.2 texts
  obtain ⟨step, success⟩ := exists_removeShape_iff.2 texts
  have doomed : isOf (shape.elim .null .text) = fun key =>
      decide (IsOwned shape key ∨ shape = none ∧ IsLocal key) :=
    funext fun key => Bool.eq_iff_iff.2 ((isOf_iff shape key).trans decide_eq_true_iff.symm)
  obtain ⟨items, -, defaults⟩ := items_removeShape textual success
  obtain ⟨answer, changes⟩ := told_removeShape textual success
  rw [doomed] at items answer changes
  exact ⟨step, success, by simpa only [decide_not] using items, defaults, answer, changes,
    fun member among => sound.numbered.heardBy_eq among _⟩

/-- The joints that are removed are those of the shape and no others exactly if all keys are texts
and, when no shape is asked for, every one of them names a shape. -/
theorem IsSound.removes_owned_iff (sound : c.IsSound) (shape : Option String) :
    c.Removes shape (IsOwned shape) ↔
      c.store.HasTextKeys ∧ (shape = none → ∀ item ∈ c.store.items, ¬ IsLocal item.1) := by
  constructor
  · rintro ⟨step, success, removal⟩
    have texts : c.store.HasTextKeys := exists_removeShape_iff.1 ⟨step, success⟩
    refine ⟨texts, ?_⟩
    rintro rfl item member isLocal
    obtain ⟨step', success', whole⟩ := sound.removes texts none
    cases success.symm.trans success'
    have stays : item ∈ step.store.items := by
      rw [removal.items]
      exact List.mem_filter.2 ⟨member, decide_eq_true id⟩
    rw [whole.items] at stays
    exact of_decide_eq_true (List.mem_filter.1 stays).2 (.inr ⟨rfl, isLocal⟩)
  · rintro ⟨texts, named⟩
    obtain ⟨step, success, removal⟩ := sound.removes texts shape
    refine ⟨step, success, removal.congr fun item member => or_iff_left ?_⟩
    rintro ⟨none, isLocal⟩
    exact named none item member isLocal

/-- A store that documents with texts for keys were loaded into, and that anything else was done
with, has texts for keys. Then the joints of a shape are removed and no others, and every listener
is told of each; but asked for the joints of no shape, the store removes those under local keys. -/
theorem removes_reached_iff (defaults : JointDefaults) (document : Value)
    (uses : List (JointUse α)) (shape : Option String) :
    (IsKeyedByTexts document → (∀ next, .edit (.load next) ∈ uses → IsKeyedByTexts next) →
      (reached defaults document uses).store.HasTextKeys) ∧
    ((reached defaults document uses).store.HasTextKeys →
      (reached defaults document uses).Removes shape fun key =>
        IsOwned shape key ∨ shape = none ∧ IsLocal key) ∧
    ((reached defaults document uses).Removes shape (IsOwned shape) ↔
      (reached defaults document uses).store.HasTextKeys ∧
        (shape = none → ∀ item ∈ (reached defaults document uses).store.items,
          ¬ IsLocal item.1)) := by
  have sound := isSound_reached defaults document uses
  exact ⟨fun texts later => sound.filed.isTextual_iff.1 (isTextual_reached defaults texts later),
    fun texts => sound.removes texts shape, sound.removes_owned_iff shape⟩

/-- Asked for the joints of no shape, a store removes the one that it keeps under a local key. -/
theorem not_forall_removes_owned : ¬ ∀ (document : Value) (uses : List (JointUse Value))
    (shape : Option String), IsKeyedByTexts document →
      (reached {} document uses).Removes shape (IsOwned shape) := by
  intro confined
  let document : Value := .list [.object [("key", .text "0:0"), ("type", .text "dovetail")]]
  have texts : IsKeyedByTexts document := by
    rintro pair (_ | ⟨_, _, _⟩)
    exact ⟨"0:0", rfl⟩
  obtain ⟨step, success, removal⟩ := confined document [] none texts
  let read : JointStore := (reached {} document ([] : List (JointUse Value))).store
  have gone : (read.removeShape .null).toOption.map JointStep.answer = some 1 := by decide +kernel
  have kept : read.items.filter (fun item => IsOwned none item.1) = [] :=
    List.filter_eq_nil_iff.2 fun item _ owned => of_decide_eq_true owned
  have answer : step.answer = 1 := by
    have removed : ((Except.ok step : Except Misuse (JointStep Nat)).toOption.map
        JointStep.answer) = some 1 := success ▸ gone
    exact Option.some.inj removed
  rw [removal.answer, kept] at answer
  cases answer

end ToldStore

end Joinery
