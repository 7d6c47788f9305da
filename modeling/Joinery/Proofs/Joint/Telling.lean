import Mathlib.Data.List.Induction
import Joinery.Proofs.Joint.Maps

/-!
# Copies of a joint store

A listener that enters what it is told into a map of its own has a copy of the store. Every change of
a joint through an edge or a shape is told as it is done, so the copy stays the same as the store
through all of these. Clearing and loading tell nobody; the copy is the same as the store for as long
as none of them changes what the store holds.
-/
namespace Joinery

/-! ### What listeners hear -/

namespace Audience

/-- A listener is there, once, and does not leave by itself; its number is not given again. -/
structure Keeps (a : Audience) (n : Nat) : Prop where
  given : n < a.next
  present : a.members.filter (fun member => member.1 = n) = [(n, false)]

theorem keeps_join : (({} : Audience).join false).2.Keeps 0 := ⟨Nat.one_pos, rfl⟩

theorem Keeps.join {a : Audience} {n : Nat} (keeps : a.Keeps n) (onlyOnce : Bool) :
    (a.join onlyOnce).2.Keeps n where
  given := Nat.lt_succ_of_lt keeps.given
  present := by
    have other : a.next ≠ n := Nat.ne_of_gt keeps.given
    simp [Audience.join, List.filter_append, keeps.present, other]

/-- Those that hear something once leave; the listener does not. -/
theorem Keeps.heard {a : Audience} {n : Nat} (keeps : a.Keeps n) :
    ({ a with members := a.members.filter fun member => !member.2 } : Audience).Keeps n where
  given := keeps.given
  present := by
    rw [List.filter_comm, keeps.present]
    rfl

/-- What one of the listeners hears of changes, in order. -/
def heardBy (n : Nat) (heard : List (Nat × JointChange)) : List JointChange :=
  (heard.filter fun entry => entry.1 = n).map Prod.snd

/-- What a listener hears of the first change and of the others. -/
theorem heardBy_hear_cons (a : Audience) (n : Nat) (change : JointChange)
    (rest : List JointChange) :
    heardBy n (a.hear (change :: rest)).1 =
      ((a.members.filter fun member => member.1 = n).map fun _ => change) ++
        heardBy n (({ a with members := a.members.filter fun member => !member.2 } : Audience).hear
          rest).1 := by
  unfold heardBy
  rw [Audience.hear, List.filter_append, List.map_append, List.filter_map, List.map_map]
  rfl

/-- A listener that stays hears every change once, in order. -/
theorem Keeps.hear {a : Audience} {n : Nat} (keeps : a.Keeps n) (changes : List JointChange) :
    heardBy n (a.hear changes).1 = changes ∧ (a.hear changes).2.Keeps n := by
  induction changes generalizing a with
  | nil => exact ⟨rfl, keeps⟩
  | cons change rest ih =>
    obtain ⟨later, after⟩ := ih keeps.heard
    refine ⟨?_, after⟩
    rw [heardBy_hear_cons, keeps.present, later]
    rfl

end Audience

/-! ### Copies -/

/-- A map from keys to joints that a listener keeps. -/
abbrev JointCopy := Value.Key → Option Joint

/-- Enters a change: the joint under the key, or none after a removal. -/
def JointChange.enter (copy : JointCopy) (change : JointChange) : JointCopy :=
  match change.key.key with
  | .ok key => Function.update copy key change.joint
  | .error _ => copy

namespace JointStore

/-- What a store holds. -/
def contents (s : JointStore) : JointCopy := s.joints.at?

theorem contents_insertText (s : JointStore) (key : String) (joint : Joint) :
    ({ s with joints := s.joints.insertText key joint } : JointStore).contents =
      JointChange.enter s.contents ⟨.text key, some joint⟩ := by
  funext key'
  unfold contents Catalogue.at? Catalogue.insertText
  rw [Table.find?_insert]
  dsimp only [JointChange.enter, Value.key]
  rw [Function.update_apply]
  split <;> rfl

theorem contents_eraseKey (s : JointStore) (key : String) :
    (s.eraseKey key).contents = JointChange.enter s.contents ⟨.text key, none⟩ := by
  funext key'
  unfold contents eraseKey Catalogue.at? Catalogue.eraseText Catalogue.eraseAt
  rw [Table.find?_erase]
  dsimp only [JointChange.enter, Value.key]
  rw [Function.update_apply]
  split <;> rfl

theorem contents_foldl_eraseKey (keys : List String) (s : JointStore) :
    (keys.foldl eraseKey s).contents =
      (keys.map fun key => (⟨.text key, none⟩ : JointChange)).foldl JointChange.enter
        s.contents := by
  induction keys generalizing s with
  | nil => rfl
  | cons key rest ih =>
    rw [List.foldl_cons, List.map_cons, List.foldl_cons, ih, contents_eraseKey]

end JointStore

/-! ### Operations -/

/-- What changes a store. An operation on no edge, or with no joint, does nothing. -/
inductive JointEdit (α : Type) where
  | set (e : Option (Edge α)) (joint : Option Joint)
  | assign (e : Option (Edge α)) (type : Value) (given : List (String × Value))
  | flip (e : Edge α)
  | remove (e : Edge α)
  | removeShape (shape : Value)
  | clear
  | load (entries : Value)

namespace JointEdit

variable {α : Type}

/-- The store after an operation, and what is told of it. One that is refused does nothing. -/
def apply (op : JointEdit α) (s : JointStore) : JointStore × List JointChange :=
  match op with
  | .set e joint => ((s.set? e joint).store, (s.set? e joint).changes)
  | .assign e type given =>
    match s.assign e type given with
    | .ok step => (step.store, step.changes)
    | .error _ => (s, [])
  | .flip e => ((s.flip e).store, (s.flip e).changes)
  | .remove e => ((s.remove e).store, (s.remove e).changes)
  | .removeShape shape =>
    match s.removeShape shape with
    | .ok step => (step.store, step.changes)
    | .error _ => (s, [])
  | .clear => (s.clear, [])
  | .load entries => ((s.load entries).store, [])

/-- Whether an operation tells nobody what it does. -/
def isSilent : JointEdit α → Bool
  | .clear | .load _ => true
  | _ => false

theorem told_of_isSilent {op : JointEdit α} (silent : op.isSilent = true) (s : JointStore) :
    (op.apply s).2 = [] := by
  cases op with
  | clear | load => rfl
  | set | assign | flip | remove | removeShape => cases silent

end JointEdit

/-- What is told of a step, entered into a copy of the store before it, gives one of the store after
it. -/
def IsTold (s s' : JointStore) (changes : List JointChange) : Prop :=
  changes.foldl JointChange.enter s.contents = s'.contents

namespace JointStore

variable {α : Type}

theorem isTold_nothing (s : JointStore) : IsTold s s [] := rfl

theorem isTold_set? (s : JointStore) (e : Option (Edge α)) (joint : Option Joint) :
    IsTold s (s.set? e joint).store (s.set? e joint).changes := by
  cases e with
  | none => exact s.isTold_nothing
  | some e =>
    cases joint with
    | none => exact s.isTold_nothing
    | some joint => exact (s.contents_insertText e.key joint.aligned).symm

theorem isTold_flip (s : JointStore) (e : Edge α) :
    IsTold s (s.flip e).store (s.flip e).changes := by
  unfold flip
  cases s.get e with
  | none => exact s.isTold_nothing
  | some joint => exact s.isTold_set? (some e) (some joint.flipped)

theorem isTold_remove (s : JointStore) (e : Edge α) :
    IsTold s (s.remove e).store (s.remove e).changes := by
  unfold remove
  cases [e.key, e.localKey].find? fun key => (s.at? key).isSome with
  | none => exact s.isTold_nothing
  | some key => exact (s.contents_eraseKey key).symm

theorem isTold_removeShape {s : JointStore} {shape : Value} {step : JointStep Nat}
    (success : s.removeShape shape = .ok step) : IsTold s step.store step.changes := by
  obtain ⟨keys, -, success⟩ := bind_eq_ok_iff.1 success
  cases success
  exact (contents_foldl_eraseKey _ s).symm

end JointStore

/-- An operation tells all that it changes, unless it tells nobody anything. -/
theorem JointEdit.isTold {α : Type} {op : JointEdit α} (loud : op.isSilent = false)
    (s : JointStore) : IsTold s (op.apply s).1 (op.apply s).2 := by
  cases op with
  | set e joint => exact s.isTold_set? e joint
  | assign e type given =>
    dsimp only [JointEdit.apply, JointStore.assign]
    cases JointStore.filled s.defaults type given with
    | error cause => exact s.isTold_nothing
    | ok joint => exact s.isTold_set? e (some joint)
  | flip e => exact s.isTold_flip e
  | remove e => exact s.isTold_remove e
  | removeShape shape =>
    dsimp only [JointEdit.apply]
    cases success : s.removeShape shape with
    | error cause => exact s.isTold_nothing
    | ok step => exact JointStore.isTold_removeShape success
  | clear | load => cases loud

/-! ### Runs -/

/-- A store, those who listen to it, and the copy that one of them keeps. -/
structure CopiedStore where
  store : JointStore
  audience : Audience
  copy : JointCopy

namespace CopiedStore

variable {α : Type}

/-- A new store that a listener has come to as the first one; behind it come others, some of which
leave when they have heard something. -/
def start (defaults : JointDefaults) (others : List Bool) : CopiedStore where
  store := { defaults }
  audience := others.foldl (fun a onlyOnce => (a.join onlyOnce).2) (({} : Audience).join false).2
  copy := fun _ => none

/-- An operation on the store; the first listener enters what it hears into its copy. -/
def act (c : CopiedStore) (op : JointEdit α) : CopiedStore :=
  let (store, changes) := op.apply c.store
  let (heard, audience) := c.audience.hear changes
  ⟨store, audience, (Audience.heardBy 0 heard).foldl JointChange.enter c.copy⟩

/-- The copy holds what the store holds, under every key. -/
def IsFaithful (c : CopiedStore) : Prop := c.copy = c.store.contents

theorem keeps_start (defaults : JointDefaults) (others : List Bool) :
    (start defaults others).audience.Keeps 0 := by
  have joined : ∀ (others : List Bool) (a : Audience), a.Keeps 0 →
      (others.foldl (fun a onlyOnce => (a.join onlyOnce).2) a).Keeps 0 := by
    intro others
    induction others with
    | nil => exact fun a keeps => keeps
    | cons onlyOnce rest ih => exact fun a keeps => ih _ (keeps.join onlyOnce)
  exact joined others _ Audience.keeps_join

theorem act_eq {c : CopiedStore} (keeps : c.audience.Keeps 0) (op : JointEdit α) :
    (c.act op).store = (op.apply c.store).1 ∧ (c.act op).audience.Keeps 0 ∧
      (c.act op).copy = (op.apply c.store).2.foldl JointChange.enter c.copy := by
  obtain ⟨heard, after⟩ := keeps.hear (op.apply c.store).2
  exact ⟨rfl, after, congrArg (fun changes => changes.foldl JointChange.enter c.copy) heard⟩

theorem keeps_foldl {c : CopiedStore} (keeps : c.audience.Keeps 0) (ops : List (JointEdit α)) :
    (ops.foldl act c).audience.Keeps 0 := by
  induction ops generalizing c with
  | nil => exact keeps
  | cons op rest ih => exact ih (act_eq keeps op).2.1

/-- Whatever an operation tells keeps a copy faithful; an operation that tells nobody keeps it
faithful exactly when it changes nothing. -/
theorem isFaithful_act_iff {c : CopiedStore} (keeps : c.audience.Keeps 0) (faithful : c.IsFaithful)
    (op : JointEdit α) : (c.act op).IsFaithful ↔
      (op.isSilent = true → (c.act op).store.contents = c.store.contents) := by
  obtain ⟨store, -, copy⟩ := act_eq keeps op
  unfold IsFaithful at faithful ⊢
  rw [copy, store, faithful]
  cases silent : op.isSilent with
  | true =>
    rw [JointEdit.told_of_isSilent silent]
    exact ⟨fun same _ => same.symm, fun same => (same rfl).symm⟩
  | false => exact iff_of_true (JointEdit.isTold silent c.store) nofun

/-- The copy that a listener keeps of a store that starts empty is faithful after every operation of
a run exactly when no clearing and no loading of the run changes what the store holds. -/
theorem isFaithful_iff_of_silent (defaults : JointDefaults) (others : List Bool)
    (ops : List (JointEdit α)) :
    (∀ past, past <+: ops → (past.foldl act (start defaults others)).IsFaithful) ↔
      ∀ past op, past ++ [op] <+: ops → op.isSilent = true →
        ((past ++ [op]).foldl act (start defaults others)).store.contents =
          (past.foldl act (start defaults others)).store.contents := by
  have keeps := keeps_foldl (α := α) (keeps_start defaults others)
  constructor
  · intro faithful past op within silent
    have before := faithful past ((List.prefix_append past [op]).trans within)
    have after := faithful (past ++ [op]) within
    rw [List.foldl_append, List.foldl_cons, List.foldl_nil] at after ⊢
    exact (isFaithful_act_iff (keeps past) before op).1 after silent
  · intro unchanged past
    induction past using List.reverseRecOn with
    | nil => exact fun _ => rfl
    | append_singleton past op ih =>
      intro within
      have before := ih ((List.prefix_append past [op]).trans within)
      have same := unchanged past op within
      rw [List.foldl_append, List.foldl_cons, List.foldl_nil] at same ⊢
      exact (isFaithful_act_iff (keeps past) before op).2 same

/-- A joint that was stored for an edge stays in the copy when the store is cleared. -/
theorem not_forall_isFaithful :
    ¬ ∀ ops : List (JointEdit Value), (ops.foldl act (start {} [])).IsFaithful := by
  intro faithful
  let e : Edge Value :=
    { start := ⟨.int 0, .int 0⟩, stop := ⟨.int 50, .int 0⟩, shape := .text "r" }
  let joint : Joint := ⟨.text "dovetail", .float 3, .int 6, .text "left"⟩
  let ops : List (JointEdit Value) := [.set (some e) (some joint), .clear]
  have kept : ((ops.foldl act (start {} [])).copy (.text "r:0:0")).isSome = true := by
    decide +kernel
  rw [faithful ops] at kept
  cases kept

end CopiedStore

end Joinery
