import Joinery.Parameter.Change
import Joinery.Proofs.Parameter.Reloading

/-!
# Histories of parameter stores

A store is reached by adding and removing parameters, by setting them, which listeners may answer by
setting others, and by reading documents. Whatever setting parameters comes to, also when it fails
halfway, it changes values alone: keys, ids and names stay. So every parameter of a store that was
reached is stored under its id.
-/
namespace Joinery

theorem Value.equals_self_of_key_eq_nan {v : Value} {mark : Nat}
    (h : v.key = .ok (.nan mark)) : v.equals v = false := by
  cases v with
  | float x =>
    simp only [key, Except.ok.injEq, Key.ofNumber] at h
    split at h
    · next nan =>
      cases x with
      | nan => rfl
      | infinite | finite => cases nan
    · split at h <;> cases h
  | null | bool | int | text | list | object => cases h

namespace Catalogue

variable {β : Type} {c c' : Catalogue β}

theorem entries_sublist_erase {v : Value} (success : c.erase v = .ok c') :
    c'.table.entries.Sublist c.table.entries := by
  unfold erase at success
  split at success
  · cases success
    exact List.Sublist.refl _
  · obtain ⟨key, -, erased⟩ := bind_eq_ok_iff.1 success
    cases erased
    exact List.filter_sublist

end Catalogue

namespace ParameterStore

/-- The keys of a store in order, each with the id and the name of the parameter that is stored
under it. -/
def labels (s : ParameterStore) : List (Value.Key × Value × Value) :=
  s.parameters.table.entries.map fun entry => (entry.1, entry.2.2.id, entry.2.2.name)

theorem map_name_all (s : ParameterStore) :
    s.all.map Parameter.name = s.labels.map fun label => label.2.2 := by
  simp [all, Catalogue.values, Catalogue.entries, Table.values, labels, Function.comp_def]

/-! ### What setting a parameter leaves as it is -/

variable {s : ParameterStore}

theorem labels_withParameter {key : Value.Key} {p changed : Parameter}
    (found : s.parameters.at? key = some p) (id : changed.id = p.id) (name : changed.name = p.name) :
    (s.withParameter key changed).labels = s.labels := by
  obtain ⟨⟨shown, _⟩, stored, rfl⟩ := Option.map_eq_some_iff.1 found
  have member := (Table.find?_eq_some_iff _ _ _).1 stored
  have present : key ∈ s.parameters.table.keys := List.mem_map.2 ⟨_, member, rfl⟩
  unfold labels withParameter Catalogue.modify
  dsimp only
  rw [stored]
  dsimp only
  rw [Table.entries_insert_of_mem present, Table.replace, List.map_map]
  refine List.map_congr_left fun entry hentry => ?_
  dsimp only [Function.comp]
  split
  · next same =>
    rw [List.inj_on_of_nodup_map s.parameters.table.nodup hentry member same, id, name]
  · rfl

theorem labels_andThen {t : Transition} {next : ParameterStore → Transition}
    (first : t.store.labels = s.labels)
    (later : ∀ u, u.labels = s.labels → (next u).store.labels = s.labels) :
    (t.andThen next).store.labels = s.labels := by
  unfold Transition.andThen
  split
  · exact first
  · exact later t.store first

variable {set : ParameterStore → Value → Value → Transition}

theorem labels_perform (sets : ∀ s id v, (set s id v).store.labels = s.labels) (action : Action)
    (s : ParameterStore) : (perform set action s).store.labels = s.labels := by
  induction action generalizing s with
  | done => rfl
  | fail cause => rfl
  | read next ih => exact ih s.parameters s
  | set id value next ih => exact labels_andThen (sets s id value) fun u same => (ih u).trans same
  | subscribe listener next _ ih => exact ih s.nextListener (s.subscribe listener).2
  | unsubscribe listener next ih => exact ih (s.unsubscribe listener)
  | recollect next ih => exact ih s.memory s
  | remember note next ih => exact ih { s with memory := note }

theorem labels_announce (sets : ∀ s id v, (set s id v).store.labels = s.labels) (key : Value.Key)
    (id old : Value) (listeners : List (Nat × Listener)) (s : ParameterStore) :
    (announce set key id old listeners s).store.labels = s.labels := by
  induction listeners generalizing s with
  | nil => rfl
  | cons entry rest ih =>
    refine labels_andThen (labels_andThen rfl fun u same => ?_) fun u same => (ih u).trans same
    exact (labels_perform sets _ u).trans same

/-- Whatever a change of a value comes to, keys, ids and names stay as they are. -/
theorem labels_setWithin (depth : Nat) (s : ParameterStore) (id value : Value) :
    (s.setWithin depth id value).store.labels = s.labels := by
  induction depth generalizing s id value with
  | zero => rfl
  | succ depth ih =>
    unfold setWithin
    split
    · rfl
    · next key _ =>
      split
      · rfl
      · next p found =>
        split
        · rfl
        · next changed success =>
          obtain ⟨asked, -, success⟩ := bind_eq_ok_iff.1 success
          obtain ⟨settled, -, made⟩ := bind_eq_ok_iff.1 success
          cases made
          have kept : (s.withParameter key { p with value := settled }).labels = s.labels :=
            labels_withParameter found rfl rfl
          dsimp only
          split
          · exact kept
          · exact labels_andThen kept fun u same => (labels_announce ih _ _ _ _ u).trans same

/-! ### Operations -/

/-- What is done to a store. -/
inductive Operation where
  | add (p : Parameter)
  | remove (id : Value)
  | set (id value : Value)
  | subscribe (listener : Listener)
  | unsubscribe (listener : Nat)
  /-- A store is read from a document in place of this one. -/
  | load (document : Value)

/-- The store that an operation leaves. When adding, removing or reading fails, that is the one
before; setting a parameter may fail when others have been set. -/
def Operation.apply (s : ParameterStore) : Operation → ParameterStore
  | .add p => (s.add p).toOption.getD s
  | .remove id => (s.remove id).toOption.getD s
  | .set id value => (s.set id value).store
  | .subscribe listener => (s.subscribe listener).2
  | .unsubscribe listener => s.unsubscribe listener
  | .load document => (ofValue document).toOption.getD s

/-- What an operation does to keys, ids and names: nothing, unless it adds, removes or reads. -/
theorem Operation.apply_cases (s : ParameterStore) (operation : Operation) :
    (operation.apply s).labels = s.labels ∨
      (∃ p, operation = .add p ∧ s.add p = .ok (operation.apply s)) ∨
      (∃ id, operation = .remove id ∧ s.remove id = .ok (operation.apply s)) ∨
      ∃ document, operation = .load document ∧ ofValue document = .ok (operation.apply s) := by
  cases operation with
  | add p =>
    dsimp only [Operation.apply]
    cases success : s.add p with
    | error failure => exact .inl rfl
    | ok s' => exact .inr (.inl ⟨p, rfl, success⟩)
  | remove id =>
    dsimp only [Operation.apply]
    cases success : s.remove id with
    | error cause => exact .inl rfl
    | ok s' => exact .inr (.inr (.inl ⟨id, rfl, success⟩))
  | set id value => exact .inl (labels_setWithin depthLimit s id value)
  | subscribe listener => exact .inl rfl
  | unsubscribe listener => exact .inl rfl
  | load document =>
    dsimp only [Operation.apply]
    cases success : ofValue document with
    | error failure => exact .inl rfl
    | ok s' => exact .inr (.inr (.inr ⟨document, rfl, success⟩))

/-- The store that operations lead to, one after the other, from an empty one. -/
def reached (operations : List Operation) : ParameterStore :=
  operations.foldl Operation.apply empty

/-- Every parameter is stored under the key that its id is, unless that is NaN. -/
def IsFiled (s : ParameterStore) : Prop :=
  ∀ label ∈ s.labels, ∃ key, label.2.1.key = .ok key ∧ (label.1 = key ∨ ∃ mark, key = .nan mark)

theorem isFiled_empty : empty.IsFiled := by
  intro label member
  cases member

theorem isFiled_of_labels_eq {s s' : ParameterStore} (same : s'.labels = s.labels)
    (filed : s.IsFiled) : s'.IsFiled := by
  unfold IsFiled
  rwa [same]

theorem IsFiled.add {s' : ParameterStore} {p : Parameter} (filed : s.IsFiled)
    (success : s.add p = .ok s') : s'.IsFiled := by
  obtain ⟨-, c, inserted, rfl⟩ := add_eq_ok success
  obtain ⟨key, hkey, stored⟩ := bind_eq_ok_iff.1 inserted
  cases stored
  intro label member
  obtain ⟨entry, hentry, rfl⟩ := List.mem_map.1 member
  obtain rfl | ⟨old, -⟩ := (Table.mem_insert_iff _ _ _ _).1 hentry
  · refine ⟨key, hkey, ?_⟩
    cases key with
    | nan mark => exact .inr ⟨mark, rfl⟩
    | null | whole | fraction | text => exact .inl rfl
  · exact filed _ (List.mem_map.2 ⟨entry, old, rfl⟩)

theorem IsFiled.remove {s' : ParameterStore} {id : Value} (filed : s.IsFiled)
    (success : s.remove id = .ok s') : s'.IsFiled := by
  obtain ⟨c, erased, made⟩ := bind_eq_ok_iff.1 success
  cases made
  intro label member
  exact filed label (((Catalogue.entries_sublist_erase erased).map _).subset member)

theorem IsFiled.foldlM_add {ps : List Parameter} {s s' : ParameterStore} (filed : s.IsFiled)
    (success : ps.foldlM ParameterStore.add s = .ok s') : s'.IsFiled := by
  induction ps generalizing s with
  | nil =>
    cases success
    exact filed
  | cons p rest ih =>
    rw [List.foldlM_cons] at success
    obtain ⟨next, added, later⟩ := bind_eq_ok_iff.1 success
    exact ih (filed.add added) later

theorem isFiled_ofValue {document : Value} (read : ofValue document = .ok s) : s.IsFiled := by
  unfold ofValue at read
  split at read
  · split at read
    · obtain ⟨items, -, read⟩ := bind_eq_ok_iff.1 read
      obtain ⟨ps, -, read⟩ := bind_eq_ok_iff.1 read
      exact isFiled_empty.foldlM_add read
    · cases read
  · cases read

/-- Every operation leaves parameters under their ids. -/
theorem IsFiled.apply (filed : s.IsFiled) (operation : Operation) :
    (operation.apply s).IsFiled := by
  obtain same | ⟨p, -, added⟩ | ⟨id, -, removed⟩ | ⟨document, -, read⟩ := operation.apply_cases s
  · exact isFiled_of_labels_eq same filed
  · exact filed.add added
  · exact filed.remove removed
  · exact isFiled_ofValue read

theorem isFiled_reached (operations : List Operation) : (reached operations).IsFiled := by
  have run : ∀ s : ParameterStore, s.IsFiled →
      (operations.foldl Operation.apply s).IsFiled := by
    induction operations with
    | nil => exact fun s filed => filed
    | cons operation rest ih => exact fun s filed => ih _ (filed.apply operation)
  exact run empty isFiled_empty

/-- A parameter is found under its id, unless that is NaN. -/
theorem IsFiled.find?_eq (filed : s.IsFiled) {p : Parameter} (member : p ∈ s.all)
    (self : p.id.equals p.id = true) : s.find? p.id = .ok (some p) := by
  obtain ⟨⟨shown, _⟩, hentry, rfl⟩ := List.mem_map.1 member
  obtain ⟨⟨key, _⟩, stored, rfl⟩ := List.mem_map.1 hentry
  obtain ⟨own, hown, under | ⟨mark, nan⟩⟩ := filed _ (List.mem_map.2 ⟨_, stored, rfl⟩)
  · dsimp only at hown under self
    subst under
    unfold ParameterStore.find? Catalogue.find? Catalogue.at?
    rw [hown, ok_bind, (Table.find?_eq_some_iff _ _ _).2 stored]
    rfl
  · subst nan
    rw [Value.equals_self_of_key_eq_nan hown] at self
    cases self

end ParameterStore

end Joinery
