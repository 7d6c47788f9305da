import Joinery.Proofs.Table
import Mathlib.Data.List.Induction

/-!
# Catalogues that were filled

In a catalogue that was filled entry by entry, every key is that of the value it is shown by, and
none of the keys before it. Storing the same things under the same values once more, one after the
other, therefore gives the same catalogue, also where NaN is among the keys.
-/
namespace Joinery

namespace Table

theorem ext_entries {κ β : Type} {t t' : Table κ β} (h : t.entries = t'.entries) : t = t' := by
  cases t
  cases t'
  cases h
  rfl

variable {κ β : Type} [DecidableEq κ]

theorem contains_eq_false_iff (t : Table κ β) (k : κ) : t.contains k = false ↔ k ∉ t.keys := by
  rw [← Bool.not_eq_true, contains_iff, not_iff_not, keys, List.mem_map]
  constructor
  · rintro ⟨b, member⟩
    exact ⟨(k, b), member, rfl⟩
  · rintro ⟨⟨_, b⟩, member, rfl⟩
    exact ⟨b, member⟩

theorem find?_eq_none_iff (t : Table κ β) (k : κ) : t.find? k = none ↔ k ∉ t.keys := by
  rw [Option.eq_none_iff_forall_ne_some, ← contains_eq_false_iff, ← Bool.not_eq_true,
    contains_iff]
  simp [find?_eq_some_iff]

theorem entries_insert_of_mem {t : Table κ β} {k : κ} (present : k ∈ t.keys) (b : β) :
    (t.insert k b).entries = replace k b t.entries := by
  have contained : t.contains k = true := by
    rw [← Bool.not_eq_false, contains_eq_false_iff]
    exact not_not.2 present
  simp [insert, contained]

theorem entries_insert_of_not_mem {t : Table κ β} {k : κ} (fresh : k ∉ t.keys) (b : β) :
    (t.insert k b).entries = t.entries ++ [(k, b)] := by
  simp [insert, (contains_eq_false_iff t k).2 fresh]

end Table

theorem Value.mark_of_key {v : Value} {mark : Nat} (h : v.key = .ok (.nan mark)) : mark = 0 := by
  cases v with
  | float x =>
    simp only [key, Except.ok.injEq, Key.ofNumber] at h
    split at h
    · cases h
      rfl
    · split at h <;> cases h
  | null | bool | int | text => simp [key] at h
  | list | object => simp [key] at h

namespace Catalogue

variable {β γ : Type}

theorem ext_entries {c c' : Catalogue β} (h : c.table.entries = c'.table.entries) : c = c' := by
  cases c
  cases c'
  rw [mk.injEq]
  exact Table.ext_entries h

/-! ### Keys and the values that show them -/

/-- The keys in order, each with the value that it is shown by. -/
def spine (c : Catalogue β) : List (Value.Key × Value) :=
  c.table.entries.map fun entry => (entry.1, entry.2.1)

/-- The key under which something is stored behind other keys. -/
def keyBehind (keys : List Value.Key) : Value.Key → Value.Key
  | .nan _ => .nan (keys.foldl (fun mark key => max mark key.mark) 0 + 1)
  | key => key

theorem map_fst_spine (c : Catalogue β) : c.spine.map Prod.fst = c.table.keys := by
  simp [spine, Table.keys, Function.comp_def]

theorem ownKey_eq_keyBehind (c : Catalogue β) (key : Value.Key) :
    c.ownKey key = keyBehind (c.spine.map Prod.fst) key := by
  rw [map_fst_spine]
  cases key <;> rfl

/-- Keys to which one was added after the other, each behind those before it. -/
inductive Grown : List (Value.Key × Value) → Prop where
  | nil : Grown []
  | snoc {spine : List (Value.Key × Value)} {v : Value} {key : Value.Key} (grown : Grown spine)
      (hkey : v.key = .ok key) (fresh : keyBehind (spine.map Prod.fst) key ∉ spine.map Prod.fst) :
      Grown (spine ++ [(keyBehind (spine.map Prod.fst) key, v)])

theorem Grown.key_of_mem {spine : List (Value.Key × Value)} (grown : Grown spine) {k : Value.Key}
    {v : Value} (member : (k, v) ∈ spine) :
    ∃ keys key, v.key = .ok key ∧ k = keyBehind keys key := by
  induction grown with
  | nil => cases member
  | snoc grown hkey fresh ih =>
    obtain before | last := List.mem_append.1 member
    · exact ih before
    · cases List.mem_singleton.1 last
      exact ⟨_, _, hkey, rfl⟩

/-- Storing something keeps the keys when the key is there, and adds it last when it is not. -/
theorem entries_insert {c c' : Catalogue β} {v : Value} {b : β} (success : c.insert v b = .ok c') :
    ∃ key, v.key = .ok key ∧
      (c.ownKey key ∈ c.table.keys ∧ c'.spine = c.spine ∨ c.ownKey key ∉ c.table.keys ∧
        c'.table.entries = c.table.entries ++ [(c.ownKey key, v, b)]) := by
  obtain ⟨key, hkey, inserted⟩ := bind_eq_ok_iff.1 success
  cases inserted
  refine ⟨key, hkey, ?_⟩
  by_cases present : c.ownKey key ∈ c.table.keys
  · refine .inl ⟨present, ?_⟩
    obtain ⟨⟨_, shown, old⟩, member, rfl⟩ := List.mem_map.1 present
    have found := (Table.find?_eq_some_iff _ _ _).2 member
    simp only [spine, found, Table.entries_insert_of_mem present, Table.replace, List.map_map]
    refine List.map_congr_left fun entry hentry => ?_
    dsimp only [Function.comp]
    split
    · next same => rw [List.inj_on_of_nodup_map c.table.nodup hentry member same]; rfl
    · rfl
  · refine .inr ⟨present, ?_⟩
    simp only [(Table.find?_eq_none_iff _ _).2 present, Option.map_none, Option.getD_none]
    exact Table.entries_insert_of_not_mem present _

theorem Grown.insert {c c' : Catalogue β} {v : Value} {b : β} (grown : Grown c.spine)
    (success : c.insert v b = .ok c') : Grown c'.spine := by
  obtain ⟨key, hkey, ⟨-, same⟩ | ⟨fresh, entries⟩⟩ := entries_insert success
  · rwa [same]
  · rw [ownKey_eq_keyBehind, ← map_fst_spine] at fresh
    have spine : c'.spine = c.spine ++ [(keyBehind (c.spine.map Prod.fst) key, v)] := by
      rw [← ownKey_eq_keyBehind]
      simp [Catalogue.spine, entries]
    rw [spine]
    exact .snoc grown hkey fresh

/-- Everything is stored under the key that the value is it is shown by, unless that is NaN. -/
def IsFiled (c : Catalogue β) : Prop :=
  ∀ entry ∈ c.table.entries, ∃ key, entry.2.1.key = .ok key ∧
    (entry.1 = key ∨ ∃ mark, key = .nan mark)

theorem Grown.isFiled {c : Catalogue β} (grown : Grown c.spine) : c.IsFiled := by
  intro entry member
  obtain ⟨keys, key, hkey, own⟩ := grown.key_of_mem (List.mem_map.2 ⟨entry, member, rfl⟩)
  refine ⟨key, hkey, ?_⟩
  cases key with
  | nan mark => exact .inr ⟨mark, rfl⟩
  | null | whole | fraction | text => exact .inl own

theorem IsFiled.insertText {c : Catalogue β} (filed : c.IsFiled) (text : String) (b : β) :
    (c.insertText text b).IsFiled := by
  intro entry member
  obtain rfl | ⟨old, -⟩ := (Table.mem_insert_iff _ _ _ entry).1 member
  · exact ⟨_, rfl, .inl rfl⟩
  · exact filed entry old

theorem IsFiled.isTextual_iff {c : Catalogue β} (filed : c.IsFiled) :
    c.IsTextual ↔ ∀ item ∈ c.entries, ∃ text, item.1 = .text text := by
  constructor
  · intro textual item member
    obtain ⟨entry, hentry, rfl⟩ := List.mem_map.1 member
    obtain ⟨text, -, shown⟩ := textual entry hentry
    exact ⟨text, shown⟩
  · intro texts entry member
    obtain ⟨text, shown⟩ := texts entry.2 (List.mem_map.2 ⟨entry, member, rfl⟩)
    obtain ⟨key, hkey, own⟩ := filed entry member
    rw [shown] at hkey
    cases hkey
    obtain under | ⟨mark, nan⟩ := own
    · exact ⟨text, under, shown⟩
    · cases nan

/-- What stands in a catalogue once something was stored was there before, or is what was stored, by
the value it was stored under or by one that was there. -/
theorem mem_entries_insert {c c' : Catalogue β} {v : Value} {b : β}
    (success : c.insert v b = .ok c') {entry : Value × β} (member : entry ∈ c'.entries) :
    entry ∈ c.entries ∨
      entry.2 = b ∧ (entry.1 = v ∨ ∃ old, (entry.1, old) ∈ c.entries) := by
  obtain ⟨key, hkey, inserted⟩ := bind_eq_ok_iff.1 success
  cases inserted
  obtain ⟨⟨k, stored⟩, hstored, rfl⟩ := List.mem_map.1 member
  obtain new | ⟨before, -⟩ := (Table.mem_insert_iff _ _ _ _).1 hstored
  · cases new
    refine .inr ⟨rfl, ?_⟩
    cases found : c.table.find? (c.ownKey key) with
    | none => exact .inl (by simp)
    | some old =>
      have earlier := (Table.find?_eq_some_iff _ _ _).1 found
      exact .inr ⟨old.2, List.mem_map.2 ⟨_, earlier, rfl⟩⟩
  · exact .inl (List.mem_map.2 ⟨_, before, rfl⟩)

theorem mark_le_foldl (keys : List Value.Key) (least : Nat) :
    least ≤ keys.foldl (fun mark key => max mark key.mark) least ∧
      ∀ key ∈ keys, key.mark ≤ keys.foldl (fun mark key => max mark key.mark) least := by
  induction keys generalizing least with
  | nil => exact ⟨Nat.le_refl _, nofun⟩
  | cons key rest ih =>
    obtain ⟨start, each⟩ := ih (max least key.mark)
    rw [List.foldl_cons]
    exact ⟨Nat.le_trans (Nat.le_max_left _ _) start,
      List.forall_mem_cons.2 ⟨Nat.le_trans (Nat.le_max_right _ _) start, each⟩⟩

/-- The mark of a new NaN is not taken. -/
theorem ownKey_nan_not_mem (c : Catalogue β) (mark : Nat) :
    c.ownKey (.nan mark) ∉ c.table.keys := by
  intro present
  exact Nat.not_succ_le_self _ ((mark_le_foldl c.table.keys 0).2 _ present)

/-- What is not there yet is stored last. -/
theorem entries_insert_of_absent {c c' : Catalogue β} {v : Value} {b : β}
    (absent : c.contains v = .ok false) (success : c.insert v b = .ok c') :
    ∃ k, c'.table.entries = c.table.entries ++ [(k, v, b)] := by
  obtain ⟨key, hkey, ⟨present, -⟩ | ⟨-, entries⟩⟩ := entries_insert success
  · unfold contains at absent
    rw [hkey] at absent
    have missing := (Table.contains_eq_false_iff _ _).1 (Except.ok.inj absent)
    cases key with
    | nan mark => exact absurd present (c.ownKey_nan_not_mem mark)
    | null | whole | fraction | text => exact absurd present missing
  · exact ⟨_, entries⟩

/-! ### Filling a catalogue once more -/

theorem Grown.of_append {before after : List (Value.Key × Value)}
    (grown : Grown (before ++ after)) : Grown before := by
  induction after using List.reverseRec with
  | nil => simpa using grown
  | append_singleton rest last ih =>
    refine ih ?_
    rw [← List.append_assoc] at grown
    generalize hwhole : before ++ rest ++ [last] = whole at grown
    cases grown with
    | nil => simp at hwhole
    | snoc grown =>
      rw [(List.append_inj' hwhole rfl).1]
      exact grown

theorem Grown.last {before : List (Value.Key × Value)} {k : Value.Key} {v : Value}
    (grown : Grown (before ++ [(k, v)])) :
    ∃ key, v.key = .ok key ∧ k = keyBehind (before.map Prod.fst) key ∧ k ∉ before.map Prod.fst := by
  generalize hwhole : before ++ [(k, v)] = whole at grown
  cases grown with
  | nil => simp at hwhole
  | snoc grown hkey fresh =>
    obtain ⟨rfl, hlast⟩ := List.append_inj' hwhole rfl
    cases hlast
    exact ⟨_, hkey, rfl, fresh⟩

theorem Grown.mark_pos {spine : List (Value.Key × Value)} (grown : Grown spine) {mark : Nat}
    (member : .nan mark ∈ spine.map Prod.fst) : 0 < mark := by
  induction grown with
  | nil => cases member
  | @snoc spine v key grown hkey fresh ih =>
    rw [List.map_append, List.mem_append] at member
    obtain before | last := member
    · exact ih before
    · have own := List.mem_singleton.1 last
      cases key with
      | nan => cases own; exact Nat.succ_pos _
      | null | whole | fraction | text => cases own

/-- What comes next when a catalogue is filled as another one was: it is not there yet, and is
stored last under its key. -/
theorem Grown.next {c : Catalogue β} {after : List (Value.Key × Value)} {k : Value.Key} {v : Value}
    (grown : Grown (c.spine ++ (k, v) :: after)) (b : β) :
    c.contains v = .ok false ∧
      ∃ c', c.insert v b = .ok c' ∧ c'.table.entries = c.table.entries ++ [(k, v, b)] := by
  rw [← List.singleton_append, ← List.append_assoc] at grown
  have grown := grown.of_append
  obtain ⟨key, hkey, rfl, fresh⟩ := grown.last
  have before := grown.of_append
  constructor
  · have absent : key ∉ c.table.keys := by
      cases key with
      | nan mark =>
        rw [Value.mark_of_key hkey]
        intro member
        rw [← map_fst_spine] at member
        exact absurd (before.mark_pos member) (Nat.lt_irrefl 0)
      | null | whole | fraction | text =>
        rw [← map_fst_spine]
        exact fresh
    unfold contains
    rw [hkey]
    exact congrArg Except.ok ((Table.contains_eq_false_iff _ _).2 absent)
  · obtain ⟨c', inserted⟩ := c.exists_insert hkey b
    refine ⟨c', inserted, ?_⟩
    have own : c.ownKey key = keyBehind (c.spine.map Prod.fst) key := ownKey_eq_keyBehind c key
    obtain ⟨key', hkey', ⟨present, -⟩ | ⟨-, entries⟩⟩ := entries_insert inserted
    · cases hkey.symm.trans hkey'
      rw [own, ← map_fst_spine] at present
      exact absurd present fresh
    · cases hkey.symm.trans hkey'
      rw [entries, own]

/-- A catalogue is filled once more: what holds of a complete one when nothing remains, and is
handed back through each thing that is stored, holds of an empty one and all that is stored. -/
theorem Grown.fill {total : Catalogue β} (grown : Grown total.spine)
    {motive : Catalogue β → List (Value × β) → Prop} (done : motive total [])
    (next : ∀ c c' v b rest, (v, b) ∈ total.entries → c.contains v = .ok false →
      c.insert v b = .ok c' → motive c' rest → motive c ((v, b) :: rest)) :
    motive .empty total.entries := by
  have behind : ∀ (after : List (Value.Key × Value × β)) (c : Catalogue β),
      total.table.entries = c.table.entries ++ after → motive c (after.map Prod.snd) := by
    intro after
    induction after with
    | nil =>
      intro c whole
      rw [List.append_nil] at whole
      rwa [← ext_entries whole]
    | cons entry rest ih =>
      intro c whole
      obtain ⟨k, v, b⟩ := entry
      have spine : total.spine = c.spine ++ (k, v) :: rest.map fun e => (e.1, e.2.1) := by
        simp [Catalogue.spine, whole]
      rw [spine] at grown
      obtain ⟨absent, c', inserted, entries⟩ := grown.next b
      have member : (v, b) ∈ total.entries := by
        simp [Catalogue.entries, Table.values, whole]
      refine next c c' v b _ member absent inserted (ih c' ?_)
      rw [entries, whole, List.append_assoc, List.singleton_append]
  exact behind total.table.entries .empty rfl

/-! ### Changing everything that is stored -/

/-- The catalogue in which everything is changed. -/
def map (c : Catalogue β) (f : β → γ) : Catalogue γ :=
  ⟨c.table.map fun entry => (entry.1, f entry.2)⟩

theorem spine_map (c : Catalogue β) (f : β → γ) : (c.map f).spine = c.spine := by
  simp [spine, map, Table.map]

theorem entries_map (c : Catalogue β) (f : β → γ) :
    (c.map f).entries = c.entries.map fun entry => (entry.1, f entry.2) := by
  simp [entries, Table.values, map, Table.map]

theorem values_map (c : Catalogue β) (f : β → γ) : (c.map f).values = c.values.map f := by
  simp [values, entries_map]

theorem slots_map (c : Catalogue β) (f : β → γ) :
    (c.map f).slots = c.slots.map fun slot => (slot.1, f slot.2) := by
  simp [slots, map, Table.map]

theorem at?_map (c : Catalogue β) (f : β → γ) (key : Value.Key) :
    (c.map f).at? key = (c.at? key).map f := by
  simp [at?, Table.find?, map, Table.map, List.find?_map, Function.comp_def]

theorem mem_slots_of_at? {c : Catalogue β} {key : Value.Key} {b : β} (found : c.at? key = some b) :
    (key, b) ∈ c.slots := by
  obtain ⟨⟨shown, _⟩, entry, rfl⟩ := Option.map_eq_some_iff.1 found
  exact List.mem_map.2 ⟨_, (Table.find?_eq_some_iff _ _ _).1 entry, rfl⟩

theorem at?_modify_self {c : Catalogue β} {key : Value.Key} {b : β} (found : c.at? key = some b)
    (change : β → β) : (c.modify key change).at? key = some (change b) := by
  obtain ⟨⟨shown, _⟩, entry, rfl⟩ := Option.map_eq_some_iff.1 found
  unfold modify
  rw [entry]
  unfold at?
  rw [Table.find?_insert, if_pos rfl]
  rfl

theorem at?_modify_of_ne (c : Catalogue β) {key key' : Value.Key} (other : key' ≠ key)
    (change : β → β) : (c.modify key change).at? key' = c.at? key' := by
  unfold modify
  split
  · unfold at?
    rw [Table.find?_insert, if_neg other]
  · rfl

/-- A change reaches what is stored under its key, and leaves all entries at their places. -/
theorem table_modify (c : Catalogue β) (key : Value.Key) (change : β → β) :
    (c.modify key change).table.entries = c.table.entries.map fun entry =>
      (entry.1, entry.2.1, if entry.1 = key then change entry.2.2 else entry.2.2) := by
  unfold modify
  cases found : c.table.find? key with
  | some stored =>
    obtain ⟨shown, b⟩ := stored
    have member := (Table.find?_eq_some_iff _ _ _).1 found
    dsimp only
    rw [Table.entries_insert_of_mem (List.mem_map.2 ⟨_, member, rfl⟩), Table.replace]
    refine List.map_congr_left fun entry hentry => ?_
    split
    · next same =>
      rw [List.inj_on_of_nodup_map c.table.nodup hentry member same]
    · rfl
  | none =>
    have absent := (Table.find?_eq_none_iff _ _).1 found
    have same (entry : Value.Key × Value × β) (hentry : entry ∈ c.table.entries) :
        (entry.1, entry.2.1, if entry.1 = key then change entry.2.2 else entry.2.2) = entry := by
      have other : entry.1 ≠ key := fun same => absent (List.mem_map.2 ⟨entry, hentry, same⟩)
      rw [if_neg other]
    exact ((List.map_congr_left same).trans (List.map_id' _)).symm

theorem nodup_slots (c : Catalogue β) : (c.slots.map Prod.fst).Nodup := by
  simpa [slots, Function.comp_def] using c.table.nodup

theorem slots_modify (c : Catalogue β) (key : Value.Key) (change : β → β) :
    (c.modify key change).slots =
      c.slots.map fun slot => (slot.1, if slot.1 = key then change slot.2 else slot.2) := by
  simp [slots, table_modify, Function.comp_def]

theorem entries_modify (c : Catalogue β) (key : Value.Key) (change : β → β) :
    (c.modify key change).entries = c.table.entries.map fun entry =>
      (entry.2.1, if entry.1 = key then change entry.2.2 else entry.2.2) := by
  simp [entries, Table.values, table_modify, Function.comp_def]

theorem contains_modify (c : Catalogue β) (key : Value.Key) (change : β → β) (v : Value) :
    (c.modify key change).contains v = c.contains v := by
  simp [contains, Table.contains, table_modify, List.any_map, Function.comp_def]

end Catalogue

end Joinery
