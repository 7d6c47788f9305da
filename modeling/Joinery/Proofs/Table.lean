import Mathlib.Data.List.Nodup
import Joinery.Catalogue
import Joinery.Proofs.Fails

/-!
# Look-ups in tables

A table behaves as a map from its keys: the entries are what is found under the keys, and an
insertion or a removal changes what is found under its own key alone. The same holds for the texts
among the keys of a catalogue.
-/
namespace Joinery

namespace Table

variable {κ β : Type} [DecidableEq κ]

theorem find?_eq_some_iff (t : Table κ β) (k : κ) (b : β) :
    t.find? k = some b ↔ (k, b) ∈ t.entries := by
  unfold find?
  constructor
  · intro found
    obtain ⟨⟨k', b'⟩, hentry, rfl⟩ := Option.map_eq_some_iff.1 found
    have hkey : k' = k := by simpa using List.find?_some hentry
    exact hkey ▸ List.mem_of_find?_eq_some hentry
  · intro member
    cases hfind : t.entries.find? (·.1 = k) with
    | none => simpa using List.find?_eq_none.1 hfind (k, b) member
    | some entry =>
      have hkey : entry.1 = k := by simpa using List.find?_some hfind
      have hentry : entry = (k, b) :=
        List.inj_on_of_nodup_map t.nodup (List.mem_of_find?_eq_some hfind) member hkey
      rw [hentry]
      rfl

theorem contains_iff (t : Table κ β) (k : κ) :
    t.contains k = true ↔ ∃ b, (k, b) ∈ t.entries := by
  simp only [contains, List.any_eq_true, decide_eq_true_eq]
  constructor
  · rintro ⟨⟨_, b⟩, member, rfl⟩
    exact ⟨b, member⟩
  · rintro ⟨b, member⟩
    exact ⟨(k, b), member, rfl⟩

theorem mem_insert_iff (t : Table κ β) (k : κ) (b : β) (entry : κ × β) :
    entry ∈ (t.insert k b).entries ↔ entry = (k, b) ∨ entry ∈ t.entries ∧ entry.1 ≠ k := by
  unfold insert
  split
  · next present =>
    obtain ⟨old, hold⟩ := (t.contains_iff k).1 present
    simp only [replace, List.mem_map]
    constructor
    · rintro ⟨e, member, rfl⟩
      split
      · next hkey => exact .inl (by rw [hkey])
      · next hkey => exact .inr ⟨member, hkey⟩
    · rintro (rfl | ⟨member, hkey⟩)
      · exact ⟨(k, old), hold, if_pos rfl⟩
      · exact ⟨entry, member, if_neg hkey⟩
  · next absent =>
    simp only [List.mem_append, List.mem_singleton]
    constructor
    · rintro (member | rfl)
      · refine .inr ⟨member, ?_⟩
        rintro rfl
        exact absent ((t.contains_iff _).2 ⟨entry.2, member⟩)
      · exact .inl rfl
    · rintro (rfl | ⟨member, -⟩)
      · exact .inr rfl
      · exact .inl member

theorem mem_erase_iff (t : Table κ β) (k : κ) (entry : κ × β) :
    entry ∈ (t.erase k).entries ↔ entry ∈ t.entries ∧ entry.1 ≠ k := by
  simp [erase, filter, List.mem_filter]

theorem find?_insert (t : Table κ β) (k k' : κ) (b : β) :
    (t.insert k b).find? k' = if k' = k then some b else t.find? k' := by
  refine Option.ext fun b' => ?_
  rw [find?_eq_some_iff, mem_insert_iff]
  split
  · next h =>
    subst h
    simp [eq_comm]
  · next h =>
    rw [find?_eq_some_iff]
    simp [h]

theorem find?_erase (t : Table κ β) (k k' : κ) :
    (t.erase k).find? k' = if k' = k then none else t.find? k' := by
  refine Option.ext fun b' => ?_
  rw [find?_eq_some_iff, mem_erase_iff]
  split
  · next h => simp [h]
  · next h =>
    rw [find?_eq_some_iff]
    simp [h]

end Table

theorem Value.equals_text_iff {v : Value} {text : String} :
    v.equals (.text text) = true ↔ v = .text text := by
  cases v with
  | text s =>
    change (s == text) = true ↔ _
    rw [beq_iff_eq, Value.text.injEq]
  | null | bool | int | float | list | object => exact iff_of_false nofun nofun

theorem Value.key_eq_text_iff {v : Value} {key : Value.Key} (success : v.key = .ok key)
    (text : String) : key = .text text ↔ v = .text text := by
  cases v with
  | text s =>
    cases success
    rw [Key.text.injEq, Value.text.injEq]
  | float x =>
    cases success
    refine iff_of_false ?_ nofun
    dsimp only [Key.ofNumber]
    split
    · nofun
    · split <;> nofun
  | null | bool | int =>
    cases success
    exact iff_of_false nofun nofun
  | list | object => cases success

namespace Catalogue

variable {β : Type}

/-- All entries are stored under texts, and shown by them. -/
def IsTextual (c : Catalogue β) : Prop :=
  ∀ entry ∈ c.table.entries, ∃ text, entry.1 = .text text ∧ entry.2.1 = .text text

theorem atText?_insertText (c : Catalogue β) (text text' : String) (b : β) :
    (c.insertText text b).atText? text' = if text' = text then some b else c.atText? text' := by
  unfold atText? at? insertText
  rw [Table.find?_insert]
  simp only [Value.Key.text.injEq]
  split <;> rfl

theorem ownKey_eq_text_iff (c : Catalogue β) (key : Value.Key) (text : String) :
    c.ownKey key = .text text ↔ key = .text text := by
  cases key with
  | nan mark => exact iff_of_false nofun nofun
  | null | whole | fraction | text => exact Iff.rfl

/-- Where things are listed by name, just the names are found, each with what is listed under it. -/
theorem find?_eq_ok_some_iff {c : Catalogue β} {items : List (String × β)}
    (listed : c.table.entries = items.map fun item => (.text item.1, .text item.1, item.2))
    {v : Value} {b : β} :
    c.find? v = .ok (some b) ↔ ∃ name, v = .text name ∧ (name, b) ∈ items := by
  constructor
  · intro success
    obtain ⟨key, hkey, found⟩ := bind_eq_ok_iff.1 success
    obtain ⟨⟨shown, _⟩, stored, rfl⟩ := Option.map_eq_some_iff.1 (Except.ok.inj found)
    have entry := (Table.find?_eq_some_iff _ _ _).1 stored
    rw [listed] at entry
    obtain ⟨⟨name, _⟩, member, same⟩ := List.mem_map.1 entry
    cases same
    exact ⟨name, (Value.key_eq_text_iff hkey name).1 rfl, member⟩
  · rintro ⟨name, rfl, member⟩
    have stored : (Value.Key.text name, Value.text name, b) ∈ c.table.entries := by
      rw [listed]
      exact List.mem_map.2 ⟨_, member, rfl⟩
    exact congrArg (fun found => Except.ok (found.map Prod.snd))
      ((Table.find?_eq_some_iff _ _ _).2 stored)

/-- Under a value that is a key, anything can be stored. -/
theorem exists_insert {v : Value} {key : Value.Key} (c : Catalogue β) (success : v.key = .ok key)
    (b : β) : ∃ c', c.insert v b = .ok c' := by
  unfold insert
  rw [success]
  exact ⟨_, rfl⟩

theorem insert_of_key_eq_error {v : Value} {cause : Misuse} (c : Catalogue β)
    (refused : v.key = .error cause) (b : β) : c.insert v b = .error cause := by
  unfold insert
  rw [refused]
  rfl

/-- Something stored under any value is found under a text if the value is that text. -/
theorem atText?_insert {c c' : Catalogue β} {v : Value} {b : β} (success : c.insert v b = .ok c')
    (text : String) :
    c'.atText? text = if v.equals (.text text) then some b else c.atText? text := by
  obtain ⟨key, hkey, inserted⟩ := bind_eq_ok_iff.1 success
  cases inserted
  have same : .text text = c.ownKey key ↔ v.equals (.text text) = true := by
    rw [eq_comm, ownKey_eq_text_iff, Value.key_eq_text_iff hkey, Value.equals_text_iff]
  unfold atText? at?
  rw [Table.find?_insert]
  simp only [same]
  split <;> rfl

theorem atText?_eraseText (c : Catalogue β) (text text' : String) :
    (c.eraseText text).atText? text' = if text' = text then none else c.atText? text' := by
  unfold atText? at? eraseText eraseAt
  rw [Table.find?_erase]
  simp only [Value.Key.text.injEq]
  split <;> rfl

theorem isTextual_empty : (empty : Catalogue β).IsTextual := nofun

theorem IsTextual.insertText {c : Catalogue β} (textual : c.IsTextual) (text : String) (b : β) :
    (c.insertText text b).IsTextual := by
  intro entry member
  obtain rfl | ⟨old, -⟩ := (Table.mem_insert_iff _ _ _ entry).1 member
  · exact ⟨text, rfl, rfl⟩
  · exact textual entry old

theorem IsTextual.eraseText {c : Catalogue β} (textual : c.IsTextual) (text : String) :
    (c.eraseText text).IsTextual := fun entry member =>
  textual entry ((Table.mem_erase_iff _ _ entry).1 member).1

theorem exists_texts {entries : List (Value.Key × Value × β)}
    (textual : ∀ entry ∈ entries, ∃ text, entry.1 = .text text ∧ entry.2.1 = .text text) :
    ∃ texts : List String, entries.map Prod.fst = texts.map .text ∧
      entries.map (fun entry => entry.2.1) = texts.map .text := by
  induction entries with
  | nil => exact ⟨[], rfl, rfl⟩
  | cons entry rest ih =>
    obtain ⟨text, hkey, hshown⟩ := textual entry (.head rest)
    obtain ⟨texts, hkeys, hvalues⟩ := ih fun other member => textual other (.tail entry member)
    refine ⟨text :: texts, ?_, ?_⟩
    · rw [List.map_cons, List.map_cons, hkey, hkeys]
    · rw [List.map_cons, List.map_cons, hshown, hvalues]

/-- The texts that things are stored under, each one once. -/
theorem IsTextual.texts {c : Catalogue β} (textual : c.IsTextual) :
    ∃ texts : List String, c.entries.map Prod.fst = texts.map .text ∧ texts.Nodup ∧
      ∀ text, text ∈ texts ↔ (c.atText? text).isSome = true := by
  obtain ⟨texts, hkeys, hshown⟩ := exists_texts textual
  refine ⟨texts, ?_, ?_, fun text => ?_⟩
  · rw [← hshown]
    unfold entries Table.values
    rw [List.map_map]
    rfl
  · have nodup := c.table.nodup
    rw [hkeys] at nodup
    exact nodup.of_map
  · have hmem : text ∈ texts ↔ .text text ∈ c.table.entries.map Prod.fst := by
      rw [hkeys]
      simp
    rw [hmem, atText?, at?, Option.isSome_map, Option.isSome_iff_exists, List.mem_map]
    constructor
    · rintro ⟨⟨_, b⟩, member, rfl⟩
      exact ⟨b, (Table.find?_eq_some_iff _ _ b).2 member⟩
    · rintro ⟨b, found⟩
      exact ⟨(.text text, b), (Table.find?_eq_some_iff _ _ b).1 found, rfl⟩

end Catalogue

end Joinery
