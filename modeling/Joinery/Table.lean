/-!
# Tables

Finite maps that remember the order in which their keys were first inserted. Replacing the value of
a key keeps its place; a key that was erased and inserted again comes last.
-/
namespace Joinery

structure Table (κ β : Type) where
  entries : List (κ × β)
  /-- No key occurs twice. -/
  nodup : (entries.map Prod.fst).Nodup

namespace Table

variable {κ β : Type} [DecidableEq κ]

def empty : Table κ β := ⟨[], List.nodup_nil⟩

instance : Inhabited (Table κ β) := ⟨empty⟩

def keys (t : Table κ β) : List κ := t.entries.map Prod.fst

def values (t : Table κ β) : List β := t.entries.map Prod.snd

def size (t : Table κ β) : Nat := t.entries.length

def find? (t : Table κ β) (k : κ) : Option β := (t.entries.find? (·.1 = k)).map Prod.snd

def contains (t : Table κ β) (k : κ) : Bool := t.entries.any (·.1 = k)

/-- Replaces the value of a key in a list of entries. -/
def replace (k : κ) (b : β) (entries : List (κ × β)) : List (κ × β) :=
  entries.map fun entry => if entry.1 = k then (entry.1, b) else entry

theorem map_fst_replace (k : κ) (b : β) (entries : List (κ × β)) :
    (replace k b entries).map Prod.fst = entries.map Prod.fst := by
  simp only [replace, List.map_map]
  refine List.map_congr_left fun entry _ => ?_
  simp only [Function.comp]
  split <;> rfl

theorem not_mem_of_contains_eq_false {t : Table κ β} {k : κ} (h : t.contains k = false) :
    k ∉ t.entries.map Prod.fst := by
  simp only [contains, List.any_eq_false, decide_eq_true_eq] at h
  intro hk
  obtain ⟨entry, hentry, rfl⟩ := List.mem_map.1 hk
  exact h entry hentry rfl

/-- Stores a value under a key. -/
def insert (t : Table κ β) (k : κ) (b : β) : Table κ β :=
  if h : t.contains k = true then
    ⟨replace k b t.entries, by rw [map_fst_replace]; exact t.nodup⟩
  else
    ⟨t.entries ++ [(k, b)], by
      have hk := not_mem_of_contains_eq_false (by simpa using h : t.contains k = false)
      rw [List.map_append]
      refine List.nodup_append.2 ⟨t.nodup, by simp, ?_⟩
      intro a ha b' hb' hab
      simp only [List.map_cons, List.map_nil, List.mem_singleton] at hb'
      exact hk (hb' ▸ hab ▸ ha)⟩

/-- Keeps the entries that pass a test. -/
def filter (t : Table κ β) (keep : κ → β → Bool) : Table κ β :=
  ⟨t.entries.filter fun entry => keep entry.1 entry.2,
    t.nodup.sublist ((List.filter_sublist).map _)⟩

/-- Removes a key. -/
def erase (t : Table κ β) (k : κ) : Table κ β := t.filter fun key _ => key ≠ k

/-- Changes every value. -/
def map {γ : Type} (t : Table κ β) (f : β → γ) : Table κ γ :=
  ⟨t.entries.map fun entry => (entry.1, f entry.2), by
    simpa [List.map_map, Function.comp_def] using t.nodup⟩

/-- The table that results from inserting entries one after the other. -/
def ofList (entries : List (κ × β)) : Table κ β :=
  entries.foldl (fun t entry => t.insert entry.1 entry.2) empty

end Table

end Joinery
