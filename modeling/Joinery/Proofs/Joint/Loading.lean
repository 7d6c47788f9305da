import Mathlib.Data.List.TakeWhile
import Joinery.Proofs.Joint.Reloading
import Joinery.Proofs.Number.Same

/-!
# Loading joints

The contents of a store are cleared before the entries of a document are read, and the reading stops
at the first entry whose key is no key. So after a load, failed or not, the store holds what the
entries up to there say: the keys in the order in which they come first, each with its last joint.
A document without such an entry is loaded as a whole. One that has some is refused, and what was
there before is lost, unless it was the same.
-/
namespace Joinery

namespace Value

theorem key_eq_null_iff {v : Value} {k : Key} (hv : v.key = .ok k) : k = .null ↔ v = .null := by
  cases v with
  | null =>
    cases hv
    exact iff_of_true rfl rfl
  | float x =>
    cases hv
    refine iff_of_false ?_ nofun
    dsimp only [Key.ofNumber]
    split
    · nofun
    · split <;> nofun
  | bool | int | text =>
    cases hv
    exact iff_of_false nofun nofun
  | list | object => cases hv

theorem equals_null_iff {v : Value} : v.equals .null = true ↔ v = .null := by
  cases v with
  | null => exact iff_of_true rfl rfl
  | bool | int | float | text | list | object => exact iff_of_false nofun nofun

/-- Of the values that are keys, those are equal that are one key, but for NaN. -/
theorem equals_iff_key_eq {v w : Value} {k l : Key} (hv : v.key = .ok k) (hw : w.key = .ok l) :
    v.equals w = true ↔ k = l ∧ ∀ mark, k ≠ .nan mark := by
  cases w with
  | null =>
    cases hw
    rw [equals_null_iff, ← key_eq_null_iff hv]
    exact ⟨fun null => ⟨null, by rw [null]; nofun⟩, fun null => null.1⟩
  | text s =>
    cases hw
    rw [equals_text_iff, ← key_eq_text_iff hv]
    exact ⟨fun text => ⟨text, by rw [text]; nofun⟩, fun text => text.1⟩
  | bool | int | float =>
    refine (equalsBy_number_iff rfl).trans ⟨?_, ?_⟩
    · rintro ⟨m, hm, equal⟩
      cases hv.symm.trans (key_of_number hm)
      cases hw.symm.trans (key_of_number rfl)
      exact (Number.equals_iff_key_eq m _).1 equal
    · rintro ⟨rfl, proper⟩
      cases hw.symm.trans (key_of_number rfl)
      obtain ⟨m, hm⟩ := exists_number_of_key hv
      have same := Except.ok.inj (hv.symm.trans (key_of_number hm))
      rw [same] at proper
      exact ⟨m, hm, (Number.equals_iff_key_eq m _).2 ⟨same.symm, proper⟩⟩
  | list | object => cases hw

/-- Lists and objects are no keys. -/
def isKey : Value → Bool
  | .list _ | .object _ => false
  | _ => true

theorem exists_key_of_isKey {v : Value} (keyed : v.isKey = true) : ∃ k, v.key = .ok k := by
  cases v with
  | null | bool | int | float | text => exact ⟨_, rfl⟩
  | list | object => cases keyed

theorem key_of_not_isKey {v : Value} (refused : v.isKey = false) :
    v.key = .error (.notKey v.kind) := by
  cases v with
  | null | bool | int | float | text => cases refused
  | list | object => rfl

end Value

namespace Catalogue

variable {β : Type}

/-! ### The first place and the last joint of each key -/

/-- What the last of the pairs brings whose key is that of the given one. -/
def lastUnder (pairs : List (Value × β)) (first : Value × β) : β :=
  ((pairs.reverse.find? fun pair => pair.1.equals first.1).getD first).2

/-- The first pair of each key. -/
def firsts (pairs : List (Value × β)) : List (Value × β) :=
  pairs.eraseDupsBy fun pair earlier => pair.1.equals earlier.1

/-- The keys of pairs in the order in which they come first, each with what comes last under it. -/
def latest (pairs : List (Value × β)) : List (Value × β) :=
  (firsts pairs).map fun first => (first.1, lastUnder pairs first)

/-- Entries in which something takes the place of what was under its key, or else comes last. -/
def entered (entries : List (Value × β)) (v : Value) (b : β) : List (Value × β) :=
  if entries.any fun entry => v.equals entry.1 then
    entries.map fun entry => if v.equals entry.1 then (entry.1, b) else entry
  else entries ++ [(v, b)]

theorem loop_eraseDupsBy_append_singleton {α : Type} (r : α → α → Bool) (l : List α) (a : α)
    (seen : List α) : List.eraseDupsBy.loop r (l ++ [a]) seen =
      if (List.eraseDupsBy.loop r l seen).any (r a) then List.eraseDupsBy.loop r l seen
      else List.eraseDupsBy.loop r l seen ++ [a] := by
  induction l generalizing seen with
  | nil =>
    rw [List.nil_append, List.eraseDupsBy.loop, List.eraseDupsBy.loop, List.any_reverse]
    cases seen.any (r a) <;> simp [List.eraseDupsBy.loop]
  | cons first rest ih =>
    rw [List.cons_append, List.eraseDupsBy.loop, List.eraseDupsBy.loop]
    split
    · exact ih seen
    · exact ih (first :: seen)

theorem firsts_append_singleton (pairs : List (Value × β)) (v : Value) (b : β) :
    firsts (pairs ++ [(v, b)]) =
      if (firsts pairs).any fun first => v.equals first.1 then firsts pairs
      else firsts pairs ++ [(v, b)] :=
  loop_eraseDupsBy_append_singleton _ pairs (v, b) []

theorem firsts_subset (pairs : List (Value × β)) : firsts pairs ⊆ pairs := by
  induction pairs using List.reverseRecOn with
  | nil => exact List.Subset.refl _
  | append_singleton pairs pair ih =>
    rw [firsts_append_singleton]
    split
    · exact List.subset_append_of_subset_left _ ih
    · exact List.append_subset.2
        ⟨List.subset_append_of_subset_left _ ih, List.subset_append_right _ _⟩

/-- Every key is that of one of the pairs. -/
theorem exists_of_mem_latest {pairs : List (Value × β)} {entry : Value × β}
    (member : entry ∈ latest pairs) : ∃ pair ∈ pairs, pair.1 = entry.1 := by
  obtain ⟨first, among, rfl⟩ := List.mem_map.1 member
  exact ⟨first, firsts_subset pairs among, rfl⟩

theorem lastUnder_append_singleton (pairs : List (Value × β)) (v : Value) (b : β)
    (first : Value × β) : lastUnder (pairs ++ [(v, b)]) first =
      if v.equals first.1 then b else lastUnder pairs first := by
  unfold lastUnder
  rw [List.reverse_append, List.reverse_singleton, List.singleton_append, List.find?_cons]
  cases v.equals first.1 <;> rfl

/-- Nothing is equal to a key that is not equal to itself. -/
theorem lastUnder_of_not_equals {pairs : List (Value × β)} {v : Value}
    (keyed : ∀ pair ∈ pairs, pair.1.isKey = true) (hv : v.isKey = true)
    (alone : v.equals v = false) (b : β) : lastUnder pairs (v, b) = b := by
  have none : pairs.reverse.find? (fun pair => pair.1.equals v) = none := by
    refine List.find?_eq_none.2 fun pair member equal => ?_
    obtain ⟨k, hk⟩ := Value.exists_key_of_isKey (keyed pair (List.mem_reverse.1 member))
    obtain ⟨l, hl⟩ := Value.exists_key_of_isKey hv
    obtain ⟨rfl, proper⟩ := (Value.equals_iff_key_eq hk hl).1 equal
    rw [(Value.equals_iff_key_eq hl hl).2 ⟨rfl, proper⟩] at alone
    cases alone
  unfold lastUnder
  rw [none]
  rfl

/-- What comes behind other pairs takes the place of its key, or else the last one. -/
theorem latest_append_singleton {pairs : List (Value × β)} {v : Value}
    (keyed : ∀ pair ∈ pairs, pair.1.isKey = true) (hv : v.isKey = true) (b : β) :
    latest (pairs ++ [(v, b)]) = entered (latest pairs) v b := by
  have known : ((latest pairs).any fun entry => v.equals entry.1) =
      (firsts pairs).any fun first => v.equals first.1 := List.any_map
  unfold entered
  rw [known]
  unfold latest
  rw [firsts_append_singleton]
  split
  · rw [List.map_map]
    refine List.map_congr_left fun first _ => ?_
    rw [lastUnder_append_singleton, Function.comp_apply]
    split <;> rfl
  · next unknown =>
    have other := List.any_eq_false.1 (Bool.not_eq_true _ ▸ unknown)
    rw [List.map_append, List.map_singleton]
    refine congrArg₂ (· ++ ·) (List.map_congr_left fun first member => ?_) ?_
    · rw [lastUnder_append_singleton, if_neg (other first member)]
    · rw [lastUnder_append_singleton]
      cases alone : v.equals v with
      | true => rfl
      | false => simp [lastUnder_of_not_equals keyed hv alone]

/-! ### Filling a catalogue -/

/-- The entry that a key finds is the one that is shown by an equal value. -/
theorem Grown.ownKey_eq_iff {c : Catalogue β} (grown : Grown c.spine) {v : Value} {key : Value.Key}
    (hv : v.key = .ok key) {entry : Value.Key × Value × β} (member : entry ∈ c.table.entries) :
    entry.1 = c.ownKey key ↔ v.equals entry.2.1 = true := by
  obtain ⟨keys, shown, hshown, own⟩ := grown.key_of_mem (List.mem_map.2 ⟨entry, member, rfl⟩)
  rw [Value.equals_iff_key_eq hv hshown, own]
  cases key with
  | nan mark =>
    refine iff_of_false (fun same => ?_) fun equal => equal.2 mark rfl
    rw [← own] at same
    exact c.ownKey_nan_not_mem mark (same ▸ List.mem_map.2 ⟨entry, member, rfl⟩)
  | null | whole | fraction | text =>
    cases shown with
    | nan mark => exact iff_of_false nofun fun equal => nomatch equal.1
    | null | whole | fraction | text =>
      exact ⟨fun same => ⟨same.symm, nofun⟩, fun equal => equal.1.symm⟩

/-- Something that is stored takes the place of what was under its key, or else comes last. -/
theorem Grown.entries_insert {c c' : Catalogue β} {v : Value} {b : β} (grown : Grown c.spine)
    (success : c.insert v b = .ok c') : c'.entries = entered c.entries v b := by
  obtain ⟨key, hkey, inserted⟩ := bind_eq_ok_iff.1 success
  cases inserted
  have known : (c.entries.any fun entry => v.equals entry.1) = true ↔
      c.ownKey key ∈ c.table.keys := by
    simp only [List.any_eq_true, entries, Table.values, Table.keys, List.mem_map]
    constructor
    · rintro ⟨_, ⟨entry, member, rfl⟩, equal⟩
      exact ⟨entry, member, (grown.ownKey_eq_iff hkey member).2 equal⟩
    · rintro ⟨entry, member, own⟩
      exact ⟨entry.2, ⟨entry, member, rfl⟩, (grown.ownKey_eq_iff hkey member).1 own⟩
  unfold entered
  by_cases present : c.ownKey key ∈ c.table.keys
  · rw [if_pos (known.2 present)]
    obtain ⟨⟨_, shown, old⟩, member, rfl⟩ := List.mem_map.1 present
    have found := (Table.find?_eq_some_iff _ _ _).2 member
    rw [found]
    unfold entries Table.values
    rw [Table.entries_insert_of_mem present, Table.replace, List.map_map, List.map_map]
    refine List.map_congr_left fun entry hentry => ?_
    simp only [Function.comp_apply, ← grown.ownKey_eq_iff hkey hentry]
    split
    · next same => rw [List.inj_on_of_nodup_map c.table.nodup hentry member same]; rfl
    · rfl
  · rw [if_neg (mt known.1 present), (Table.find?_eq_none_iff _ _).2 present]
    unfold entries Table.values
    rw [Table.entries_insert_of_not_mem present, List.map_append]
    rfl

end Catalogue

namespace JointStore

/-! ### What a document holds -/

/-- The joint that an entry of a document gives, with its key; none without a key and a type. -/
def entryOf? : Value → Option (Value × Joint)
  | .object fields =>
    let field name := (fields.lookup name).getD .null
    if (field "key").isTruthy && (field "type").isTruthy then
      some (field "key", ⟨field "type", field "thicknessMm", field "fingerCount",
        (field "align").orElse (.text "left")⟩)
    else none
  | _ => none

/-- The joints of a list of entries with their keys. -/
def pairsOf (items : List Value) : List (Value × Joint) := items.filterMap entryOf?

/-- The joints of a document with their keys, in order. -/
def written (document : Value) : List (Value × Joint) :=
  match document.itemsOrNone with
  | .ok items => pairsOf items
  | .error _ => []

/-- The joints of a document up to the first whose key is no key. -/
def readable (document : Value) : List (Value × Joint) :=
  (written document).takeWhile fun pair => pair.1.isKey

/-- Why a document is refused: it cannot be walked through, or a joint has a key that is none. -/
def refusal? (document : Value) : Option Misuse :=
  match document.itemsOrNone with
  | .ok items =>
    ((pairsOf items).find? fun pair => !pair.1.isKey).map fun pair => .notKey pair.1.kind
  | .error cause => some cause

/-- Loading returns with the joints of the document, in order and with the last one of each key in
the place of the first one, or it fails and leaves the joints that were there. -/
def IsAllOrNothing (s : JointStore) (document : Value) : Prop :=
  match (s.load document).result with
  | .ok () => (s.load document).store.items = Catalogue.latest (written document)
  | .error _ => (s.load document).store.items = s.items

/-! ### Reading the entries -/

theorem keyOf?_of_entryOf?_eq_none {v : Value} (skipped : entryOf? v = none) : keyOf? v = none := by
  cases v with
  | object fields =>
    unfold entryOf? at skipped
    unfold keyOf?
    dsimp only at skipped ⊢
    split at skipped
    · cases skipped
    · next incomplete => rw [if_neg incomplete]
  | null | bool | int | float | text | list => rfl

theorem keyOf?_of_entryOf? {v key : Value} {j : Joint} (found : entryOf? v = some (key, j)) :
    keyOf? v = some key ∧ Joint.ofValue v = .ok j := by
  cases v with
  | object fields =>
    unfold entryOf? at found
    unfold keyOf?
    dsimp only at found ⊢
    split at found
    · next complete =>
      cases found
      exact ⟨if_pos complete, rfl⟩
    · cases found
  | null | bool | int | float | text | list => cases found

/-- A store whose joints are the latest of the pairs that were read. -/
structure Holds (s : JointStore) (pairs : List (Value × Joint)) : Prop where
  grown : Catalogue.Grown s.joints.spine
  keyed : ∀ pair ∈ pairs, pair.1.isKey = true
  items : s.items = Catalogue.latest pairs

theorem holds_clear (s : JointStore) : s.clear.Holds [] := ⟨.nil, nofun, rfl⟩

/-- A joint whose key is one is put into the store. -/
theorem Holds.put {s : JointStore} {pairs : List (Value × Joint)} {key : Value}
    (holds : s.Holds pairs) (keyed : key.isKey = true) (j : Joint) :
    ∃ s', s.put key j = .ok s' ∧ s'.defaults = s.defaults ∧ s'.Holds (pairs ++ [(key, j)]) := by
  obtain ⟨k, hk⟩ := Value.exists_key_of_isKey keyed
  obtain ⟨c, inserted⟩ := s.joints.exists_insert hk j
  refine ⟨{ s with joints := c }, bind_eq_ok_iff.2 ⟨c, inserted, rfl⟩, rfl,
    holds.grown.insert inserted, fun pair member => ?_, ?_⟩
  · obtain before | last := List.mem_append.1 member
    · exact holds.keyed pair before
    · cases List.mem_singleton.1 last
      exact keyed
  · rw [Catalogue.latest_append_singleton holds.keyed keyed, ← holds.items]
    exact holds.grown.entries_insert inserted

/-- Reading goes on up to the first joint whose key is no key. -/
theorem Holds.loadFrom {s : JointStore} {pairs : List (Value × Joint)} (holds : s.Holds pairs)
    (items : List Value) :
    (s.loadFrom items).store.defaults = s.defaults ∧
      (s.loadFrom items).store.Holds
        (pairs ++ (pairsOf items).takeWhile fun pair => pair.1.isKey) ∧
      (s.loadFrom items).result =
        match (pairsOf items).find? fun pair => !pair.1.isKey with
        | none => .ok ()
        | some pair => .error (.notKey pair.1.kind) := by
  induction items generalizing s pairs with
  | nil => exact ⟨rfl, by simpa [pairsOf, JointStore.loadFrom] using holds, rfl⟩
  | cons v rest ih =>
    cases found : entryOf? v with
    | none =>
      have skipped : pairsOf (v :: rest) = pairsOf rest := List.filterMap_cons_none found
      rw [skipped, JointStore.loadFrom, keyOf?_of_entryOf?_eq_none found]
      exact ih holds
    | some pair =>
      obtain ⟨key, j⟩ := pair
      obtain ⟨hkey, hj⟩ := keyOf?_of_entryOf? found
      have read : pairsOf (v :: rest) = (key, j) :: pairsOf rest := List.filterMap_cons_some found
      rw [read, JointStore.loadFrom, hkey, hj, List.takeWhile_cons, List.find?_cons]
      dsimp only
      rw [ok_bind]
      cases keyed : key.isKey with
      | true =>
        obtain ⟨s', put, defaults, next⟩ := holds.put keyed j
        obtain ⟨defaults', behind, result⟩ := ih next
        rw [List.append_assoc] at behind
        rw [put]
        exact ⟨defaults'.trans defaults, behind, result⟩
      | false =>
        have refused : s.put key j = .error (.notKey key.kind) := by
          unfold JointStore.put
          rw [s.joints.insert_of_key_eq_error (Value.key_of_not_isKey keyed)]
          rfl
        rw [refused]
        exact ⟨rfl, by simpa using holds, rfl⟩

/-! ### Loading -/

/-- What a load comes to: it fails if the document is refused, and leaves the joints of the document
up to the one that it is refused for, whatever was there before. -/
theorem holds_load (s : JointStore) (document : Value) :
    (s.load document).store.defaults = s.defaults ∧
      (s.load document).store.Holds (readable document) ∧
      (s.load document).result =
        match refusal? document with
        | none => .ok ()
        | some cause => .error cause := by
  unfold load readable written refusal?
  cases document.itemsOrNone with
  | error cause => exact ⟨rfl, s.holds_clear, rfl⟩
  | ok items =>
    obtain ⟨defaults, holds, result⟩ := s.holds_clear.loadFrom items
    refine ⟨defaults, holds, result.trans ?_⟩
    dsimp only
    cases (pairsOf items).find? fun pair => !pair.1.isKey <;> rfl

theorem readable_of_refusal?_eq_none {document : Value} (accepted : refusal? document = none) :
    readable document = written document := by
  unfold refusal? at accepted
  unfold readable written
  cases hitems : document.itemsOrNone with
  | error cause => rfl
  | ok items =>
    rw [hitems] at accepted
    have keyed := List.find?_eq_none.1 (Option.map_eq_none_iff.1 accepted)
    exact List.takeWhile_eq_self_iff.2 fun pair member => by simpa using keyed pair member

/-- Loading clears a store before it reads the document. So it is all or nothing exactly if the
document is not refused, or what was there is what is read before it is. -/
theorem load_isAllOrNothing_iff (s : JointStore) (document : Value) :
    ((s.load document).store.defaults = s.defaults ∧
      (s.load document).store.items = Catalogue.latest (readable document) ∧
      (s.load document).result =
        match refusal? document with
        | none => .ok ()
        | some cause => .error cause) ∧
    (s.IsAllOrNothing document ↔
      refusal? document = none ∨ s.items = Catalogue.latest (readable document)) := by
  obtain ⟨defaults, holds, result⟩ := s.holds_load document
  refine ⟨⟨defaults, holds.items, result⟩, ?_⟩
  unfold IsAllOrNothing
  rw [result, holds.items]
  cases refused : refusal? document with
  | none => simp [readable_of_refusal?_eq_none refused]
  | some cause => simp [eq_comm]

/-- A joint is lost when a document is loaded whose second joint has a list for its key. -/
theorem not_forall_isAllOrNothing :
    ¬ ∀ (s : JointStore) (document : Value), s.IsAllOrNothing document := by
  intro atomic
  let s : JointStore := (({} : JointStore).load
    (.list [.object [("key", .text "r:0:0"), ("type", .text "dovetail")]])).store
  let document : Value := .list [.object [("key", .text "r:0:1"), ("type", .text "dovetail")],
    .object [("key", .list [.text "r", .int 0, .int 2]), ("type", .text "dovetail")]]
  have refused : refusal? document = some (.notKey .list) := rfl
  have there : (s.items.any fun item => item.1.equals (.text "r:0:0")) = true := by decide +kernel
  have gone : ((Catalogue.latest (readable document)).any fun item =>
      item.1.equals (.text "r:0:0")) = false := by decide +kernel
  obtain ⟨-, holds, result⟩ := s.holds_load document
  have kept := atomic s document
  unfold IsAllOrNothing at kept
  rw [result, refused, holds.items] at kept
  rw [← kept, gone] at there
  cases there

end JointStore

end Joinery
