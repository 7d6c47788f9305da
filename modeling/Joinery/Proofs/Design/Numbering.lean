import Joinery.Proofs.Design.Reloading
import Joinery.Proofs.Shape.Numbering

/-!
# Ids of the shapes of a document

The shapes of a document are added in order, and one without an id is given the next number of its
word behind those that stand before it. Shapes that come later are not asked, so a document whose
parts are accepted one by one is refused exactly when a number is too long or an id that is given is
the one that a later shape carries.
-/
namespace Joinery

namespace Catalogue

variable {β : Type} {c : Catalogue β}

theorem IsTextual.contains_eq_false_iff (textual : c.IsTextual) (text : String) :
    c.contains (.text text) = .ok false ↔ .text text ∉ c.keys := by
  obtain ⟨texts, stored, shown⟩ := exists_texts textual
  have keys : c.keys = texts.map .text := by
    rw [← shown]
    simp [Catalogue.keys, entries, Table.values]
  have found : c.contains (.text text) = .ok (c.table.contains (.text text)) := rfl
  rw [found, Except.ok.injEq, Table.contains_eq_false_iff, Table.keys, stored, keys]
  simp

/-- A text that is not there yet is stored last. -/
theorem IsTextual.exists_insert_of_absent (textual : c.IsTextual) {text : String}
    (absent : .text text ∉ c.keys) (b : β) : ∃ c', c.insert (.text text) b = .ok c' ∧
      c'.IsTextual ∧ c'.entries = c.entries ++ [(.text text, b)] := by
  obtain ⟨c', inserted⟩ := c.exists_insert (v := .text text) rfl b
  have missing := (textual.contains_eq_false_iff text).2 absent
  have fresh : .text text ∉ c.table.keys :=
    (Table.contains_eq_false_iff _ _).1 (Except.ok.inj missing)
  obtain ⟨key, hkey, ⟨present, -⟩ | ⟨-, entries⟩⟩ := entries_insert inserted
  · cases hkey
    exact absurd present fresh
  · cases hkey
    refine ⟨c', inserted, fun entry member => ?_, by simp [Catalogue.entries, Table.values, entries]⟩
    rw [entries] at member
    obtain old | last := List.mem_append.1 member
    · exact textual entry old
    · rw [List.mem_singleton.1 last]
      exact ⟨text, rfl, rfl⟩

end Catalogue

namespace Design

open Edit

variable {d d' : Design} {before : List Shape} {s s' : Shape}

/-! ### Ids by the place in a document -/

/-- How far the ids of a kind are counted behind shapes in a row: an id of the kind counts up to its
number, and a shape of the kind without an id takes the next one. -/
def taken (kind : FigureKind) (before : List Shape) : Except Misuse Nat :=
  before.foldlM (fun n s =>
    if s.id.isTruthy then do
      return max n ((← ShapeRegistry.numberOf? kind.label (← s.id.asText)).getD 0)
    else return if s.figure.kind = kind then n + 1 else n) 0

/-- The id of a shape behind others: its own, or the next one of its kind. -/
def idBehind (before : List Shape) (s : Shape) : Except Misuse Value :=
  if s.id.isTruthy then .ok s.id
  else do ShapeRegistry.idFor s.figure.kind.label ((← taken s.figure.kind before) + 1)

/-- Shapes behind others, under the ids that they get. -/
def placed (before : List Shape) : List Shape → Except Misuse (List Shape)
  | [] => return []
  | s :: rest => do return { s with id := ← idBehind before s } :: (← placed (before ++ [s]) rest)

/-- A shape has no id, or one that is a text. -/
def IsNamed (s : Shape) : Prop := s.id.isTruthy = true → ∃ text, s.id = .text text

theorem taken_snoc (kind : FigureKind) (before : List Shape) (s : Shape) :
    taken kind (before ++ [s]) = (do
      let n ← taken kind before
      if s.id.isTruthy then
        return max n ((← ShapeRegistry.numberOf? kind.label (← s.id.asText)).getD 0)
      else return if s.figure.kind = kind then n + 1 else n) := by
  unfold taken
  rw [List.foldlM_append]
  simp only [List.foldlM_cons, List.foldlM_nil, bind_pure]

theorem idBehind_of_truthy (before : List Shape) (truthy : s.id.isTruthy = true) :
    idBehind before s = .ok s.id := if_pos truthy

theorem idBehind_of_absent (before : List Shape) (absent : s.id.isTruthy = false) :
    idBehind before s = (do
      ShapeRegistry.idFor s.figure.kind.label ((← taken s.figure.kind before) + 1)) :=
  if_neg (Bool.not_eq_true _ ▸ absent)

/-- A new id has the number that comes next, and that number is not too long. -/
theorem exists_of_idBehind {id : Value} (absent : s.id.isTruthy = false)
    (given : idBehind before s = .ok id) : ∃ n, taken s.figure.kind before = .ok n ∧
      n + 1 < 10 ^ Misuse.digitLimit ∧
      id = .text (ShapeRegistry.idText s.figure.kind.label (n + 1)) := by
  rw [idBehind_of_absent before absent] at given
  obtain ⟨n, hn, made⟩ := bind_eq_ok_iff.1 given
  exact ⟨n, hn, ShapeRegistry.idFor_eq_ok_iff.1 made⟩

theorem exists_text_of_idBehind {id : Value} (named : IsNamed s)
    (given : idBehind before s = .ok id) : ∃ text, id = .text text := by
  cases truthy : s.id.isTruthy with
  | true =>
    rw [idBehind_of_truthy before truthy] at given
    cases given
    exact named truthy
  | false =>
    obtain ⟨n, -, -, rfl⟩ := exists_of_idBehind truthy given
    exact ⟨_, rfl⟩

/-! ### One shape -/

/-- A design that holds the shapes of a row under texts, whose registry has counted their ids. -/
structure Holds (d : Design) (before : List Shape) : Prop where
  builtin : d.registry.IsBuiltin
  textual : d.shapes.IsTextual
  counted : ∀ kind : FigureKind,
    d.registry.counted kind.label d.shapes.keys = taken kind before

theorem label_injective {kind kind' : FigureKind} (same : kind.label = kind'.label) :
    kind = kind' := by
  revert same
  cases kind <;> cases kind' <;> decide

/-- A registry that has counted a new id counts with it from then on. -/
theorem Holds.counted_newId (holds : d.Holds before) (absent : s.id.isTruthy = false) {n : Nat}
    (hn : taken s.figure.kind before = .ok n) (fits : n + 1 < 10 ^ Misuse.digitLimit)
    (kind : FigureKind) :
    ({ d.registry with
      counters := d.registry.counters.insert s.figure.kind.label (n + 1) }).counted kind.label
        (d.shapes.keys ++ [Value.text (ShapeRegistry.idText s.figure.kind.label (n + 1))]) =
      taken kind (before ++ [s]) := by
  have own := holds.counted kind
  unfold ShapeRegistry.counted at own ⊢
  rw [taken_snoc, absent, ShapeRegistry.highest_append, Table.find?_insert]
  by_cases same : kind = s.figure.kind
  · subst same
    rw [hn] at own ⊢
    rw [if_pos rfl, Option.getD_some, ShapeRegistry.highest_of_le own (Nat.le_succ n)]
    simp only [ok_bind, Value.asText, ShapeRegistry.numberOf?_idText _ fits, Option.getD_some,
      Nat.max_self, Bool.false_eq_true, if_false, if_true]
  · have other : kind.label ≠ s.figure.kind.label := fun h => same (label_injective h)
    rw [if_neg other, own]
    simp only [Value.asText, ok_bind, ShapeRegistry.numberOf?_idText_of_ne same,
      Option.getD_none, Nat.max_zero, Bool.false_eq_true, if_false, if_neg (Ne.symm same)]

/-- Giving an id to the next shape keeps the count. -/
theorem Holds.exists_idOr (holds : d.Holds before) (plain : s.extras = Table.empty) :
    ∃ r, d.registry.idOr s.type s.id d.ids = (idBehind before s, r) ∧
      ∀ id, idBehind before s = .ok id → ∀ kind : FigureKind,
        r.counted kind.label (d.shapes.keys ++ [id]) = taken kind (before ++ [s]) := by
  cases truthy : s.id.isTruthy with
  | true =>
    refine ⟨d.registry, ?_, fun id given kind => ?_⟩
    · rw [idBehind_of_truthy before truthy]
      exact if_pos truthy
    · rw [idBehind_of_truthy before truthy] at given
      cases given
      rw [taken_snoc, ← holds.counted kind, truthy]
      exact ShapeRegistry.highest_append ..
  | false =>
    have typed : s.type = .text s.figure.kind.label := by
      unfold Shape.type
      rw [plain]
      rfl
    have asked : d.registry.idOr s.type s.id d.ids =
        d.registry.newId (.text s.figure.kind.label) (.list d.shapes.keys) := by
      unfold ShapeRegistry.idOr
      rw [truthy, typed]
      rfl
    rw [asked, ShapeRegistry.newId_eq, holds.counted, idBehind_of_absent before truthy]
    cases hn : taken s.figure.kind before with
    | error cause => exact ⟨d.registry, rfl, nofun⟩
    | ok n =>
      rw [ok_bind]
      refine ⟨_, rfl, fun id made kind => ?_⟩
      obtain ⟨fits, rfl⟩ := ShapeRegistry.idFor_eq_ok_iff.1 made
      exact holds.counted_newId truthy hn fits kind

/-- The next shape is added under the id of its place, if that one is free, and the design then
holds one shape more. -/
theorem Holds.gives_addShape_iff (holds : d.Holds before) (plain : s.extras = Table.empty)
    (named : IsNamed s) :
    (∃ s' d', (addShape s).Gives d s' d') ↔ ∃ id, idBehind before s = .ok id ∧ id ∉ d.shapes.keys := by
  obtain ⟨r, asked, -⟩ := holds.exists_idOr plain
  constructor
  · rintro ⟨s', d', given⟩
    obtain ⟨id, r', shapes, numbered, absent, -⟩ := Design.gives_addShape_iff.1 given
    have own : idBehind before s = .ok id := (Prod.mk.inj (asked.symm.trans numbered)).1
    obtain ⟨text, rfl⟩ := exists_text_of_idBehind named own
    exact ⟨_, own, (holds.textual.contains_eq_false_iff text).1 absent⟩
  · rintro ⟨id, own, absent⟩
    obtain ⟨text, rfl⟩ := exists_text_of_idBehind named own
    obtain ⟨c, inserted, -⟩ :=
      holds.textual.exists_insert_of_absent absent { s with id := .text text }
    rw [own] at asked
    exact ⟨_, _, Design.gives_addShape_iff.2 ⟨.text text, r, c, asked,
      (holds.textual.contains_eq_false_iff text).2 absent, inserted, rfl, rfl⟩⟩

theorem Holds.addShape (holds : d.Holds before) (plain : s.extras = Table.empty)
    (named : IsNamed s) (given : (addShape s).Gives d s' d') :
    d'.Holds (before ++ [s]) ∧ ∃ id, idBehind before s = .ok id ∧ id ∉ d.shapes.keys ∧
      d'.shapes.entries = d.shapes.entries ++ [(id, { s with id := id })] ∧
      d'.parameters = d.parameters ∧ d'.joints = d.joints := by
  obtain ⟨r, asked, counts⟩ := holds.exists_idOr plain
  obtain ⟨id, r', shapes, numbered, present, inserted, -, rfl⟩ := Design.gives_addShape_iff.1 given
  obtain ⟨own, rfl⟩ := Prod.mk.inj (asked.symm.trans numbered)
  obtain ⟨text, rfl⟩ := exists_text_of_idBehind named own
  have absent := (holds.textual.contains_eq_false_iff text).1 present
  obtain ⟨c, hc, textual, entries⟩ :=
    holds.textual.exists_insert_of_absent absent { s with id := .text text }
  cases inserted.symm.trans hc
  refine ⟨⟨?_, textual, fun kind => ?_⟩, _, own, absent, entries, rfl, rfl⟩
  · have builtin := holds.builtin.idOr s.type s.id d.ids
    rwa [asked] at builtin
  · have keys : shapes.keys = d.shapes.keys ++ [.text text] := by
      simp [Catalogue.keys, entries]
    dsimp only
    rw [keys]
    exact counts _ own kind

/-- The id that is given to a shape without one is not in use yet. -/
theorem Holds.not_mem_of_idBehind (holds : d.Holds before) {id : Value}
    (absent : s.id.isTruthy = false) (own : idBehind before s = .ok id) : id ∉ d.shapes.keys := by
  obtain ⟨n, hn, fits, rfl⟩ := exists_of_idBehind absent own
  intro member
  have highest := (holds.counted s.figure.kind).trans hn
  obtain ⟨text, k, same, number, le⟩ := (ShapeRegistry.le_of_highest highest).2 _ member
  cases same
  rw [ShapeRegistry.numberOf?_idText _ fits] at number
  cases number
  exact absurd le (Nat.not_succ_le_self n)

/-! ### All shapes -/

theorem isTruthy_of_idBehind {id : Value} (own : idBehind before s = .ok id) :
    id.isTruthy = true := by
  cases truthy : s.id.isTruthy with
  | true =>
    rw [idBehind_of_truthy before truthy] at own
    cases own
    exact truthy
  | false =>
    obtain ⟨n, -, -, rfl⟩ := exists_of_idBehind truthy own
    have written : (ShapeRegistry.idText s.figure.kind.label (n + 1)).isEmpty = false := by
      rw [String.isEmpty_eq_false_iff]
      intro empty
      have letters := congrArg String.toList empty
      simp [ShapeRegistry.toList_idText] at letters
    simp [Value.isTruthy, written]

theorem mem_placed {ss ps : List Shape} (success : placed before ss = .ok ps) :
    ∀ t ∈ ss, t.id.isTruthy = true → t.id ∈ ps.map Shape.id := by
  induction ss generalizing before ps with
  | nil => exact nofun
  | cons s rest ih =>
    obtain ⟨id, own, success⟩ := bind_eq_ok_iff.1 success
    obtain ⟨later, hlater, hps⟩ := bind_eq_ok_iff.1 success
    cases hps
    refine List.forall_mem_cons.2 ⟨fun truthy => ?_, fun t member truthy => ?_⟩
    · rw [idBehind_of_truthy before truthy] at own
      cases own
      exact List.mem_cons_self
    · exact List.mem_cons_of_mem _ (ih hlater t member truthy)

theorem ofValue_of_isBuiltin {r : ShapeRegistry} (builtin : r.IsBuiltin) (v : Value) :
    r.ofValue v = ShapeRegistry.builtin.ofValue v := by
  unfold ShapeRegistry.ofValue ShapeRegistry.kindOf ShapeRegistry.words
  rw [builtin.kinds, builtin.bindings]
  rfl

theorem plain_of_ofValue {v : Value} (described : ShapeRegistry.builtin.ofValue v = .ok s) :
    s.extras = Table.empty :=
  (Shape.isRead_ofValue rfl rfl described).plain

/-- What adding shapes leaves: they stand last, in order, under the ids of their places. -/
theorem Holds.addShapes {items : List Value} {ss : List Shape} (holds : d.Holds before)
    (described : List.Forall₂ (fun v s => ShapeRegistry.builtin.ofValue v = .ok s) items ss)
    (named : ∀ s ∈ ss, IsNamed s) (given : (addShapes items).Gives d () d') :
    d'.Holds (before ++ ss) ∧ d'.parameters = d.parameters ∧ d'.joints = d.joints ∧
      ∃ ps, placed before ss = .ok ps ∧
        d'.shapes.entries = d.shapes.entries ++ ps.map fun p => (p.id, p) := by
  induction described generalizing d before with
  | nil =>
    obtain ⟨-, rfl⟩ := gives_pure_iff.1 given
    exact ⟨by simpa using holds, rfl, rfl, [], rfl, by simp⟩
  | @cons v s items rest described _ ih =>
    obtain ⟨first, others⟩ := List.forall_mem_cons.1 named
    obtain ⟨s₀, s', d₁, made, added, given⟩ := gives_addShapes_cons_iff.1 given
    rw [ofValue_of_isBuiltin holds.builtin, described] at made
    cases made
    obtain ⟨holds₁, id, own, -, entries, parameters, joints⟩ :=
      holds.addShape (plain_of_ofValue described) first added
    obtain ⟨holds', parameters', joints', ps, hps, entries'⟩ := ih holds₁ others given
    rw [List.append_assoc, List.singleton_append] at holds'
    refine ⟨holds', parameters'.trans parameters, joints'.trans joints,
      { s with id := id } :: ps, ?_, ?_⟩
    · exact bind_eq_ok_iff.2 ⟨id, own, bind_eq_ok_iff.2 ⟨ps, hps, rfl⟩⟩
    · rw [entries', entries, List.append_assoc]
      rfl

theorem Holds.nodup_keys (holds : d.Holds before) : d.shapes.keys.Nodup := by
  obtain ⟨texts, keys, nodup, -⟩ := holds.textual.texts
  rw [Catalogue.keys, keys]
  exact nodup.map fun a b same => Value.text.inj same

/-- Shapes that carry an id are only added while it is not in use. -/
theorem Holds.not_mem_of_addShapes {items : List Value} {ss : List Shape} (holds : d.Holds before)
    (described : List.Forall₂ (fun v s => ShapeRegistry.builtin.ofValue v = .ok s) items ss)
    (named : ∀ s ∈ ss, IsNamed s) (given : (Design.addShapes items).Gives d () d') :
    ∀ t ∈ ss, t.id.isTruthy = true → t.id ∉ d.shapes.keys := by
  obtain ⟨holds', -, -, ps, hps, entries⟩ := holds.addShapes described named given
  intro t member truthy used
  have nodup := holds'.nodup_keys
  rw [Catalogue.keys, entries, List.map_append, List.map_map] at nodup
  exact (List.nodup_append.1 nodup).2.2 _ used _ (mem_placed hps t member truthy) rfl

/-- Every shape without an id can be given one, and no shape behind it carries that id. -/
def NewIdsFree (before ss : List Shape) : Prop :=
  ∀ earlier s later, ss = earlier ++ s :: later → s.id.isTruthy = false →
    ∃ id, idBehind (before ++ earlier) s = .ok id ∧ ∀ t ∈ later, t.id ≠ id

theorem newIdsFree_cons_iff {rest : List Shape} : NewIdsFree before (s :: rest) ↔
    (s.id.isTruthy = false → ∃ id, idBehind before s = .ok id ∧ ∀ t ∈ rest, t.id ≠ id) ∧
      NewIdsFree (before ++ [s]) rest := by
  constructor
  · intro free
    refine ⟨fun absent => ?_, fun earlier t later split absent => ?_⟩
    · simpa using free [] s rest rfl absent
    · simpa using free (s :: earlier) t later (by rw [split]; rfl) absent
  · rintro ⟨first, others⟩ earlier t later split absent
    cases earlier with
    | nil =>
      cases split
      simpa using first absent
    | cons head earlier =>
      obtain ⟨rfl, rest_eq⟩ := List.cons.inj split
      simpa using others earlier t later rest_eq absent

/-- The next shape has a free place if its own id is unused, or its new id is not claimed behind. -/
theorem Holds.exists_free (holds : d.Holds before) {rest : List Shape}
    (first : s.id.isTruthy = true → s.id ∉ d.shapes.keys)
    (apart : ∀ t ∈ rest, s.id.isTruthy = true → s.id ≠ t.id)
    (free : s.id.isTruthy = false →
      ∃ id, idBehind before s = .ok id ∧ ∀ t ∈ rest, t.id ≠ id) :
    ∃ id, idBehind before s = .ok id ∧ id ∉ d.shapes.keys ∧ ∀ t ∈ rest, t.id ≠ id := by
  cases truthy : s.id.isTruthy with
  | true =>
    exact ⟨s.id, idBehind_of_truthy before truthy, first truthy,
      fun t member => (apart t member truthy).symm⟩
  | false =>
    obtain ⟨id, hid, unclaimed⟩ := free truthy
    exact ⟨id, hid, holds.not_mem_of_idBehind truthy hid, unclaimed⟩

/-- Shapes with ids of their own are added exactly when all new ids are free. -/
theorem Holds.exists_gives_addShapes_iff {items : List Value} {ss : List Shape}
    (holds : d.Holds before)
    (described : List.Forall₂ (fun v s => ShapeRegistry.builtin.ofValue v = .ok s) items ss)
    (named : ∀ s ∈ ss, IsNamed s)
    (distinct : ss.Pairwise fun s t => s.id.isTruthy = true → s.id ≠ t.id)
    (unused : ∀ s ∈ ss, s.id.isTruthy = true → s.id ∉ d.shapes.keys) :
    (∃ d', (Design.addShapes items).Gives d () d') ↔ NewIdsFree before ss := by
  induction described generalizing d before with
  | nil => exact iff_of_true ⟨d, gives_pure_iff.2 ⟨rfl, rfl⟩⟩ (by simp [NewIdsFree])
  | @cons v s items rest described others ih =>
    obtain ⟨own, named⟩ := List.forall_mem_cons.1 named
    obtain ⟨apart, distinct⟩ := List.pairwise_cons.1 distinct
    obtain ⟨first, unused⟩ := List.forall_mem_cons.1 unused
    have made : d.registry.ofValue v = .ok s :=
      (ofValue_of_isBuiltin holds.builtin v).trans described
    have plain := plain_of_ofValue described
    rw [newIdsFree_cons_iff]
    constructor
    · rintro ⟨d', given⟩
      obtain ⟨s₀, s', d₁, made₀, added, given⟩ := gives_addShapes_cons_iff.1 given
      cases made.symm.trans made₀
      obtain ⟨holds₁, id, hid, -, entries, -⟩ := holds.addShape plain own added
      have unused₁ := holds₁.not_mem_of_addShapes others named given
      refine ⟨fun _ => ⟨id, hid, fun t member same => ?_⟩, ?_⟩
      · refine unused₁ t member (same ▸ isTruthy_of_idBehind hid) ?_
        simp [Catalogue.keys, entries, same]
      · exact (ih holds₁ named distinct unused₁).1 ⟨d', given⟩
    · rintro ⟨free, later⟩
      obtain ⟨id, hid, absent, unclaimed⟩ := holds.exists_free first apart free
      obtain ⟨s', d₁, added⟩ := (holds.gives_addShape_iff plain own).2 ⟨id, hid, absent⟩
      obtain ⟨holds₁, id₁, hid₁, -, entries, -⟩ := holds.addShape plain own added
      cases hid.symm.trans hid₁
      have unused₁ : ∀ t ∈ rest, t.id.isTruthy = true → t.id ∉ d₁.shapes.keys := by
        intro t member truthy
        have keys : d₁.shapes.keys = d.shapes.keys ++ [id] := by simp [Catalogue.keys, entries]
        rw [keys, List.mem_append, List.mem_singleton]
        exact not_or.2 ⟨unused t member truthy, unclaimed t member⟩
      obtain ⟨d', given⟩ := (ih holds₁ named distinct unused₁).2 later
      exact ⟨d', gives_addShapes_cons_iff.2 ⟨s, s', d₁, made, added, given⟩⟩

/-! ### Documents -/

/-- What a document holds, each part read on its own. -/
structure Parts where
  parameters : ParameterStore
  shapes : List Shape
  joints : JointStore

/-- The parts of a document, if every one of them is accepted. -/
def Parts.ofValue (settings : Settings) : Value → Except Failure Parts
  | .object fields =>
    match (fields.lookup "shapes").getD (.list []) with
    | .list items => do
      let listed ← ((fields.lookup "parameters").getD .null).itemsOrNone
      let parameters ← ParameterStore.ofList (← listed.mapM Parameter.ofValue)
      let shapes ← items.mapM ShapeRegistry.builtin.ofValue
      let store : JointStore := { defaults := settings.joints }
      let loaded := store.load ((fields.lookup "edgeJoinery").getD .null)
      loaded.result
      return ⟨parameters, shapes, loaded.store⟩
    | _ => .error (.shape .notDesign)
  | _ => .error (.shape .notDesign)

theorem Parts.ofValue_eq_ok_iff {settings : Settings} {v : Value} {parts : Parts} :
    Parts.ofValue settings v = .ok parts ↔ ∃ fields items listed ps,
      v = .object fields ∧ (fields.lookup "shapes").getD (.list []) = .list items ∧
      ((fields.lookup "parameters").getD .null).itemsOrNone = .ok listed ∧
      listed.mapM Parameter.ofValue = .ok ps ∧
      ParameterStore.ofList ps = .ok parts.parameters ∧
      items.mapM ShapeRegistry.builtin.ofValue = .ok parts.shapes ∧
      (JointStore.load { defaults := settings.joints }
        ((fields.lookup "edgeJoinery").getD .null)).result = .ok () ∧
      (JointStore.load { defaults := settings.joints }
        ((fields.lookup "edgeJoinery").getD .null)).store = parts.joints := by
  unfold Parts.ofValue
  constructor
  · intro success
    split at success
    · next fields =>
      split at success
      · next items hitems =>
        obtain ⟨listed, hlisted, success⟩ := bind_eq_ok_iff.1 success
        obtain ⟨ps, hps, success⟩ := bind_eq_ok_iff.1 success
        obtain ⟨store, hstore, success⟩ := bind_eq_ok_iff.1 success
        obtain ⟨shapes, hshapes, success⟩ := bind_eq_ok_iff.1 success
        obtain ⟨_, loaded, success⟩ := bind_eq_ok_iff.1 success
        cases success
        exact ⟨fields, items, listed, ps, rfl, hitems, liftM_eq_ok_iff.1 hlisted, hps, hstore,
          hshapes, liftM_eq_ok_iff.1 loaded, rfl⟩
      · cases success
    · cases success
  · rintro ⟨fields, items, listed, ps, rfl, hitems, hlisted, hps, hstore, hshapes, loaded, joints⟩
    dsimp only
    rw [hitems]
    refine bind_eq_ok_iff.2 ⟨listed, liftM_eq_ok_iff.2 hlisted, ?_⟩
    refine bind_eq_ok_iff.2 ⟨ps, hps, bind_eq_ok_iff.2 ⟨_, hstore, ?_⟩⟩
    refine bind_eq_ok_iff.2 ⟨_, hshapes, bind_eq_ok_iff.2 ⟨(), liftM_eq_ok_iff.2 loaded, ?_⟩⟩
    rw [joints]
    rfl

theorem holds_empty (settings : Settings) (store : ParameterStore) :
    Holds { empty settings with parameters := store } [] :=
  ⟨⟨rfl, rfl⟩, nofun, fun kind => by cases kind <;> rfl⟩

/-- A document whose parts are accepted is read as far as its shapes can be added. -/
theorem exists_ofValue_eq_ok_iff {settings : Settings} {v : Value} {parts : Parts}
    (accepted : Parts.ofValue settings v = .ok parts) (named : ∀ s ∈ parts.shapes, IsNamed s) :
    ∃ items, List.Forall₂ (fun v s => ShapeRegistry.builtin.ofValue v = .ok s) items parts.shapes ∧
      ∀ d, (ofValue settings v).result = .ok d ↔ ∃ d₁,
        (addShapes items).Gives { empty settings with parameters := parts.parameters } () d₁ ∧
          d = { d₁ with joints := parts.joints } := by
  obtain ⟨fields, items, listed, ps, rfl, hitems, hlisted, hps, hstore, hshapes, loaded, joints⟩ :=
    Parts.ofValue_eq_ok_iff.1 accepted
  have described := mapM_eq_ok_iff.1 hshapes
  refine ⟨items, described, fun d => ?_⟩
  have sameJoints {d₁ : Design} (added : (addShapes items).Gives
      { empty settings with parameters := parts.parameters } () d₁) :
      d₁.joints = { defaults := settings.joints } :=
    ((holds_empty settings parts.parameters).addShapes described named added).2.2.1
  constructor
  · intro success
    obtain ⟨_, _, _, _, _, same, hitems', hlisted', hps', hstore', given⟩ :=
      ofValue_eq_ok_iff.1 success
    cases same
    cases hitems.symm.trans hitems'
    cases hlisted.symm.trans hlisted'
    cases hps.symm.trans hps'
    cases hstore.symm.trans hstore'
    obtain ⟨d₁, added, stored⟩ := gives_fill_iff.1 given
    obtain ⟨-, rfl⟩ := gives_loadJoints_iff.1 stored
    exact ⟨d₁, added, by rw [sameJoints added, joints]⟩
  · rintro ⟨d₁, added, rfl⟩
    refine ofValue_eq_ok_iff.2 ⟨fields, items, listed, ps, _, rfl, hitems, hlisted, hps, hstore,
      gives_fill_iff.2 ⟨d₁, added, gives_loadJoints_iff.2 ?_⟩⟩
    rw [sameJoints added]
    exact ⟨loaded, by rw [joints]⟩

/-- A document whose parts are accepted, and whose shapes have texts of their own for ids or none,
is read exactly when every id that is made while reading is one that no later shape carries; the
shapes then stand in order under the ids of their places, all of them different. -/
theorem ofValue_succeeds_iff_newIdsFree {settings : Settings} {v : Value} {parts : Parts}
    (accepted : Parts.ofValue settings v = .ok parts) (named : ∀ s ∈ parts.shapes, IsNamed s)
    (distinct : parts.shapes.Pairwise fun s t => s.id.isTruthy = true → s.id ≠ t.id) :
    ((∃ d, (ofValue settings v).result = .ok d) ↔ NewIdsFree [] parts.shapes) ∧
      ∀ d, (ofValue settings v).result = .ok d →
        placed [] parts.shapes = .ok d.all ∧ d.shapes.keys = d.all.map Shape.id ∧
          (d.all.map Shape.id).Nodup ∧ d.parameters = parts.parameters ∧
          d.joints = parts.joints := by
  obtain ⟨items, described, reads⟩ := exists_ofValue_eq_ok_iff accepted named
  have start := holds_empty settings parts.parameters
  constructor
  · rw [← start.exists_gives_addShapes_iff described named distinct fun _ _ _ => nofun]
    constructor
    · rintro ⟨d, success⟩
      obtain ⟨d₁, added, -⟩ := (reads d).1 success
      exact ⟨d₁, added⟩
    · rintro ⟨d₁, added⟩
      exact ⟨_, (reads _).2 ⟨d₁, added, rfl⟩⟩
  · intro d success
    obtain ⟨d₁, added, rfl⟩ := (reads d).1 success
    obtain ⟨holds, parameters, -, ps, hps, entries⟩ := start.addShapes described named added
    have stored : d₁.shapes.entries = ps.map fun p => (p.id, p) := entries
    have all : d₁.shapes.values = ps := by
      simp [Catalogue.values, stored, Function.comp_def]
    have keys : d₁.shapes.keys = ps.map Shape.id := by
      simp [Catalogue.keys, stored, Function.comp_def]
    have nodup := holds.nodup_keys
    rw [Design.all, all]
    exact ⟨hps, keys, keys ▸ nodup, parameters, rfl⟩

/-- A document with rectangles of given ids. -/
def rectangles (ids : List String) : Value :=
  .object [("shapes", .list (ids.map fun id =>
    .object [("id", .text id), ("type", .text "rectangle")]))]

/-- A rectangle as documents give it that tell its id alone. -/
def rectangle (id : String) : Shape where
  id := .text id
  figure := .rectangle (.float 0) (.float 0) (.float 40) (.float 40)

theorem ofValue_rectangle (id : String) :
    ShapeRegistry.builtin.ofValue (.object [("id", .text id), ("type", .text "rectangle")]) =
      .ok (rectangle id) := by
  have drawn : FigureKind.rectangle ≠ .blank := nofun
  have known : ShapeRegistry.builtin.kindOf (.text "rectangle") = .ok .rectangle :=
    Shape.kindOf_label rfl drawn
  have options : Shape.optionsOf .rectangle [("id", .text id), ("type", .text "rectangle")] = [] := by
    have unknown : ∀ name ∈ ["id", "type"],
        ((Figure.defaults .rectangle).map Prod.fst).contains (Shape.snake name) = false := by
      decide +kernel
    simp only [Shape.optionsOf, Shape.optionsAmong, List.filterMap_cons, unknown "id" (by decide),
      unknown "type" (by decide), Bool.false_and, Bool.false_eq_true, if_false, List.filterMap_nil,
      List.reverse_nil]
  refine (bind_eq_ok_iff (x := ShapeRegistry.builtin.kindOf (.text "rectangle"))).2
    ⟨.rectangle, known, ?_⟩
  unfold Shape.ofFields
  rw [options]
  rfl

theorem accepted_rectangles (ids : List String) :
    Parts.ofValue {} (rectangles ids) =
      .ok ⟨.empty, ids.map rectangle, { defaults := ({} : Settings).joints }⟩ := by
  refine Parts.ofValue_eq_ok_iff.2 ⟨_, _, [], [], rfl, rfl, rfl, rfl, rfl, ?_, rfl, rfl⟩
  refine mapM_eq_ok_iff.2 ?_
  induction ids with
  | nil => exact .nil
  | cons id rest ih => exact .cons (ofValue_rectangle id) ih

theorem isNamed_rectangle (ids : List String) : ∀ s ∈ ids.map rectangle, IsNamed s := by
  intro s member
  obtain ⟨id, -, rfl⟩ := List.mem_map.1 member
  exact fun _ => ⟨id, rfl⟩

/-- A rectangle without an id behind one with a number is given the next number. -/
theorem ofValue_succeeds_iff_newIdsFree_behind :
    ∃ d, (ofValue {} (rectangles ["rectangle-4", ""])).result = .ok d ∧
      d.all = [rectangle "rectangle-4", rectangle "rectangle-5"] := by
  have distinct : (["rectangle-4", ""].map rectangle).Pairwise
      fun s t => s.id.isTruthy = true → s.id ≠ t.id := by
    refine .cons (fun t member _ => ?_) (.cons nofun .nil)
    rw [List.mem_singleton.1 member]
    exact fun same => absurd (Value.text.inj same) (by decide)
  have second : idBehind [rectangle "rectangle-4"] (rectangle "") = .ok (.text "rectangle-5") := by
    have four : taken .rectangle [rectangle "rectangle-4"] = .ok 4 := by decide +kernel
    have fits : 5 < 10 ^ Misuse.digitLimit :=
      Nat.lt_of_lt_of_le (by decide : 5 < 10 ^ 1) (Nat.pow_le_pow_right (by decide) (by decide))
    rw [idBehind_of_absent _ rfl]
    exact bind_eq_ok_iff.2 ⟨4, four, ShapeRegistry.idFor_eq_ok_iff.2 ⟨fits, rfl⟩⟩
  obtain ⟨reads, gives⟩ := ofValue_succeeds_iff_newIdsFree
    (accepted_rectangles ["rectangle-4", ""]) (isNamed_rectangle _) distinct
  have free : NewIdsFree [] (["rectangle-4", ""].map rectangle) := by
    refine newIdsFree_cons_iff.2 ⟨nofun, newIdsFree_cons_iff.2 ⟨fun _ => ?_, ?_⟩⟩
    · exact ⟨.text "rectangle-5", second, nofun⟩
    · simp [NewIdsFree]
  obtain ⟨d, success⟩ := reads.2 free
  obtain ⟨hplaced, -⟩ := gives d success
  obtain ⟨first, hfirst, later⟩ := bind_eq_ok_iff.1 hplaced
  obtain ⟨rest, hrest, all⟩ := bind_eq_ok_iff.1 later
  obtain ⟨last, hlast, later⟩ := bind_eq_ok_iff.1 hrest
  cases hfirst
  cases second.symm.trans hlast
  cases later
  exact ⟨d, success, (Except.ok.inj all).symm⟩

/-- An id that is made while reading may be the one that a later shape carries; the shapes are then
refused, though in the other order they are read. -/
theorem not_forall_ofValue_succeeds :
    ¬ ∀ (settings : Settings) (v : Value) (parts : Parts),
      Parts.ofValue settings v = .ok parts → (∀ s ∈ parts.shapes, IsNamed s) →
      (parts.shapes.Pairwise fun s t => s.id.isTruthy = true → s.id ≠ t.id) →
      ∃ d, (ofValue settings v).result = .ok d := by
  intro succeeds
  have distinct : (["", "rectangle-1"].map rectangle).Pairwise
      fun s t => s.id.isTruthy = true → s.id ≠ t.id :=
    .cons (fun t _ => nofun) (.cons nofun .nil)
  obtain ⟨d, success⟩ := succeeds {} _ _ (accepted_rectangles ["", "rectangle-1"])
    (isNamed_rectangle _) distinct
  have refused : (ofValue {} (rectangles ["", "rectangle-1"])).result.toOption.isNone = true := by
    decide +kernel
  rw [success] at refused
  cases refused

end Design

end Joinery
