import Joinery.Proofs.Shape.Numbering
import Joinery.Proofs.Table

/-!
# Ids that are new

A registry counts for every word. An id that it generates has the next number of its word, and word
and number can be read off the id again, since digits hold no dash. So all ids that a registry has
generated are among those that it has counted, a count never goes back, and a new id is one that was
not counted before, whatever the words are.
-/
namespace Joinery

namespace ShapeRegistry

/-! ### Words and numbers of ids -/

theorem eq_of_append_dash {xs ys zs ws : List Char} (hx : '-' ∉ xs) (hy : '-' ∉ ys)
    (same : xs ++ '-' :: zs = ys ++ '-' :: ws) : xs = ys ∧ zs = ws := by
  have front {cs rest : List Char} (free : '-' ∉ cs) :
      (cs ++ '-' :: rest).takeWhile (· ≠ '-') = cs := by
    have digits : ∀ c ∈ cs, decide (c ≠ '-') = true := by
      rintro c member
      exact decide_eq_true fun dash => free (dash ▸ member)
    rw [List.takeWhile_append_of_pos digits]
    simp
  obtain rfl : xs = ys := by rw [← front hx, same, front hy]
  exact ⟨rfl, (List.cons.inj (List.append_cancel_left same)).2⟩

theorem dash_notMem_digits (n : Nat) : '-' ∉ (Nat.toDigits 10 n).reverse := by
  intro member
  exact absurd (Text.isDigit_of_mem_toDigits (List.mem_reverse.1 member)) (by decide)

/-- The last dash of an id stands between its word and its number. -/
theorem idText_inj {word word' : String} {n n' : Nat} (same : idText word n = idText word' n') :
    word = word' ∧ n = n' := by
  have letters := congrArg (fun id => id.toList.reverse) same
  simp only [toList_idText, List.reverse_append, List.reverse_cons, List.reverse_nil,
    List.nil_append, List.singleton_append] at letters
  obtain ⟨digits, words⟩ := eq_of_append_dash (dash_notMem_digits n) (dash_notMem_digits n') letters
  have numbers := congrArg (Nat.ofDigitChars 10 · 0) (List.reverse_inj.1 digits)
  simp only [Nat.ofDigitChars_ten_toDigits] at numbers
  exact ⟨String.toList_inj.1 (List.reverse_inj.1 words), numbers⟩

/-! ### Counts -/

/-- The last number that was given for a word. -/
def counter (r : ShapeRegistry) (word : String) : Nat := (r.counters.find? word).getD 0

/-- For every word, one registry has counted as far as another, or on. -/
def CountsOn (r r' : ShapeRegistry) : Prop := ∀ word, r.counter word ≤ r'.counter word

theorem CountsOn.refl (r : ShapeRegistry) : r.CountsOn r := fun _ => Nat.le_refl _

theorem CountsOn.trans {r r' r'' : ShapeRegistry} (first : r.CountsOn r')
    (second : r'.CountsOn r'') : r.CountsOn r'' :=
  fun word => Nat.le_trans (first word) (second word)

/-- An id is one of those that a registry has counted. -/
def HasCounted (r : ShapeRegistry) (id : Value) : Prop :=
  ∃ word n, id = .text (idText word n) ∧ n ≤ r.counter word

theorem HasCounted.mono {r r' : ShapeRegistry} {id : Value} (counted : r.HasCounted id)
    (on : r.CountsOn r') : r'.HasCounted id := by
  obtain ⟨word, n, same, le⟩ := counted
  exact ⟨word, n, same, Nat.le_trans le (on word)⟩

theorem counter_insert (r : ShapeRegistry) (word word' : String) (n : Nat) :
    { r with counters := r.counters.insert word n }.counter word' =
      if word' = word then n else r.counter word' := by
  unfold counter
  rw [Table.find?_insert]
  split <;> rfl

/-- What a registry does that is asked for a new id: it fails before it counts, or it counts one on
from the greatest number in use. -/
theorem newId_cases (r : ShapeRegistry) (word existing : Value) :
    (∃ cause, r.newId word existing = (.error cause, r)) ∨
      ∃ w ids n, existing.items = .ok ids ∧ r.counted w ids = .ok n ∧ r.newId word existing =
        (idFor w (n + 1), { r with counters := r.counters.insert w (n + 1) }) := by
  unfold newId counted
  cases word.asWord with
  | error cause => exact .inl ⟨cause, rfl⟩
  | ok word =>
    cases listed : existing.items with
    | error cause => exact .inl ⟨cause, rfl⟩
    | ok ids =>
      cases highest : highest (Text.lower word) ((r.counters.find? (Text.lower word)).getD 0) ids with
      | error cause =>
        refine .inl ⟨cause, ?_⟩
        simp only [ok_bind, highest]
        rfl
      | ok n =>
        refine .inr ⟨Text.lower word, ids, n, rfl, highest, ?_⟩
        simp only [ok_bind, highest]
        rfl

theorem countsOn_newId (r : ShapeRegistry) (word existing : Value) :
    r.CountsOn (r.newId word existing).2 := by
  obtain ⟨cause, failed⟩ | ⟨w, ids, n, -, counted, given⟩ := r.newId_cases word existing
  · rw [failed]
    exact .refl r
  · intro word'
    rw [given, counter_insert]
    split
    · next same =>
      rw [same]
      exact Nat.le_succ_of_le (le_of_highest counted).1
    · exact Nat.le_refl _

/-- A new id is in no use, was not counted before, and is counted from then on. -/
theorem newId_fresh {r r' : ShapeRegistry} {word existing id : Value}
    (given : r.newId word existing = (.ok id, r')) :
    (∀ ids, existing.items = .ok ids → id ∉ ids) ∧ ¬ r.HasCounted id ∧ r'.HasCounted id := by
  obtain ⟨cause, failed⟩ | ⟨w, ids, n, listed, counted, found⟩ := r.newId_cases word existing
  · cases failed.symm.trans given
  · obtain ⟨made, rfl⟩ := Prod.mk.inj (found.symm.trans given)
    obtain ⟨fits, rfl⟩ := idFor_eq_ok_iff.1 made
    obtain ⟨start, each⟩ := le_of_highest counted
    refine ⟨fun ids' listed' member => ?_, ?_, w, n + 1, rfl, ?_⟩
    · cases listed.symm.trans listed'
      obtain ⟨text, k, same, number, le⟩ := each _ member
      cases same
      rw [numberOf?_idText w fits] at number
      cases number
      exact absurd le (Nat.not_succ_le_self n)
    · rintro ⟨w', n', same, le⟩
      obtain ⟨rfl, rfl⟩ := idText_inj (Value.text.inj same)
      exact absurd (Nat.le_trans le start) (Nat.not_succ_le_self n)
    · exact Nat.le_of_eq ((counter_insert r w w (n + 1)).trans (if_pos rfl)).symm

/-! ### Making shapes -/

theorem idOr_of_absent (r : ShapeRegistry) {id : Value} (absent : id.isTruthy = false)
    (word existing : Value) : r.idOr word id existing = r.newId word existing :=
  if_neg (Bool.not_eq_true _ ▸ absent)

theorem countsOn_idOr (r : ShapeRegistry) (word id existing : Value) :
    r.CountsOn (r.idOr word id existing).2 := by
  unfold idOr
  split
  · exact .refl r
  · exact r.countsOn_newId word existing

theorem countsOn_create (r : ShapeRegistry) (word id existing : Value)
    (options : List (String × Value)) : r.CountsOn (r.create word id existing options).2 := by
  unfold create
  split
  · exact .refl r
  · exact r.countsOn_idOr word id existing

theorem create_snd_of_absent {r : ShapeRegistry} {word id : Value} {kind : FigureKind}
    (known : r.kindOf word = .ok kind) (absent : id.isTruthy = false) (existing : Value)
    (options : List (String × Value)) :
    (r.create word id existing options).2 = (r.newId word existing).2 := by
  unfold create
  rw [known, r.idOr_of_absent absent]

/-- A shape that is made without an id has a new one. -/
theorem newId_of_create {r : ShapeRegistry} {word id existing : Value}
    {options : List (String × Value)} {s : Shape} (absent : id.isTruthy = false)
    (made : (r.create word id existing options).1 = .ok s) :
    r.newId word existing = (.ok s.id, (r.create word id existing options).2) := by
  cases known : r.kindOf word with
  | error failure =>
    unfold create at made
    rw [known] at made
    cases made
  | ok kind =>
    rw [create_snd_of_absent known absent]
    unfold create at made
    rw [known, r.idOr_of_absent absent] at made
    obtain ⟨given, hgiven, made⟩ := bind_eq_ok_iff.1 made
    obtain ⟨figure, -, shape⟩ := bind_eq_ok_iff.1 (liftM_eq_ok_iff.1 made)
    cases shape
    exact Prod.ext (liftM_eq_ok_iff.1 hgiven) rfl

/-- A registry alone never finds an id in use. -/
theorem create_ne_duplicate (r : ShapeRegistry) (word id existing : Value)
    (options : List (String × Value)) (shown : String) :
    (r.create word id existing options).1 ≠ .error (.shape (.duplicate shown)) := by
  intro failed
  unfold create kindOf at failed
  split at failed
  · next failure unknown =>
    split at unknown
    · cases unknown
    · cases unknown
      cases failed
  · next kind _ =>
    dsimp only at failed
    cases given : (r.idOr word id existing).1 with
    | error cause =>
      rw [given] at failed
      cases failed
    | ok id =>
      rw [given, liftM_ok, ok_bind] at failed
      cases made : Shape.ofOptions kind id options with
      | error cause =>
        rw [made] at failed
        cases failed
      | ok s =>
        rw [made] at failed
        cases failed

/-! ### Runs -/

/-- The ids that the steps of a run give, in order. -/
def givenIn {σ υ : Type} (step : υ → σ → Option Value × σ) : List υ → σ → List Value
  | [], _ => []
  | u :: rest, s => (step u s).1.toList ++ givenIn step rest (step u s).2

/-- When no step lets a registry count back, and every id that is given was not counted before and is
counted from then on, no id is given twice in a run. -/
theorem nodup_givenIn {σ υ : Type} {step : υ → σ → Option Value × σ} (registry : σ → ShapeRegistry)
    (on : ∀ u s, (registry s).CountsOn (registry (step u s).2))
    (fresh : ∀ u s id, (step u s).1 = some id →
      ¬ (registry s).HasCounted id ∧ (registry (step u s).2).HasCounted id)
    (us : List υ) (s : σ) :
    (givenIn step us s).Nodup ∧ ∀ id ∈ givenIn step us s, ¬ (registry s).HasCounted id := by
  induction us generalizing s with
  | nil => exact ⟨.nil, nofun⟩
  | cons u rest ih =>
    obtain ⟨nodup, uncounted⟩ := ih (step u s).2
    have earlier : ∀ id ∈ givenIn step rest (step u s).2, ¬ (registry s).HasCounted id :=
      fun id member counted => uncounted id member (counted.mono (on u s))
    unfold givenIn
    cases given : (step u s).1 with
    | none => exact ⟨nodup, earlier⟩
    | some id =>
      obtain ⟨new, counted⟩ := fresh u s id given
      refine ⟨List.nodup_cons.2 ⟨fun again => uncounted id again counted, nodup⟩, ?_⟩
      exact List.forall_mem_cons.2 ⟨new, earlier⟩

/-- What a registry is asked for: a new id for a word, or a shape for one and options. Either comes
with the ids that are in use. -/
inductive Request where
  | number (word existing : Value)
  | shape (word id existing : Value) (options : List (String × Value))

namespace Request

/-- The ids that are in use. -/
def existing : Request → Value
  | .number _ existing => existing
  | .shape _ _ existing _ => existing

/-- The id that a registry generates for a request, if it generates one, and the registry after it.
For a shape of a known kind that comes without an id it generates one, even if the options are
refused then. -/
def serve : Request → ShapeRegistry → Option Value × ShapeRegistry
  | .number word existing, r => ((r.newId word existing).1.toOption, (r.newId word existing).2)
  | .shape word id existing options, r =>
    (if !id.isTruthy && (r.kindOf word).isOk then (r.newId word existing).1.toOption else none,
      (r.create word id existing options).2)

theorem countsOn_serve (q : Request) (r : ShapeRegistry) : r.CountsOn (q.serve r).2 := by
  cases q with
  | number word existing => exact r.countsOn_newId word existing
  | shape word id existing options => exact r.countsOn_create word id existing options

theorem newId_of_serve {q : Request} {r : ShapeRegistry} {id : Value}
    (given : (q.serve r).1 = some id) :
    ∃ word, r.newId word q.existing = (.ok id, (q.serve r).2) := by
  have generated {x : Except Misuse Value} (some : x.toOption = some id) : x = .ok id := by
    cases x with
    | error cause => cases some
    | ok other => exact congrArg Except.ok (Option.some.inj some)
  cases q with
  | number word existing => exact ⟨word, Prod.ext (generated given) rfl⟩
  | shape word asked existing options =>
    refine ⟨word, ?_⟩
    dsimp only [serve] at given ⊢
    split at given
    · next needed =>
      obtain ⟨absent, known⟩ := Bool.and_eq_true_iff.1 needed
      cases hkind : r.kindOf word with
      | error failure =>
        rw [hkind] at known
        cases known
      | ok kind =>
        have absent : asked.isTruthy = false := by simpa using absent
        exact Prod.ext (generated given) (create_snd_of_absent hkind absent _ _).symm
    · cases given

/-- A shape that is made without an id bears the one that is generated. -/
theorem serve_of_create {r : ShapeRegistry} {word id existing : Value}
    {options : List (String × Value)} {s : Shape} (absent : id.isTruthy = false)
    (made : (r.create word id existing options).1 = .ok s) :
    ((Request.shape word id existing options).serve r).1 = some s.id := by
  have numbered := newId_of_create absent made
  have known : (r.kindOf word).isOk = true := by
    cases hkind : r.kindOf word with
    | error failure =>
      unfold create at made
      rw [hkind] at made
      cases made
    | ok kind => rfl
  have needed : (!id.isTruthy && (r.kindOf word).isOk) = true := by rw [absent, known]; rfl
  dsimp only [serve]
  rw [if_pos needed, numbered]
  rfl

end Request

end ShapeRegistry

end Joinery
