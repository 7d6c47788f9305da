import Joinery.Proofs.Fails
import Joinery.Shape.Registry

/-!
# Numbers of ids

An id that was made for a word and a number is read as that number, and no id of one kind of figure
is one of another kind. The number of a new id is one above all that were counted.
-/
namespace Joinery

namespace Text

theorem digitValue?_of_isDigit {c : Char} (digit : c.isDigit = true) :
    digitValue? c = some (c.toNat - '0'.toNat) := by
  obtain ⟨low, high⟩ := (Bool.and_eq_true _ _).mp digit
  unfold digitValue?
  exact if_pos ((Bool.and_eq_true _ _).mpr ⟨low, high⟩)

/-- Decimal digits are read on behind a number as the base ten has them. -/
theorem foldlM_digits {cs : List Char} (digits : ∀ c ∈ cs, c.isDigit = true) (n : Nat) :
    cs.foldlM (fun n c => (digitValue? c).map (10 * n + ·)) n = some (Nat.ofDigitChars 10 cs n) := by
  induction cs generalizing n with
  | nil => rfl
  | cons c rest ih =>
    obtain ⟨first, others⟩ := List.forall_mem_cons.1 digits
    rw [List.foldlM_cons, digitValue?_of_isDigit first, Nat.ofDigitChars_cons]
    exact ih others _

theorem isDigit_of_mem_toDigits {n : Nat} {c : Char} (member : c ∈ Nat.toDigits 10 n) :
    c.isDigit = true :=
  Nat.isDigit_of_mem_toDigits (by decide) (by decide) member

theorem digitsValue?_toDigits (n : Nat) : digitsValue? (Nat.toDigits 10 n) = some n := by
  unfold digitsValue?
  rw [foldlM_digits fun c => isDigit_of_mem_toDigits, Nat.ofDigitChars_ten_toDigits]

end Text

namespace ShapeRegistry

theorem after?_append (start rest : List Char) : after? start (start ++ rest) = some rest := by
  induction start with
  | nil => rfl
  | cons c start ih => rw [List.cons_append, after?, if_pos rfl, ih]

/-- The id for a word and a number. -/
def idText (word : String) (n : Nat) : String := s!"{word}-{n}"

theorem toList_idText (word : String) (n : Nat) :
    (idText word n).toList = word.toList ++ ['-'] ++ Nat.toDigits 10 n := by
  have parts : idText word n = word ++ "-" ++ n.repr := rfl
  simp [parts, Nat.repr_eq_ofList_toDigits]

theorem idFor_eq_ok_iff {word : String} {n : Nat} {id : Value} :
    idFor word n = .ok id ↔ n < 10 ^ Misuse.digitLimit ∧ id = .text (idText word n) := by
  unfold idFor
  split
  · next long => exact iff_of_false nofun fun h => absurd h.1 (Nat.not_lt.2 long)
  · next fits =>
    rw [Except.ok.injEq, eq_comm]
    exact (and_iff_right (Nat.lt_of_not_le fits)).symm

theorem numberOf?_idText (word : String) {n : Nat} (fits : n < 10 ^ Misuse.digitLimit) :
    numberOf? word (idText word n) = .ok (some n) := by
  have last : (Nat.toDigits 10 n).getLast? ≠ some '\n' := fun h =>
    absurd (Text.isDigit_of_mem_toDigits (List.mem_of_getLast? h)) (by decide)
  have some_digits : (Nat.toDigits 10 n).isEmpty = false :=
    List.isEmpty_eq_false_iff.2 Nat.toDigits_ne_nil
  have short : (Nat.toDigits 10 n).length ≤ Misuse.digitLimit :=
    (Nat.length_toDigits_le_iff (by decide) (by decide)).2 fits
  unfold numberOf?
  rw [toList_idText, after?_append, Option.getD_some]
  simp only [if_neg last, Text.digitsValue?_toDigits, some_digits, Bool.false_eq_true, if_false,
    if_neg (Nat.not_lt.2 short)]

theorem numberOf?_idText_of_ne {kind kind' : FigureKind} (other : kind ≠ kind') (n : Nat) :
    numberOf? kind.label (idText kind'.label n) = .ok none := by
  have apart : after? (kind.label.toList ++ ['-'])
      (kind'.label.toList ++ ['-'] ++ Nat.toDigits 10 n) = none := by
    cases kind <;> cases kind' <;> first | exact absurd rfl other | rfl
  unfold numberOf?
  rw [toList_idText, apart]
  rfl

/-! ### Counting on -/

theorem highest_append (word : String) (n : Nat) (ids : List Value) (id : Value) :
    highest word n (ids ++ [id]) = (do
      let m ← highest word n ids
      return max m ((← numberOf? word (← id.asText)).getD 0)) := by
  unfold highest
  rw [List.foldlM_append]
  simp only [List.foldlM_cons, List.foldlM_nil, bind_pure]

theorem highest_cons_eq_ok_iff {word : String} {n m : Nat} {id : Value} {rest : List Value} :
    highest word n (id :: rest) = .ok m ↔ ∃ text k, id = .text text ∧
      numberOf? word text = .ok k ∧ highest word (max n (k.getD 0)) rest = .ok m := by
  constructor
  · intro success
    obtain ⟨next, first, success⟩ := bind_eq_ok_iff.1 success
    obtain ⟨text, htext, first⟩ := bind_eq_ok_iff.1 first
    obtain ⟨k, hk, hnext⟩ := bind_eq_ok_iff.1 first
    cases hnext
    refine ⟨text, k, ?_, hk, success⟩
    cases id <;> cases htext
    rfl
  · rintro ⟨text, k, rfl, hk, success⟩
    exact bind_eq_ok_iff.2 ⟨_, bind_eq_ok_iff.2 ⟨text, rfl, bind_eq_ok_iff.2 ⟨k, hk, rfl⟩⟩, success⟩

/-- Counting ends no lower than it begins, and no lower than the number of an id. -/
theorem le_of_highest {word : String} {n m : Nat} {ids : List Value}
    (success : highest word n ids = .ok m) :
    n ≤ m ∧ ∀ id ∈ ids, ∃ text k, id = .text text ∧ numberOf? word text = .ok k ∧ k.getD 0 ≤ m := by
  induction ids generalizing n with
  | nil =>
    cases success
    exact ⟨Nat.le_refl _, nofun⟩
  | cons id rest ih =>
    obtain ⟨text, k, rfl, hk, success⟩ := highest_cons_eq_ok_iff.1 success
    obtain ⟨start, each⟩ := ih success
    refine ⟨Nat.le_trans (Nat.le_max_left _ _) start, List.forall_mem_cons.2 ⟨?_, each⟩⟩
    exact ⟨text, k, rfl, hk, Nat.le_trans (Nat.le_max_right _ _) start⟩

/-- From where all ids are counted, counting them again does not go on. -/
theorem highest_of_le {word : String} {n m c : Nat} {ids : List Value}
    (success : highest word n ids = .ok m) (le : m ≤ c) : highest word c ids = .ok c := by
  induction ids generalizing n with
  | nil => rfl
  | cons id rest ih =>
    obtain ⟨text, k, rfl, hk, success⟩ := highest_cons_eq_ok_iff.1 success
    have counted : k.getD 0 ≤ c :=
      Nat.le_trans (Nat.le_trans (Nat.le_max_right _ _) (le_of_highest success).1) le
    refine highest_cons_eq_ok_iff.2 ⟨text, k, rfl, hk, ?_⟩
    rw [Nat.max_eq_left counted]
    exact ih success

/-- How far the ids of a word are counted that are given by a registry or are in use. -/
def counted (r : ShapeRegistry) (word : String) (ids : List Value) : Except Misuse Nat :=
  highest word ((r.counters.find? word).getD 0) ids

theorem lower_label (kind : FigureKind) : Text.lower kind.label = kind.label := by
  cases kind <;> decide +kernel

theorem newId_eq (r : ShapeRegistry) (kind : FigureKind) (ids : List Value) :
    r.newId (.text kind.label) (.list ids) =
      match r.counted kind.label ids with
      | .error cause => (.error cause, r)
      | .ok n => (idFor kind.label (n + 1),
          { r with counters := r.counters.insert kind.label (n + 1) }) := by
  have word : (Value.text kind.label).asWord = .ok kind.label := rfl
  have items : (Value.list ids).items = .ok ids := rfl
  unfold newId counted
  rw [word, items]
  simp only [ok_bind, lower_label]
  cases highest kind.label ((r.counters.find? kind.label).getD 0) ids with
  | error cause => rfl
  | ok n => rfl

end ShapeRegistry

end Joinery
