import Joinery.Proofs.Text.Case
import Joinery.Settings.Basic

/-!
# Levels and the nodes that name them

A level is named by its word in any case. Whatever else stands for a level is shown as a text that
no level bears: it has a digit or a sign in it, or it is one of the few words for null, truth values
and doubles that are no numbers.
-/
namespace Joinery

/-! ### Texts of nodes -/

namespace Text

theorem hasMark_of_mem {s : String} {c : Char} (member : c ∈ s.toList) (ascii : c.toNat < 128)
    (symbol : c.isAlpha = false) : HasMark s :=
  ⟨c, member, ascii, symbol⟩

theorem hasMark_int (i : Int) : HasMark (toString i) := by
  cases i with
  | ofNat n =>
    have digits : (toString (Int.ofNat n)).toList = Nat.toDigits 10 n := by
      change n.repr.toList = _
      rw [Nat.repr_eq_ofList_toDigits, String.toList_ofList]
    obtain ⟨c, member⟩ := List.exists_mem_of_ne_nil _ (Nat.toDigits_ne_nil (n := n) (b := 10))
    exact ⟨c, digits ▸ member,
      isMark_of_isDigit (Nat.isDigit_of_mem_toDigits (by decide) (by decide) member)⟩
  | negSucc n =>
    have sign : '-' ∈ (toString (Int.negSucc n)).toList := by
      change '-' ∈ ("-" ++ n.succ.repr).toList
      rw [String.toList_append]
      exact List.mem_append_left _ (.head _)
    exact hasMark_of_mem sign (by decide) (by decide)

end Text

open Text

/-- A decimal number is laid out with a point, or with a sign before its exponent. -/
theorem Decimal.mark_mem_write (layout : Layout) (pointed : layout.wholePoint = true) (s : Scaled) :
    ∃ c ∈ layout.write s, IsMark c := by
  unfold Layout.write
  dsimp only
  split
  · refine ⟨if s.exponent + (digitsOf s.digits).length - 1 < 0 then '-' else '+', ?_, ?_⟩
    · exact List.mem_append_right _ (.tail _ (.head _))
    · split <;> exact ⟨by decide, by decide⟩
  · refine ⟨'.', ?_, by decide, by decide⟩
    split
    · exact List.mem_append_right _ (.head _)
    · split
      · exact .tail _ (.head _)
      · exact List.mem_append_right _ (.head _)

theorem LogLevel.upper_ne_label {s : String} (mark : HasMark s) (level : LogLevel) :
    upper s ≠ level.label := by
  have letters : level.label.toList.all Char.isAlpha = true := by
    cases level <;> decide
  intro same
  obtain ⟨c, member, isMark⟩ := mark
  have letter := List.all_eq_true.1 letters c (same ▸ mem_upper_of_isMark member isMark)
  rw [isMark.2] at letter
  cases letter

/-- The words that are shown for what is neither a text nor a number, and for odd doubles. -/
def Value.oddWords : List String := ["None", "True", "False", "nan", "inf"]

theorem LogLevel.upper_oddWord_ne_label {s : String} (odd : s ∈ Value.oddWords)
    (level : LogLevel) : upper s ≠ level.label := by
  have all : ∀ s ∈ Value.oddWords, ∀ level ∈ LogLevel.all, upper s ≠ level.label := by
    decide +kernel
  exact all s odd level (by cases level <;> decide)

theorem Binary64.shown_text (x : Binary64) : HasMark x.text ∨ x.text ∈ Value.oddWords := by
  cases x with
  | nan => exact .inr (by decide)
  | infinite negative =>
    cases negative with
    | false => exact .inr (by decide)
    | true => exact .inl (hasMark_of_mem (c := '-') (by decide) (by decide) (by decide))
  | finite negative units canonical =>
    left
    obtain ⟨c, member, mark⟩ :=
      Decimal.mark_mem_write exactLayout rfl (Decimal.shortest units)
    refine ⟨c, ?_, mark⟩
    change c ∈ (String.ofList (Decimal.signed negative _)).toList
    rw [String.toList_ofList, Decimal.signed]
    split
    · exact .tail _ member
    · exact member

theorem Value.shown_of_ne_text {v : Value} (other : ∀ s, v ≠ .text s) :
    HasMark v.shown ∨ v.shown ∈ Value.oddWords := by
  cases v with
  | null => exact .inr (by decide)
  | bool b => cases b <;> exact .inr (by decide)
  | int i => exact .inl (hasMark_int i)
  | float x => exact x.shown_text
  | text s => exact absurd rfl (other s)
  | list items =>
    have begins : '[' ∈ ("[" ++ quotedItems items ++ "]").toList := by simp
    exact .inl (hasMark_of_mem begins (by decide) (by decide))
  | object fields =>
    have begins : '\x7b' ∈ ("\x7b" ++ quotedFields fields ++ "\x7d").toList := by simp
    exact .inl (hasMark_of_mem begins (by decide) (by decide))

theorem Yaml.Stamp.hasMark_shown (s : Stamp) : HasMark s.shown := by
  unfold shown
  dsimp only
  split
  · have space : ' ' ∈ (toString " ").toList := by decide
    exact hasMark_of_mem (c := ' ') (by simp [space]) (by decide) (by decide)
  · have dash : '-' ∈ (toString "-").toList := by decide
    exact hasMark_of_mem (c := '-') (by simp [dash]) (by decide) (by decide)

theorem Yaml.Bytes.hasMark_quoted (data : List UInt8) : HasMark (quoted data) := by
  have quote (cs : List Char) : IsMark (quoteFor cs) := by
    unfold quoteFor
    split <;> exact ⟨by decide, by decide⟩
  refine ⟨_, ?_, quote (data.map fun b => Char.ofNat b.toNat)⟩
  rw [quoted, String.toList_ofList]
  exact .tail _ (.head _)

/-- What is no text is shown with a mark in it, or as one of a few words. -/
theorem Node.shown_of_ne_text {n : Node} (other : ∀ s, n ≠ .text s) :
    HasMark n.shown ∨ n.shown ∈ Value.oddWords := by
  cases n with
  | scalar v => exact Value.shown_of_ne_text fun s same => other s (same ▸ rfl)
  | stamp s => exact .inl s.hasMark_shown
  | bytes data => exact .inl (Yaml.Bytes.hasMark_quoted data)
  | list items =>
    have begins : '[' ∈ ("[" ++ quotedItems items ++ "]").toList := by simp
    exact .inl (hasMark_of_mem begins (by decide) (by decide))
  | mapping entries =>
    have begins : '\x7b' ∈ ("\x7b" ++ quotedEntries entries ++ "\x7d").toList := by simp
    exact .inl (hasMark_of_mem begins (by decide) (by decide))
  | pair a b =>
    have begins : '(' ∈ ("(" ++ quoted a ++ ", " ++ quoted b ++ ")").toList := by simp
    exact .inl (hasMark_of_mem begins (by decide) (by decide))
  | set members =>
    cases members with
    | nil => exact .inl (hasMark_of_mem (c := '(') (by decide) (by decide) (by decide))
    | cons first rest =>
      have begins : '\x7b' ∈ ("\x7b" ++ quotedItems (first :: rest) ++ "\x7d").toList := by simp
      exact .inl (hasMark_of_mem begins (by decide) (by decide))

end Joinery
