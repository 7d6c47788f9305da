import Joinery.Text.Case

/-!
# Case of ASCII text

Among the characters of ASCII only letters have case. Lower case, upper case and title case of a
text of ASCII go character by character, and what is no letter stays.
-/
namespace Joinery.Text

/-- What holds of the first 128 characters holds of all that are in ASCII. -/
theorem of_ascii {P : Char → Prop} (all : ∀ n < 128, P (Char.ofNat n)) {c : Char}
    (ascii : c.toNat < 128) : P c :=
  c.ofNat_toNat ▸ all c.toNat ascii

theorem ascii_of_isLower {c : Char} (small : c.isLower = true) : c.toNat < 128 := by
  have high : c.val ≤ 'z'.val := of_decide_eq_true ((Bool.and_eq_true _ _).mp small).2
  have bound : c.toNat ≤ 122 := UInt32.le_iff_toNat_le.1 high
  omega

theorem ascii_of_isDigit {c : Char} (digit : c.isDigit = true) : c.toNat < 128 := by
  simp only [Char.isDigit, Bool.and_eq_true, decide_eq_true_eq, UInt32.le_iff_toNat_le] at digit
  have high : c.toNat ≤ 57 := digit.2
  omega

/-! ### Marks -/

/-- A character of ASCII that is no letter. -/
def IsMark (c : Char) : Prop := c.toNat < 128 ∧ c.isAlpha = false

/-- A text with a character that is no letter. -/
def HasMark (s : String) : Prop := ∃ c ∈ s.toList, IsMark c

theorem isMark_of_isDigit {c : Char} (digit : c.isDigit = true) : IsMark c :=
  have ascii := ascii_of_isDigit digit
  ⟨ascii, of_ascii (P := fun c => c.isDigit = true → c.isAlpha = false) (by decide) ascii digit⟩

/-- Upper case keeps marks. -/
theorem mem_upper_of_isMark {s : String} {c : Char} (member : c ∈ s.toList) (mark : IsMark c) :
    c ∈ (upper s).toList := by
  have same : c.toUpper = c :=
    of_ascii (P := fun c => c.isAlpha = false → c.toUpper = c) (by decide) mark.1 mark.2
  rw [upper, String.toList_ofList, upperChars, List.mem_flatMap]
  refine ⟨c, member, ?_⟩
  rw [if_pos mark.1, same]
  exact .head _

/-! ### Lower case and title case -/

theorem lowerFrom_of_ascii {cs : List Char} (ascii : ∀ c ∈ cs, c.toNat < 128)
    (before : List Char) : lowerFrom before cs = cs.map Char.toLower := by
  induction cs generalizing before with
  | nil => rfl
  | cons c rest ih =>
    obtain ⟨first, others⟩ := List.forall_mem_cons.1 ascii
    have here : lowerChar before c rest = [c.toLower] := if_pos first
    rw [lowerFrom, here, ih others]
    rfl

theorem lowerChars_of_ascii {cs : List Char} (ascii : ∀ c ∈ cs, c.toNat < 128) :
    lowerChars cs = cs.map Char.toLower :=
  lowerFrom_of_ascii ascii []

theorem capitalizeChars_of_ascii {c : Char} {rest : List Char} (first : c.toNat < 128)
    (others : ∀ c ∈ rest, c.toNat < 128) :
    capitalizeChars (c :: rest) = c.toUpper :: rest.map Char.toLower := by
  rw [capitalizeChars, if_pos first, lowerFrom_of_ascii others]
  rfl

end Joinery.Text
