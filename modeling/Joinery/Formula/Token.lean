import Joinery.Formula.Diagnostic
import Joinery.Number.Reading
import Joinery.Text.Blank
import Joinery.Value.Basic

/-!
# Tokens

The words of a formula: numbers, names, operators, parentheses and commas, with blanks anywhere
between them. At each place the longest word counts. Names and digits are ASCII. The list of tokens
ends with one that marks the end of the text.
-/
namespace Joinery.Formula

inductive Symbol where
  | number (value : Binary64)
  | name (text : String)
  | operator (op : Operator)
  | opening
  | closing
  | comma
  | finish
  deriving DecidableEq

structure Token where
  symbol : Symbol
  lexeme : String
  span : Span
  deriving DecidableEq

namespace Symbol

/-- The name of a sort of token. -/
def sort : Symbol → String
  | .number _ => "NUMBER"
  | .name _ => "IDENTIFIER"
  | .operator .plus => "PLUS"
  | .operator .minus => "MINUS"
  | .operator .times => "STAR"
  | .operator .over => "SLASH"
  | .operator (.other symbol) => symbol
  | .opening => "LPAREN"
  | .closing => "RPAREN"
  | .comma => "COMMA"
  | .finish => "EOF"

/-- What a token holds: a number, or the text of what it stands for; the end holds nothing. -/
def toValue : Symbol → Value
  | .number x => .float x
  | .name text => .text text
  | .operator op => .text op.symbol
  | .opening => .text "("
  | .closing => .text ")"
  | .comma => .text ","
  | .finish => .null

/-- The token in listings. -/
def listed : Symbol → String
  | .number x => s!"NUMBER({x.text})"
  | .name text => s!"IDENTIFIER({Text.quoted text})"
  | symbol => symbol.sort

end Symbol

namespace Token

/-- What a token is called in messages. -/
def describe (t : Token) : String :=
  match t.symbol with
  | .finish => "end of expression"
  | _ => s!"'{t.lexeme}'"

/-- The token that marks the end of a text of the given length. -/
def finishAt (length : Nat) : Token := ⟨.finish, "", ⟨length, length⟩⟩

end Token

/-! ### Words -/

def isDigit (c : Char) : Bool := '0' ≤ c && c ≤ '9'

def isLetter (c : Char) : Bool := ('a' ≤ c && c ≤ 'z') || ('A' ≤ c && c ≤ 'Z') || c == '_'

def isNameChar (c : Char) : Bool := isLetter c || isDigit c

/-- The symbol that a single character is. -/
def symbolOf? : Char → Option Symbol
  | '+' => some (.operator .plus)
  | '-' => some (.operator .minus)
  | '*' => some (.operator .times)
  | '/' => some (.operator .over)
  | '(' => some .opening
  | ')' => some .closing
  | ',' => some .comma
  | _ => none

/-- The digits at the front, and a point with the digits after it. -/
def numberWord (cs : List Char) : List Char :=
  cs.takeWhile isDigit ++
    match cs.dropWhile isDigit with
    | '.' :: rest => '.' :: rest.takeWhile isDigit
    | _ => []

/-- The double that a number word stands for. -/
def numberValue (word : List Char) : Binary64 :=
  let whole := word.takeWhile isDigit
  let fraction := (word.dropWhile isDigit).drop 1
  let digits := (whole ++ fraction).foldl (fun n c => 10 * n + (c.toNat - '0'.toNat)) 0
  Reading.double false digits (-fraction.length)

/-- The longest word at the front of a text, and what it is. -/
def word? : List Char → Option (Symbol × List Char)
  | [] => none
  | c :: rest =>
    if isDigit c || c == '.' then
      let word := numberWord (c :: rest)
      if word = ['.'] then none else some (.number (numberValue word), word)
    else if isLetter c then
      let word := c :: rest.takeWhile isNameChar
      some (.name (String.ofList word), word)
    else (symbolOf? c).map fun symbol => (symbol, [c])

/-- A word has at least one character. -/
theorem word?_ne_nil {cs word : List Char} {symbol : Symbol}
    (h : word? cs = some (symbol, word)) : word ≠ [] := by
  cases cs with
  | nil => simp [word?] at h
  | cons c rest =>
    simp only [word?] at h
    split at h
    · next digit =>
      split at h
      · simp at h
      · obtain ⟨-, rfl⟩ := Prod.mk.injEq .. ▸ Option.some.injEq .. ▸ h
        by_cases hd : isDigit c = true
        · simp [numberWord, hd]
        · have hc : c = '.' := by simpa [hd] using digit
          subst hc
          simp [numberWord, hd]
    · split at h
      · obtain ⟨-, rfl⟩ := Prod.mk.injEq .. ▸ Option.some.injEq .. ▸ h
        simp
      · obtain ⟨s, -, hs⟩ := Option.map_eq_some_iff.1 h
        obtain ⟨-, rfl⟩ := Prod.mk.injEq .. ▸ hs
        simp

/-! ### Scanning -/

/-- The tokens of the text that starts at an offset, and the place of the first character that no
token starts with, if there is one. -/
def scanFrom (offset : Nat) (cs : List Char) : List Token × Option (Char × Nat) :=
  let blanks := cs.takeWhile Text.isBlank
  let start := offset + blanks.length
  match _h : cs.dropWhile Text.isBlank with
  | [] => ([Token.finishAt start], none)
  | c :: rest =>
    match _hw : word? (c :: rest) with
    | none => ([], some (c, start))
    | some (symbol, word) =>
      let stop := start + word.length
      let (tokens, failure) := scanFrom stop ((c :: rest).drop word.length)
      (⟨symbol, String.ofList word, ⟨start, stop⟩⟩ :: tokens, failure)
termination_by cs.length
decreasing_by
  have hne := word?_ne_nil _hw
  have hlen : (c :: rest).length ≤ cs.length := by
    rw [← _h]; exact (List.dropWhile_sublist _).length_le
  have : 0 < word.length := List.length_pos_iff.2 hne
  simp only [List.length_drop, List.length_cons] at *
  omega

/-- The error for a character that no token starts with. -/
def unexpectedCharacter (source : String) (c : Char) (position : Nat) : Error :=
  ⟨.unexpectedCharacter c position, some ⟨position, position + 1⟩, some source⟩

/-- The tokens of a text up to the first character that no token starts with, and the error for
it. -/
def scan (source : String) : List Token × Option Error :=
  let (tokens, failure) := scanFrom 0 source.toList
  (tokens, failure.map fun (c, position) => unexpectedCharacter source c position)

/-- All tokens of a text. -/
def tokenize (source : String) : Except Error (List Token) :=
  match scan source with
  | (tokens, none) => .ok tokens
  | (_, some error) => .error error

end Joinery.Formula
