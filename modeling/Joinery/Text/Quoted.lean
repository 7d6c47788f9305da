import Joinery.Text.Printable
import Joinery.Text.Surrogate

/-!
# Quoted text

Text as messages show it: between single quotes, or double quotes when it holds a single quote and
no double one. Backslashes and the quote in use are escaped, and so is all that is not printable.
-/
namespace Joinery.Text

/-- The digits of a code point in base sixteen, padded to a width. -/
def hexDigits (width n : Nat) : List Char :=
  let digits := Nat.toDigits 16 n
  List.replicate (width - digits.length) '0' ++ digits

/-- One character between the given quotes. -/
def quoteChar (quote c : Char) : List Char :=
  if c = quote || c = '\\' then ['\\', c]
  else if c = '\n' then ['\\', 'n']
  else if c = '\r' then ['\\', 'r']
  else if c = '\t' then ['\\', 't']
  else if isPrintable c then [c]
  else if c.toNat < 0x100 then '\\' :: 'x' :: hexDigits 2 c.toNat
  else if codeOf c < 0x10000 then '\\' :: 'u' :: hexDigits 4 (codeOf c)
  else '\\' :: 'U' :: hexDigits 8 c.toNat

/-- The quote that a text is shown between. -/
def quoteFor (cs : List Char) : Char := if '\'' ∈ cs && !('"' ∈ cs) then '"' else '\''

/-- A text between quotes. -/
def quoted (s : String) : String :=
  let cs := s.toList
  let quote := quoteFor cs
  String.ofList (quote :: cs.flatMap (quoteChar quote) ++ [quote])

/-- Words with commas between them. -/
def listed (words : List String) : String := ", ".intercalate words

end Joinery.Text
