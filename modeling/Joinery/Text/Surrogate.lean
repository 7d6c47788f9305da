/-!
# Lone surrogates

A document may name half of a surrogate pair alone, which is no character. Such halves stand at the
end of the last private plane, where no text has characters of its own, and are written as the code
units that they are.
-/
namespace Joinery.Text

/-- How far behind its code unit half of a pair stands. -/
def surrogateShift : Nat := 0x100000

/-- Whether a code unit is half of a pair. -/
def isSurrogate (unit : Nat) : Bool := 0xD800 ≤ unit && unit ≤ 0xDFFF

/-- The character for a code unit or a code point. -/
def charOf (n : Nat) : Char :=
  if isSurrogate n then Char.ofNat (n + surrogateShift) else Char.ofNat n

/-- The code point of a character; that of half of a pair is its code unit. -/
def codeOf (c : Char) : Nat :=
  if isSurrogate (c.toNat - surrogateShift) then c.toNat - surrogateShift else c.toNat

/-- Whether a character is half of a pair. -/
def isHalf (c : Char) : Bool := isSurrogate (codeOf c)

/-- Whether a character is half of a pair that stands for a byte of a path. -/
def isByteOfPath (c : Char) : Bool := 0xDC80 ≤ codeOf c && codeOf c ≤ 0xDCFF

end Joinery.Text
