import Joinery.Text.CaseTable

/-!
# Letter case

Lower, upper and title case of text over all of Unicode. Each character has its own image, which may
be several characters; only the capital sigma looks at its neighbours, for it is written differently
at the end of a word.
-/
namespace Joinery.Text

/-- The image of a code point under mapping rows; itself when no row has it. -/
def mapPoint (rows : List (Nat × Nat × Nat × Int)) (n : Nat) : Nat :=
  match rows.find? fun (first, last, step, _) => first ≤ n && n ≤ last && (n - first) % step == 0 with
  | some (_, _, _, shift) => (n + shift : Int).toNat
  | none => n

/-- The image of a character under mapping rows and expansions. -/
def mapChar (rows : List (Nat × Nat × Nat × Int)) (expansions : List (Nat × List Nat)) (c : Char) :
    List Char :=
  match expansions.lookup c.toNat with
  | some image => image.map Char.ofNat
  | none => [Char.ofNat (mapPoint rows c.toNat)]

def inRanges (ranges : List (Nat × Nat)) (c : Char) : Bool :=
  ranges.any fun (first, last) => first ≤ c.toNat && c.toNat ≤ last

/-- Whether the nearest character that is not passed over has case. -/
def casedNext (cs : List Char) : Bool :=
  match cs.dropWhile (inRanges ignorableRanges) with
  | c :: _ => inRanges casedRanges c
  | [] => false

/-- Lower case of one character between the reversed text before it and the text after it. -/
def lowerChar (before : List Char) (c : Char) (after : List Char) : List Char :=
  if c.toNat < 0x80 then [c.toLower]
  else if c = 'Σ' then if casedNext before && !casedNext after then ['ς'] else ['σ']
  else mapChar lowerRows lowerExpansions c

/-- Lower case of a text that follows the reversed text `before`. -/
def lowerFrom (before : List Char) : List Char → List Char
  | [] => []
  | c :: rest => lowerChar before c rest ++ lowerFrom (c :: before) rest

/-- Lower case of a text. -/
def lowerChars (cs : List Char) : List Char := lowerFrom [] cs

/-- Upper case of a text. -/
def upperChars (cs : List Char) : List Char :=
  cs.flatMap fun c =>
    if c.toNat < 0x80 then [c.toUpper] else mapChar upperRows upperExpansions c

/-- Title case of the first character and lower case of the others. -/
def capitalizeChars : List Char → List Char
  | [] => []
  | c :: rest =>
    (if c.toNat < 0x80 then [c.toUpper] else mapChar titleRows titleExpansions c) ++
      lowerFrom [c] rest

/-- Lower case of a text. -/
def lower (s : String) : String := String.ofList (lowerChars s.toList)

/-- Upper case of a text. -/
def upper (s : String) : String := String.ofList (upperChars s.toList)

end Joinery.Text
