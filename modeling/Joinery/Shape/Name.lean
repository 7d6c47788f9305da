import Joinery.Text.Case

/-!
# Names of properties

Properties are named in words joined by underscores, and in documents by words that begin with a
capital letter, save the first.
-/
namespace Joinery.Shape

/-- The words of a name between underscores; there is always one, which may be empty. -/
def splitWords : List Char → List (List Char)
  | [] => [[]]
  | c :: rest =>
    match splitWords rest with
    | [] => [[c]]
    | word :: words => if c = '_' then [] :: word :: words else (c :: word) :: words

/-- The name in documents: `center_x` becomes `centerX`. -/
def camelChars (cs : List Char) : List Char :=
  match splitWords cs with
  | [] => []
  | head :: rest => head ++ rest.flatMap Text.capitalizeChars

/-- Puts an underscore before every ASCII capital letter. -/
def separate : List Char → List Char
  | [] => []
  | c :: rest => if 'A' ≤ c && c ≤ 'Z' then '_' :: c :: separate rest else c :: separate rest

/-- The name in the library: `centerX` becomes `center_x`. -/
def snakeChars : List Char → List Char
  | [] => []
  | c :: rest => Text.lowerChars (c :: separate rest)

def camel (name : String) : String := String.ofList (camelChars name.toList)

def snake (name : String) : String := String.ofList (snakeChars name.toList)

end Joinery.Shape
