import Joinery.Number.Decimal
import Joinery.Text.Quoted
import Joinery.Text.Surrogate
import Joinery.Yaml.Node
import Joinery.Yaml.Place
import Joinery.Yaml.Scalar

/-!
# Writing YAML

Mappings in block style, with two more spaces for every level. A scalar is written plain where that
reads back as the same scalar, between single quotes where it fits on such a line, and else between
double quotes with escapes; characters beyond ASCII are escaped. Long texts are broken at spaces
behind column 80. A key that does not fit on one line stands behind a question mark. A pair is
written as a list of two; bytes and sets bear their tags.
-/
namespace Joinery.Yaml

/-! ### Which quotes a text needs -/

/-- Whether the first character of a text has a meaning of its own in block style. -/
def startsMarked : List Char → Bool
  | [] => false
  | c :: rest =>
    "#,[]\x7b\x7d&*!|>'\"%@`".toList.contains c ||
      ((c = '?' || c = ':' || c = '-') && startsWithGap rest)

/-- Whether a colon that ends a key, or the start of a comment, stands behind the first character,
which follows a gap or not. -/
def hasMark : List Char → Bool
  | c :: d :: rest =>
    (d = ':' && startsWithGap rest) || (d = '#' && isGap c) || hasMark (d :: rest)
  | _ => false

/-- Whether a character needs an escape. -/
def needsEscape (c : Char) : Bool := !(c = '\n' || (0x20 ≤ c.toNat && c.toNat ≤ 0x7E))

/-- Whether a text has the first kind of character right before the second. -/
def hasPair (first second : Char → Bool) : List Char → Bool
  | c :: d :: rest => (first c && second d) || hasPair first second (d :: rest)
  | _ => false

def isSpace (c : Char) : Bool := c == ' '

/-- Whether spaces or line breaks stand at an end of a text. -/
def hasLooseEnds (cs : List Char) : Bool :=
  let isLoose c := isSpace c || isBreak c
  cs.head?.any isLoose || cs.getLast?.any isLoose

/-- Whether a text can stand between single quotes. -/
def fitsSingle (cs : List Char) : Bool :=
  !cs.any needsEscape && !hasPair isSpace isBreak cs && !hasPair isBreak isSpace cs

/-- Whether a text can stand without quotes and reads back as a text. -/
def fitsPlain (cs : List Char) : Bool :=
  let isBorder := ['-', '-', '-'].isPrefixOf cs || ['.', '.', '.'].isPrefixOf cs
  Tag.ofSpelling (String.ofList cs) = .text && fitsSingle cs && !hasLooseEnds cs &&
    !cs.any isBreak && !isBorder && !startsMarked cs && !hasMark cs

/-! ### Scalars -/

/-- The last column in which a line may end without being broken at the next space. -/
def lineWidth : Nat := 80

/-- The start of a line with an indentation. -/
def lineStart (indent : Nat) : List Char := '\n' :: List.replicate indent ' '

/-- How a text is laid out: whether it is broken behind the last column, and the indentation with
which it goes on. -/
structure Layout where
  breaks : Bool
  indent : Nat

/-- A text, plain or between single quotes, from the character behind `before` on. Single spaces that
stand inside of it become line breaks behind the last column; its own line breaks are doubled, and
so are quotes, unless it is plain. -/
def singleFrom (isPlain : Bool) (layout : Layout) : Option Char → Nat → List Char → List Char
  | _, _, [] => []
  | before, column, c :: rest =>
    let indent := layout.indent
    if c = '\n' then
      let gap := if before = some '\n' then ['\n'] else ['\n', '\n']
      if rest.head? = some '\n' then gap ++ singleFrom isPlain layout (some c) 0 rest
      else gap ++ List.replicate indent ' ' ++ singleFrom isPlain layout (some c) indent rest
    else if c = ' ' && layout.breaks && lineWidth < column && before.any (!isSpace ·) &&
        rest.head?.any (!isSpace ·) then
      lineStart indent ++ singleFrom isPlain layout (some c) indent rest
    else if c = '\'' && !isPlain then
      '\'' :: '\'' :: singleFrom isPlain layout (some c) (column + 2) rest
    else c :: singleFrom isPlain layout (some c) (column + 1) rest

/-- The letters of escapes that have one. -/
def shortEscapes : List (Char × Char) :=
  [('\x00', '0'), ('\x07', 'a'), ('\x08', 'b'), ('\t', 't'), ('\n', 'n'), ('\x0b', 'v'),
    ('\x0c', 'f'), ('\r', 'r'), ('\x1b', 'e'), ('"', '"'), ('\\', '\\'), ('\x85', 'N'),
    ('\xa0', '_'), ('\u2028', 'L'), ('\u2029', 'P')]

/-- The escape of a character between double quotes; none when it stands for itself. -/
def escape? (c : Char) : Option (List Char) :=
  let n := Text.codeOf c
  let code (letter : Char) (width : Nat) :=
    '\\' :: letter :: (Text.hexDigits width n).map Char.toUpper
  match shortEscapes.lookup c with
  | some letter => some ['\\', letter]
  | none =>
    if 0x20 ≤ n && n ≤ 0x7E then none
    else if n < 0x100 then some (code 'x' 2)
    else if n < 0x10000 then some (code 'u' 4)
    else some (code 'U' 8)

/-- Where in a text between double quotes a character stands. -/
inductive Standing where
  | first | inside | behindEscape
  deriving DecidableEq

/-- A text between double quotes, from its start or a later character on. Behind the last column
lines are broken before spaces and around escapes, save at the ends of the text. -/
def doubleFrom (layout : Layout) (standing : Standing) (column : Nat) : List Char → List Char
  | [] => []
  | c :: rest =>
    let mayBreak := layout.breaks && standing ≠ .first && !rest.isEmpty
    let guard (next : Option Char) := if next = some ' ' then ['\\'] else []
    match escape? c with
    | none =>
      if mayBreak && (c = ' ' || standing = .behindEscape) && lineWidth < column then
        let guard := guard (some c)
        '\\' :: lineStart layout.indent ++ guard ++
          c :: doubleFrom layout .inside (layout.indent + guard.length + 1) rest
      else c :: doubleFrom layout .inside (column + 1) rest
    | some text =>
      let column := column + text.length
      if mayBreak && lineWidth + 1 < column then
        let guard := guard rest.head?
        text ++ '\\' :: lineStart layout.indent ++ guard ++
          doubleFrom layout .behindEscape (layout.indent + guard.length) rest
      else text ++ doubleFrom layout .behindEscape column rest

/-- A text that starts in a column. -/
def textToken (layout : Layout) (column : Nat) (s : String) : List Char :=
  let cs := s.toList
  if fitsPlain cs then singleFrom true layout none column cs
  else if fitsSingle cs then '\'' :: singleFrom false layout none (column + 1) cs ++ ['\'']
  else '"' :: doubleFrom layout .first (column + 1) cs ++ ['"']

/-- A double; an exponent has a point before it. -/
def floatToken : Binary64 → String
  | .nan => ".nan"
  | .infinite negative => if negative then "-.inf" else ".inf"
  | x =>
    let cs := x.text.toList
    if '.' ∈ cs then x.text
    else String.ofList (cs.flatMap fun c => if c = 'e' then ['.', '0', 'e'] else [c])

/-- The text of a node that holds no others, without quotes; bytes have none on one line. -/
def scalarText : Node → String
  | .scalar (.text s) => s
  | .scalar (.float x) => floatToken x
  | .scalar (.bool b) => if b then "true" else "false"
  | .scalar (.int i) => toString i
  | .stamp s => s.shown
  | .bytes _ => ""
  | _ => "null"

/-- Bytes, their digits on lines of their own. -/
def bytesToken (layout : Layout) (data : List UInt8) : List Char :=
  match Bytes.lines data with
  | [] => "!!binary ''".toList
  | lines => "!!binary |".toList ++ lines.flatMap (lineStart layout.indent ++ ·)

/-- A node that holds no others and starts in a column. -/
def scalarToken (layout : Layout) (column : Nat) (n : Node) : List Char :=
  match n with
  | .scalar (.text s) => textToken layout column s
  | .bytes data => bytesToken layout data
  | n => (scalarText n).toList

/-! ### Keys -/

/-- The length of the tag that a key could be written with. -/
def tagLength : Node → Nat
  | .scalar (.bool _) | .scalar .null => "!!bool".length
  | .scalar (.float _) => "!!float".length
  | .stamp _ => "!!timestamp".length
  | _ => "!!str".length

/-- Whether a key stands in front of its colon on one line: not when it is empty, has line breaks or
is long. -/
def isSimpleKey (key : Node) : Bool :=
  let cs := (scalarText key).toList
  !cs.isEmpty && !cs.any isBreak && cs.length + tagLength key < 128

/-- A key at its indentation, with its colon. -/
def keyToken (indent : Nat) (key : Node) : List Char :=
  if isSimpleKey key then scalarToken ⟨false, indent + 2⟩ indent key ++ [':']
  else
    '?' :: ' ' :: scalarToken ⟨true, indent + 2⟩ (indent + 2) key ++ lineStart indent ++ [':']

/-! ### Collections -/

mutual

/-- A node behind a colon or a dash, which ends in a column; the collection that holds these has an
indentation. With nothing else in front of it on the line a collection starts there. -/
def behind (indent column : Nat) (isAlone : Bool) : Node → List Char
  | .list [] => " []".toList
  | .mapping [] => " \x7b\x7d".toList
  | .list list =>
    if isAlone then ' ' :: (items (indent + 2) list).drop (indent + 3) else items indent list
  | .mapping mapping =>
    let lines := entries (indent + 2) mapping
    if isAlone then ' ' :: lines.drop (indent + 3) else lines
  | .pair a b =>
    let inner := if isAlone then indent + 2 else indent
    let lines := lineStart inner ++ '-' :: behind inner (inner + 1) true a ++ lineStart inner ++
      '-' :: behind inner (inner + 1) true b
    if isAlone then ' ' :: lines.drop (inner + 1) else lines
  | .set [] => " !!set \x7b\x7d".toList
  | .set members =>
    let member (key : Node) := lineStart (indent + 2) ++ keyToken (indent + 2) key ++ " null".toList
    " !!set".toList ++ members.flatMap member
  | n => ' ' :: scalarToken ⟨true, indent + 2⟩ (column + 1) n

/-- The items of a list, each on a line of its own. -/
def items (indent : Nat) : List Node → List Char
  | [] => []
  | n :: rest => lineStart indent ++ '-' :: behind indent (indent + 1) true n ++ items indent rest

/-- The entries of a mapping, each on a line of its own. -/
def entries (indent : Nat) : List (Node × Node) → List Char
  | [] => []
  | (key, n) :: rest =>
    let name := keyToken indent key
    let isAlone := !isSimpleKey key
    let column := if isAlone then indent + 1 else indent + name.length
    lineStart indent ++ name ++ behind indent column isAlone n ++ entries indent rest

end

/-- The document with a mapping. -/
def write (mapping : List (Node × Node)) : String :=
  match mapping with
  | [] => "\x7b\x7d\n"
  | mapping => String.ofList ((entries 0 mapping).drop 1 ++ ['\n'])

end Joinery.Yaml
