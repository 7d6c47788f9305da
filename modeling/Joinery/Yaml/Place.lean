/-!
# Places in documents

A place is what is left of a document together with its line and column, which decide what belongs
to what, and its offset. Between tokens spaces, line breaks and comments are skipped; tabs are not.
-/
namespace Joinery.Yaml

structure Place where
  line : Nat
  column : Nat
  offset : Nat
  rest : List Char

/-- Whether a character ends a line. -/
def isBreak (c : Char) : Bool := c == '\n' || c == '\x85' || c == '\u2028' || c == '\u2029'

/-- Whether a character separates tokens. -/
def isGap (c : Char) : Bool := c == ' ' || c == '\t' || isBreak c

/-- Whether a text is at its end or starts with a gap. -/
def startsWithGap : List Char → Bool
  | [] => true
  | c :: _ => isGap c

/-- Whether a text is at its end or starts with a space or a line break. -/
def startsWithSpace : List Char → Bool
  | [] => true
  | c :: _ => c == ' ' || isBreak c

/-- A line break as it counts in a text. -/
def breakChar (c : Char) : Char := if c = '\x85' then '\n' else c

namespace Place

/-- The start of a document. -/
def start (cs : List Char) : Place := ⟨0, 0, 0, cs⟩

/-- The place behind a character; a byte order mark takes no column. -/
def behind (p : Place) (c : Char) (rest : List Char) : Place :=
  if isBreak c then ⟨p.line + 1, 0, p.offset + 1, rest⟩
  else ⟨p.line, if c = '\uFEFF' then p.column else p.column + 1, p.offset + 1, rest⟩

/-- The place behind the first characters. -/
def drop (p : Place) : Nat → Place
  | 0 => p
  | count + 1 =>
    match p.rest with
    | [] => p
    | c :: rest => (p.behind c rest).drop count

def isEnd (p : Place) : Bool := p.rest.isEmpty

/-- Skips spaces, breaks and comments. -/
def skipFrom (inComment : Bool) (line column offset : Nat) : List Char → Place
  | [] => ⟨line, column, offset, []⟩
  | c :: rest =>
    if isBreak c then skipFrom false (line + 1) 0 (offset + 1) rest
    else if inComment || c = ' ' then skipFrom inComment line (column + 1) (offset + 1) rest
    else if c = '#' then skipFrom true line (column + 1) (offset + 1) rest
    else ⟨line, column, offset, c :: rest⟩

/-- The place of the next token. -/
def token (p : Place) : Place := skipFrom false p.line p.column p.offset p.rest

/-- The place behind spaces. -/
def skipSpaces (p : Place) : Place := p.drop (p.rest.takeWhile (· = ' ')).length

/-- Whether three characters that set documents apart stand here, with a gap behind them. -/
def isBorderOf (p : Place) (c : Char) : Bool :=
  [c, c, c].isPrefixOf p.rest && startsWithGap (p.rest.drop 3)

/-- Whether what stands here would start or end a document at the start of a line. -/
def isBorder (p : Place) : Bool := p.isBorderOf '-' || p.isBorderOf '.'

end Place

end Joinery.Yaml
