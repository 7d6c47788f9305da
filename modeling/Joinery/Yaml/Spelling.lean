import Joinery.Failure
import Joinery.Text.Digit
import Joinery.Text.Surrogate
import Joinery.Yaml.Place

/-!
# Spelling of scalars

The text of a scalar as it stands in a document: plain, between quotes, or as an indented block. It
may go on over several lines, which are then joined, save those of a literal block: one line break
counts as a space, and of several the first one does not count. A plain scalar ends where a comment,
a value or, between brackets, a bracket or comma starts, or where a line is indented too little.
-/
namespace Joinery.Yaml

/-- A text and the place behind it. -/
abbrev Spelled := String × Place

/-- The failure where a text is no document. -/
def malformed {α : Type} : Except Failure α := .error (.settings .malformed)

/-- What the first of some line breaks and those behind it count as. -/
def folded (first : Char) (more : List Char) : List Char :=
  if breakChar first ≠ '\n' then breakChar first :: more
  else if more.isEmpty then [' ']
  else more

/-- The text up to the end of the line, and the place there. -/
def lineRest (p : Place) : List Char × Place :=
  let text := p.rest.takeWhile fun c => !isBreak c
  (text, p.drop text.length)

/-- The line break at a place, if there is one, and the place behind it. -/
def lineBreak (p : Place) : List Char × Place :=
  match p.rest with
  | c :: _ => if isBreak c then ([breakChar c], p.drop 1) else ([], p)
  | [] => ([], p)

/-- The place behind spaces, a comment and the end of the line, with nothing else on the line. -/
def emptyLine (p : Place) : Except Failure Place :=
  let p := p.skipSpaces
  let p := if p.rest.head? = some '#' then (lineRest p).2 else p
  match p.rest with
  | [] => .ok p
  | c :: _ => if isBreak c then .ok (p.drop 1) else malformed

/-! ### Plain scalars -/

def isBracketOrComma (c : Char) : Bool := [',', '[', ']', '\x7b', '\x7d'].contains c

/-- Whether a plain scalar cannot go on with the first character. -/
def endsPlain (inFlow : Bool) : List Char → Bool
  | [] => true
  | ':' :: rest => startsWithGap rest || (inFlow && rest.head?.any isBracketOrComma)
  | c :: _ => isGap c || (inFlow && (c = '?' || isBracketOrComma c))

/-- The part of a plain scalar up to the next gap. -/
def plainWord (inFlow : Bool) : List Char → List Char
  | [] => []
  | c :: rest => if endsPlain inFlow (c :: rest) then [] else c :: plainWord inFlow rest

/-- Line breaks and spaces at the start of lines; stops behind a line break at a border between
documents. -/
def breaksFrom : Nat → Place → List Char → List Char × Place
  | 0, p, done => (done.reverse, p)
  | fuel + 1, p, done =>
    match p.rest with
    | c :: _ =>
      if c = ' ' then breaksFrom fuel (p.drop 1) done
      else if isBreak c then
        let next := p.drop 1
        if next.isBorder then ((breakChar c :: done).reverse, next)
        else breaksFrom fuel next (breakChar c :: done)
      else (done.reverse, p)
    | [] => (done.reverse, p)

/-- The gap behind a word of a plain scalar, as it counts in the text if the scalar goes on; empty
when it cannot go on. -/
def plainGap (p : Place) : List Char × Place :=
  let after := p.skipSpaces
  match after.rest with
  | c :: _ =>
    if isBreak c then
      let start := after.drop 1
      if start.isBorder then ([], start)
      else
        let (more, stop) := breaksFrom (start.rest.length + 1) start []
        if stop.column = 0 && stop.isBorder then ([], stop) else (folded c more, stop)
    else (p.rest.takeWhile (· = ' '), after)
  | [] => (p.rest.takeWhile (· = ' '), after)

/-- Whether a plain scalar goes on behind a gap. -/
def goesOn (inFlow : Bool) (cs : List Char) : Bool := cs.head? ≠ some '#' && !endsPlain inFlow cs

/-- A plain scalar from the word at a place on; its lines need a least column. Also answers whether
the gap behind its last word has a line break. -/
def plainFrom (inFlow : Bool) (least : Nat) : Nat → Place → List Char → Spelled × Bool
  | 0, p, done => ((String.ofList done, p), false)
  | fuel + 1, p, done =>
    let word := plainWord inFlow p.rest
    let (gap, next) := plainGap (p.drop word.length)
    if gap.isEmpty || (!inFlow && next.column < least) || !goesOn inFlow next.rest then
      ((String.ofList (done ++ word), next), p.line < next.line)
    else plainFrom inFlow least fuel next (done ++ word ++ gap)

/-- A plain scalar at a place. -/
def plain (inFlow : Bool) (least : Nat) (p : Place) : Spelled × Bool :=
  plainFrom inFlow least (p.rest.length + 1) p []

/-- Whether a plain scalar may start with the first character. -/
def startsPlain (inFlow : Bool) : List Char → Bool
  | [] => false
  | c :: rest =>
    if c = '-' then !startsWithGap rest
    else if c = '?' || c = ':' then !inFlow && !startsWithGap rest
    else !isGap c && !",[]\x7b\x7d#&*!|>'\"%@`".toList.contains c

/-! ### Quoted scalars -/

/-- What a letter behind a backslash stands for. -/
def escaped? : Char → Option Char
  | '0' => some '\x00'
  | 'a' => some '\x07'
  | 'b' => some '\x08'
  | 't' => some '\t'
  | '\t' => some '\t'
  | 'n' => some '\n'
  | 'v' => some '\x0b'
  | 'f' => some '\x0c'
  | 'r' => some '\r'
  | 'e' => some '\x1b'
  | ' ' => some ' '
  | '"' => some '"'
  | '\\' => some '\\'
  | '/' => some '/'
  | 'N' => some '\x85'
  | '_' => some '\xa0'
  | 'L' => some '\u2028'
  | 'P' => some '\u2029'
  | _ => none

/-- How many digits of base sixteen a letter behind a backslash announces. -/
def codeLength? : Char → Option Nat
  | 'x' => some 2
  | 'u' => some 4
  | 'U' => some 8
  | _ => none

/-- The number that digits of base sixteen write. -/
def code? (length : Nat) (cs : List Char) : Option Nat :=
  let digits := cs.take length
  if digits.length < length then none
  else digits.foldlM (fun n c => (Text.hexValue? c).map (16 * n + ·)) 0

/-- The character of a number; the last number of all has 31 bits. -/
def coded (length : Nat) (cs : List Char) : Except Failure Char :=
  match code? length cs with
  | none => malformed
  | some n =>
    if 2 ^ 31 ≤ n then .error (.misuse .outOfRange)
    else if 0x110000 ≤ n then .error (.misuse .notCharacter)
    else .ok (Text.charOf n)

/-- Spaces, tabs and line breaks inside quotes, from the start of a line on, which is no border
between documents. -/
def quotedBreaksFrom : Nat → Place → List Char → Except Failure (List Char × Place)
  | 0, _, _ => malformed
  | fuel + 1, p, done =>
    if p.isBorder then malformed
    else
      let next := p.drop (p.rest.takeWhile fun c => c = ' ' || c = '\t').length
      match next.rest with
      | c :: _ =>
        if isBreak c then quotedBreaksFrom fuel (next.drop 1) (breakChar c :: done)
        else .ok (done.reverse, next)
      | [] => .ok (done.reverse, next)

/-- The line breaks behind the one at a place. -/
def quotedBreaks (p : Place) : Except Failure (List Char × Place) :=
  quotedBreaksFrom (p.rest.length + 1) (p.drop 1) []

/-- A quoted scalar from inside its quotes on, with what came before in reverse order. -/
def quotedFrom (quote : Char) : Nat → Place → List Char → Except Failure Spelled
  | 0, _, _ => malformed
  | fuel + 1, p, done =>
    match p.rest with
    | [] => malformed
    | '\'' :: '\'' :: _ =>
      if quote = '\'' then quotedFrom quote fuel (p.drop 2) ('\'' :: done)
      else quotedFrom quote fuel (p.drop 1) ('\'' :: done)
    | '\\' :: c :: rest =>
      if quote = '\'' then quotedFrom quote fuel (p.drop 1) ('\\' :: done)
      else
        match escaped? c, codeLength? c with
        | some meant, _ => quotedFrom quote fuel (p.drop 2) (meant :: done)
        | none, some length => do
          let meant ← coded length rest
          quotedFrom quote fuel (p.drop (2 + length)) (meant :: done)
        | none, none =>
          if isBreak c then do
            let (more, next) ← quotedBreaks (p.drop 1)
            quotedFrom quote fuel next (more.reverse ++ done)
          else malformed
    | c :: _ =>
      if c = quote then .ok (String.ofList done.reverse, p.drop 1)
      else if isGap c then do
        let blanks := p.rest.takeWhile fun c => c = ' ' || c = '\t'
        let after := p.drop blanks.length
        match after.rest with
        | [] => malformed
        | b :: _ =>
          if isBreak b then do
            let (more, next) ← quotedBreaks after
            quotedFrom quote fuel next ((folded b more).reverse ++ done)
          else quotedFrom quote fuel after (blanks.reverse ++ done)
      else quotedFrom quote fuel (p.drop 1) (c :: done)

/-- A quoted scalar at its opening quote. -/
def quoted (quote : Char) (p : Place) : Except Failure Spelled :=
  quotedFrom quote (p.rest.length + 1) (p.drop 1) []

/-! ### Blocks -/

/-- What becomes of the line breaks at the end of a block: the first one stays, or all of them, or
none. -/
inductive Chomping where
  | clip | keep | strip
  deriving DecidableEq

/-- What stands behind the character that starts a block. -/
structure Header where
  chomping : Chomping := .clip
  /-- How much further than what it belongs to the block is indented, if that is said. -/
  increment : Option Nat := none

/-- The way of chomping at a place. -/
def chomping? (p : Place) : Option Chomping :=
  match p.rest with
  | '+' :: _ => some .keep
  | '-' :: _ => some .strip
  | _ => none

/-- The increment at a place, which is not zero. -/
def increment? (p : Place) : Except Failure (Option Nat) :=
  match p.rest with
  | c :: _ =>
    if c = '0' then malformed
    else if '1' ≤ c && c ≤ '9' then .ok (some (c.toNat - '0'.toNat))
    else .ok none
  | [] => .ok none

/-- The header of a block; chomping and increment come in either order. -/
def header (p : Place) : Except Failure (Header × Place) := do
  let (h, p) ←
    match chomping? p with
    | some chomping => do
      let increment ← increment? (p.drop 1)
      pure (⟨chomping, increment⟩, p.drop (if increment.isSome then 2 else 1))
    | none => do
      match ← increment? p with
      | some n =>
        match chomping? (p.drop 1) with
        | some chomping => pure (⟨chomping, some n⟩, p.drop 2)
        | none => pure (⟨.clip, some n⟩, p.drop 1)
      | none => pure ({}, p)
  if startsWithSpace p.rest then return (h, p) else malformed

/-- The line breaks at a place, between spaces of any number, and the greatest column. -/
def looseBreaks (greatest : Nat) (done : List Char) : Nat → Place → List Char × Nat × Place
  | 0, p => (done.reverse, greatest, p)
  | fuel + 1, p =>
    match p.rest with
    | c :: _ =>
      if c = ' ' then looseBreaks (max greatest (p.column + 1)) done fuel (p.drop 1)
      else if isBreak c then looseBreaks greatest (breakChar c :: done) fuel (p.drop 1)
      else (done.reverse, greatest, p)
    | [] => (done.reverse, greatest, p)

/-- The line breaks at a place, with up to an indentation of spaces before each. -/
def indentedBreaks (indent : Nat) (done : List Char) : Nat → Place → List Char × Place
  | 0, p => (done.reverse, p)
  | fuel + 1, p =>
    let spaces := (p.rest.takeWhile (· = ' ')).length
    let p := p.drop (min spaces (indent - p.column))
    match p.rest with
    | c :: _ =>
      if isBreak c then indentedBreaks indent (breakChar c :: done) fuel (p.drop 1)
      else (done.reverse, p)
    | [] => (done.reverse, p)

/-- The lines of a block, up to one that is indented less: their text, the line breaks behind the
last one, and the place behind them. -/
structure BlockLines where
  text : List Char := []
  /-- The line break that ends the last line. -/
  last : List Char := []
  /-- Those that follow it. -/
  more : List Char
  stop : Place

/-- Whether a line starts with a space or a tab. -/
def startsBlank (p : Place) : Bool := p.rest.head?.any fun c => c == ' ' || c == '\t'

/-- How a line break counts between two lines of a block. -/
def joint (isFolded : Bool) (first next : Place) (lineBreak more : List Char) : List Char :=
  if isFolded && lineBreak = ['\n'] && !startsBlank first && !startsBlank next then
    if more.isEmpty then [' '] else []
  else lineBreak

/-- Adds the lines of a block from a place on. -/
def blockLines (isFolded : Bool) (indent : Nat) : Nat → BlockLines → BlockLines
  | 0, done => done
  | fuel + 1, done =>
    let p := done.stop
    if p.column ≠ indent || p.isEnd then done
    else
      let (text, after) := lineRest p
      let (ending, after) := lineBreak after
      let (more, next) := indentedBreaks indent [] (after.rest.length + 1) after
      let text := done.text ++ done.more ++ text
      if next.column = indent && !next.isEnd then
        let text := text ++ joint isFolded p next ending more
        blockLines isFolded indent fuel ⟨text, ending, more, next⟩
      else ⟨text, ending, more, next⟩

/-- A block at the character that starts it; `least` is the least column of its lines. -/
def block (isFolded : Bool) (least : Nat) (p : Place) : Except Failure Spelled := do
  let (h, p) ← header (p.drop 1)
  let p ← emptyLine p
  let fuel := p.rest.length + 1
  let (indent, more, p) :=
    match h.increment with
    | some n =>
      let indent := least + n - 1
      let (more, p) := indentedBreaks indent [] fuel p
      (indent, more, p)
    | none =>
      let (more, greatest, p) := looseBreaks 0 [] fuel p
      (max least greatest, more, p)
  let lines := blockLines isFolded indent fuel { more, stop := p }
  let ending := match h.chomping with
    | .clip => lines.last
    | .keep => lines.last ++ lines.more
    | .strip => []
  return (String.ofList (lines.text ++ ending), lines.stop)

end Joinery.Yaml
