import Joinery.Number.Reading
import Joinery.Yaml.Spelling

/-!
# Tokens of documents

A document is read as tokens, to which the indentation of block style contributes: where a list or a
mapping starts in a new column a token says so, and another one where a line is indented less. That
a scalar or a bracket starts a key is known only at the colon behind it, which has to follow on the
same line, so until then it is a candidate, and the token for a key is put in front of it later.
-/
namespace Joinery.Yaml

/-- A line in front of a document that says how to read it. -/
inductive Directive where
  | version (major : Int)
  /-- What a handle of tags stands for. -/
  | handle (name meaning : String)
  | ignored
  deriving DecidableEq, Repr

/-- A tag as it is written: behind a handle, or whole. -/
structure WrittenTag where
  handle : Option String
  name : String
  deriving DecidableEq, Repr

inductive Token where
  | directive (d : Directive)
  | documentStart
  | documentEnd
  | streamEnd
  | blockList
  | blockMapping
  | blockEnd
  | flowList
  | flowListEnd
  | flowMapping
  | flowMappingEnd
  | comma
  | dash
  | key
  | value
  /-- What an anchor of the name stands at is meant again. -/
  | reference (name : String)
  | anchor (name : String)
  | tag (t : WrittenTag)
  | scalar (text : String) (isPlain : Bool)
  deriving DecidableEq, Repr

/-! ### Directives, anchors and tags -/

def isNameChar (c : Char) : Bool := c.isAlphanum || c == '-' || c == '_'

/-- The name at a place. -/
def name (p : Place) : Except Failure Spelled :=
  let cs := p.rest.takeWhile isNameChar
  if cs.isEmpty then malformed else .ok (String.ofList cs, p.drop cs.length)

/-- The name of an anchor behind the character at a place. -/
def anchorName (p : Place) : Except Failure Spelled := do
  let (s, p) ← name (p.drop 1)
  match p.rest with
  | [] => return (s, p)
  | c :: _ => if isGap c || "?:,]\x7d%@`".toList.contains c then return (s, p) else malformed

/-- The bytes at the front, each written as two digits of base sixteen behind a percent sign. -/
def percentBytes : List Char → Except Failure (List UInt8)
  | '%' :: a :: b :: rest =>
    match Text.hexValue? a, Text.hexValue? b with
    | some high, some low => do return UInt8.ofNat (16 * high + low) :: (← percentBytes rest)
    | _, _ => malformed
  | '%' :: _ => malformed
  | _ => .ok []

def isTagChar (c : Char) : Bool := c.isAlphanum || "-;/?:@&=+$,_.!~*'()[]".toList.contains c

/-- The name of a tag from a place on, behind what came before. -/
def tagNameFrom : Nat → Place → List Char → Except Failure Spelled
  | 0, _, _ => malformed
  | fuel + 1, p, done =>
    let c := p.rest.headD ' '
    if c = '%' then do
      let bytes ← percentBytes p.rest
      match String.fromUTF8? ⟨bytes.toArray⟩ with
      | some s => tagNameFrom fuel (p.drop (3 * bytes.length)) (done ++ s.toList)
      | none => malformed
    else if isTagChar c then tagNameFrom fuel (p.drop 1) (done ++ [c])
    else if done.isEmpty then malformed
    else .ok (String.ofList done, p)

/-- The name of a tag at a place. -/
def tagName (p : Place) : Except Failure Spelled := tagNameFrom (p.rest.length + 1) p []

/-- A handle of tags: an exclamation mark alone before a space, or a pair of them around a name,
which may be empty. -/
def tagHandle (p : Place) : Except Failure Spelled :=
  match p.rest with
  | '!' :: ' ' :: _ => .ok ("!", p.drop 1)
  | '!' :: rest =>
    let name := rest.takeWhile isNameChar
    if (rest.drop name.length).head? = some '!' then
      .ok (s!"!{String.ofList name}!", p.drop (name.length + 2))
    else malformed
  | _ => malformed

/-- The tag at a place. -/
def writtenTag (p : Place) : Except Failure (WrittenTag × Place) := do
  let rest := p.rest.drop 1
  let (t, p) ←
    if rest.head? = some '<' then do
      let (s, p) ← tagName (p.drop 2)
      if p.rest.head? = some '>' then pure (⟨none, s⟩, p.drop 1) else malformed
    else if startsWithGap rest then pure (⟨none, "!"⟩, p.drop 1)
    else do
      let word := rest.takeWhile fun c => c != ' ' && !isBreak c
      let (handle, p) ← if word.contains '!' then tagHandle p else pure ("!", p.drop 1)
      let (s, p) ← tagName p
      pure (⟨some handle, s⟩, p)
  if startsWithSpace p.rest then return (t, p) else malformed

/-- The digits at a place as a number. -/
def versionPart (p : Place) : Except Failure (Int × Place) := do
  let digits := p.rest.takeWhile Char.isDigit
  if digits.isEmpty then malformed
  return (← Reading.integer (String.ofList digits), p.drop digits.length)

/-- The version at a place. -/
def version (p : Place) : Except Failure (Directive × Place) := do
  let (major, p) ← versionPart p
  if p.rest.head? = some '.' then
    let (_, p) ← versionPart (p.drop 1)
    if startsWithSpace p.rest then return (.version major, p) else malformed
  else malformed

/-- The handle at a place and what it stands for. -/
def handleMeaning (p : Place) : Except Failure (Directive × Place) := do
  let (handle, p) ← tagHandle p
  if p.rest.head? = some ' ' then
    let (meaning, p) ← tagName p.skipSpaces
    if startsWithSpace p.rest then return (.handle handle meaning, p) else malformed
  else malformed

/-- The directive at a place, a line of its own. -/
def directive (p : Place) : Except Failure (Directive × Place) := do
  let (s, p) ← name (p.drop 1)
  if !startsWithSpace p.rest then malformed
  let (d, p) ←
    match s with
    | "YAML" => version p.skipSpaces
    | "TAG" => handleMeaning p.skipSpaces
    | _ => pure (.ignored, (lineRest p).2)
  return (d, ← emptyLine p)

/-! ### Reading on -/

/-- A token that may turn out to start a key. -/
structure Candidate where
  /-- How many tokens are in front of it. -/
  index : Nat
  line : Nat
  column : Nat
  offset : Nat
  /-- Whether nothing but a key can stand there. -/
  isRequired : Bool

/-- How far the tokens of a document are read. -/
structure Progress where
  place : Place
  /-- The tokens, the last one first. -/
  tokens : List Token := []
  /-- The columns of the open collections in block style, the innermost one first. -/
  columns : List Nat := []
  /-- The candidate inside of the innermost brackets. -/
  candidate : Option Candidate := none
  /-- The candidates outside of the innermost brackets, of the next ones, and so on. -/
  outer : List (Option Candidate) := []
  /-- Whether what stands next may be a key. -/
  mayStartKey : Bool := true

namespace Progress

def inFlow (s : Progress) : Bool := !s.outer.isEmpty

def add (s : Progress) (t : Token) : Progress := { s with tokens := t :: s.tokens }

/-- Adds a token that takes so many characters. -/
def take (s : Progress) (t : Token) (count : Nat) : Progress :=
  { s.add t with place := s.place.drop count }

/-- Adds a token that ends at a place. -/
def takeTo (s : Progress) (t : Token) (p : Place) : Progress := { s.add t with place := p }

def withKeys (s : Progress) (mayStartKey : Bool) : Progress := { s with mayStartKey }

/-- Puts a token behind so many others. -/
def insert (s : Progress) (index : Nat) (t : Token) : Progress :=
  let later := s.tokens.length - index
  { s with tokens := s.tokens.take later ++ t :: s.tokens.drop later }

/-- Goes on to the next token. In block style there may be a key at the start of a line. -/
def skipGap (s : Progress) : Progress :=
  let next := s.place.token
  let isLater := s.place.line < next.line
  { s with place := next, mayStartKey := s.mayStartKey || (!s.inFlow && isLater) }

/-! ### Candidates -/

/-- Whether a candidate at an earlier place still is one: not on another line or far behind. -/
def isLive (p : Place) (c : Candidate) : Bool := c.line = p.line && p.offset - c.offset ≤ 1024

def stillCandidate (p : Place) : Option Candidate → Except Failure (Option Candidate)
  | none => .ok none
  | some c => if isLive p c then .ok (some c) else if c.isRequired then malformed else .ok none

def dropStale (s : Progress) : Except Failure Progress := do
  return { s with
    candidate := ← stillCandidate s.place s.candidate
    outer := ← s.outer.mapM (stillCandidate s.place) }

/-- The candidate is no key. -/
def forget (s : Progress) : Except Failure Progress :=
  if s.candidate.any Candidate.isRequired then malformed else .ok { s with candidate := none }

/-- What comes next may be a key. In the column of the innermost collection it has to be one. -/
def note (s : Progress) : Except Failure Progress :=
  if s.mayStartKey then do
    let s ← s.forget
    let p := s.place
    let isRequired := !s.inFlow && s.columns.head? = some p.column
    return { s with candidate := some ⟨s.tokens.length, p.line, p.column, p.offset, isRequired⟩ }
  else .ok s

/-! ### Collections -/

/-- Ends collections in block style. -/
def closeBlocks (s : Progress) (isClosed : Nat → Bool) : Progress :=
  if s.inFlow then s
  else
    let closed := s.columns.takeWhile isClosed
    { s with
      columns := s.columns.drop closed.length
      tokens := closed.map (fun _ => .blockEnd) ++ s.tokens }

/-- Starts a collection in block style in a column, behind so many tokens, unless it is open. -/
def openBlock (s : Progress) (collection : Token) (column index : Nat) : Progress :=
  if s.columns.head?.all (· < column) then
    { s with columns := column :: s.columns }.insert index collection
  else s

/-- Starts a collection in block style here, where that is possible, unless it is open. -/
def openHere (s : Progress) (collection : Token) : Except Failure Progress :=
  if s.inFlow then .ok s
  else if s.mayStartKey then .ok (s.openBlock collection s.place.column s.tokens.length)
  else malformed

/-- A bracket that opens a collection. -/
def openFlow (s : Progress) (t : Token) : Except Failure Progress := do
  let s ← s.note
  return { s with candidate := none, outer := s.candidate :: s.outer }.withKeys true |>.take t 1

/-- A bracket that closes a collection. -/
def closeFlow (s : Progress) (t : Token) : Except Failure Progress := do
  let s ← s.forget
  let s := { s with candidate := s.outer.headD none, outer := s.outer.drop 1 }
  return (s.withKeys false).take t 1

def comma (s : Progress) : Except Failure Progress := do
  return (← (s.withKeys true).forget).take .comma 1

def dash (s : Progress) : Except Failure Progress := do
  let s ← s.openHere .blockList
  return (← (s.withKeys true).forget).take .dash 1

/-- A question mark in front of a key. -/
def key (s : Progress) : Except Failure Progress := do
  let s ← s.openHere .blockMapping
  return (← (s.withKeys !s.inFlow).forget).take .key 1

/-- A colon: the candidate, if there is one, is a key. -/
def value (s : Progress) : Except Failure Progress := do
  match s.candidate with
  | some c =>
    let s := ({ s with candidate := none }.insert c.index .key).withKeys false
    let s := if s.inFlow then s else s.openBlock .blockMapping c.column c.index
    return s.take .value 1
  | none =>
    let s ← s.openHere .blockMapping
    return (s.withKeys !s.inFlow).take .value 1

/-! ### Scalars and marks -/

/-- What may be a key, with no key right behind it. -/
def noted (s : Progress) (read : Place → Except Failure (Token × Place)) :
    Except Failure Progress := do
  let s ← s.note
  let (t, p) ← read s.place
  return (s.withKeys false).takeTo t p

/-- A plain scalar; a key may follow on a later line. -/
def plainScalar (s : Progress) : Except Failure Progress := do
  let s ← s.note
  let least := (s.columns.head?.map (· + 1)).getD 0
  let ((text, p), brokeLine) := plain s.inFlow least s.place
  return (s.withKeys brokeLine).takeTo (.scalar text true) p

/-- A block, behind which a key may follow. -/
def blockScalar (s : Progress) (isFolded : Bool) : Except Failure Progress := do
  let s ← (s.withKeys true).forget
  let least := (s.columns.head?.map (· + 1)).getD 1
  let (text, p) ← block isFolded least s.place
  return s.takeTo (.scalar text false) p

/-- What ends all collections in block style. -/
def border (s : Progress) (t : Token) (count : Nat) : Except Failure Progress := do
  let s ← (s.closeBlocks fun _ => true).forget
  return (s.withKeys false).take t count

def directiveLine (s : Progress) : Except Failure Progress := do
  let s ← (s.closeBlocks fun _ => true).forget
  let (d, p) ← directive s.place
  return (s.withKeys false).takeTo (.directive d) p

/-! ### Steps -/

/-- Adds the token at the place, which starts with a character. -/
def tokenAt (s : Progress) (c : Char) : Except Failure Progress :=
  let p := s.place
  let isMark := s.inFlow || startsWithGap (p.rest.drop 1)
  if p.column = 0 && c = '%' then s.directiveLine
  else if p.column = 0 && p.isBorderOf '-' then s.border .documentStart 3
  else if p.column = 0 && p.isBorderOf '.' then s.border .documentEnd 3
  else if c = '[' then s.openFlow .flowList
  else if c = '\x7b' then s.openFlow .flowMapping
  else if c = ']' then s.closeFlow .flowListEnd
  else if c = '\x7d' then s.closeFlow .flowMappingEnd
  else if c = ',' then s.comma
  else if c = '-' && startsWithGap (p.rest.drop 1) then s.dash
  else if c = '?' && isMark then s.key
  else if c = ':' && isMark then s.value
  else if c = '*' then s.noted fun p => (anchorName p).map fun (n, p) => (.reference n, p)
  else if c = '&' then s.noted fun p => (anchorName p).map fun (n, p) => (.anchor n, p)
  else if c = '!' then s.noted fun p => (writtenTag p).map fun (t, p) => (.tag t, p)
  else if (c = '|' || c = '>') && !s.inFlow then s.blockScalar (c = '>')
  else if c = '\'' || c = '"' then
    s.noted fun p => (quoted c p).map fun (text, p) => (.scalar text false, p)
  else if startsPlain s.inFlow p.rest then s.plainScalar
  else malformed

/-- Adds the next token, and those that come with it. -/
def step (s : Progress) : Except Failure Progress := do
  let s ← s.skipGap.dropStale
  let s := s.closeBlocks (s.place.column < ·)
  match s.place.rest with
  | [] => s.border .streamEnd 0
  | c :: _ => s.tokenAt c

def isDone (s : Progress) : Bool := s.tokens.head? = some .streamEnd

/-- How many tokens are settled: no candidate is among them. -/
def settled (s : Progress) : Nat :=
  let live := (s.candidate :: s.outer).filterMap fun c => c.filter (isLive s.place)
  (live.map Candidate.index).foldl min s.tokens.length

end Progress

/-! ### Documents -/

/-- The tokens of a document that are still to be looked at, and why there are no more. -/
structure Tokens where
  rest : List Token
  failure : Failure

namespace Tokens

/-- All tokens from where the reading is. -/
def ofProgress : Nat → Progress → Tokens
  | 0, _ => ⟨[], .settings .malformed⟩
  | fuel + 1, s =>
    if s.isDone then ⟨s.tokens.reverse, .settings .malformed⟩
    else
      match s.step with
      | .ok next => ofProgress fuel next
      | .error failure => ⟨s.tokens.reverse.take s.settled, failure⟩

/-- The tokens of a document. -/
def ofText (cs : List Char) : Tokens := ofProgress (cs.length + 2) { place := .start cs }

end Tokens

end Joinery.Yaml
