import Joinery.Formula.Token
import Joinery.Text.Case

/-!
# Reading formulas

Formulas are read token by token, with a stack of what surrounds the operand at hand. The grammar,
from loosest to tightest binding:

    sum     := term (('+' | '-') term)*
    term    := unary (('*' | '/') unary)*
    unary   := '-' unary | primary
    primary := NUMBER | NAME | NAME '(' [sum (',' sum)*] ')' | '(' sum ')'

A token that closes an operand first completes the frames that bind tighter than itself. The first
token at which no formula can go on is the one the error is about.
-/
namespace Joinery.Formula

/-- What surrounds the operand being read, one level at a time. -/
inductive Frame where
  /-- A minus sign that waits for its operand. -/
  | negation (minus : Span)
  /-- `*` or `/` that waits for its right side. -/
  | factor (op : Operator) (left : Formula)
  /-- `+` or `-` that waits for its right side. -/
  | summand (op : Operator) (left : Formula)
  /-- An open parenthesis. -/
  | group (opening : Span)
  /-- An open argument list with the arguments before this one, last first. -/
  | arguments (name : String) (place opening : Span) (before : List Formula)

/-- Where the reader stands between two tokens. -/
inductive State where
  /-- An operand has to start. -/
  | operand (stack : List Frame)
  /-- A name was read; a parenthesis would make it a call. -/
  | named (name : String) (place : Span) (stack : List Frame)
  /-- The parenthesis of a call was read; an argument or the closing one may follow. -/
  | called (name : String) (place opening : Span) (stack : List Frame)
  /-- An operand was read. -/
  | complete (f : Formula) (stack : List Frame)

/-- Completes minus signs and products around a formula. -/
def closeTerm (f : Formula) : List Frame → Formula × List Frame
  | .negation minus :: stack => closeTerm (negate minus f) stack
  | .factor op left :: stack => closeTerm (join op left f) stack
  | stack => (f, stack)

/-- Completes all operators around a formula, up to the next parenthesis. -/
def closeSum (f : Formula) (stack : List Frame) : Formula × List Frame :=
  match closeTerm f stack with
  | (term, .summand op left :: rest) => (join op left term, rest)
  | closed => closed

/-- The call of a name with its arguments; names of functions are in lower case. -/
def callOf (name : String) (place closing : Span) (args : List Formula) : Formula :=
  .call (Text.lower name) args (some ⟨place.start, closing.stop⟩)

/-- An error in a text at a place. -/
def fail {α : Type} (source : String) (fault : Fault) (place : Span) : Except Error α :=
  .error ⟨fault, some place, some source⟩

/-- The error at a token that cannot follow a complete operand, from what is still open. -/
def strandedAt {α : Type} (source : String) (token : Token) : List Frame → Except Error α
  | .group opening :: _ =>
    fail source .unmatchedParenthesis ⟨opening.start, token.span.stop⟩
  | .arguments _ _ opening _ :: _ =>
    fail source .unmatchedParenthesis ⟨opening.start, token.span.stop⟩
  | _ =>
    match token.symbol with
    | .closing => fail source .unmatchedParenthesis token.span
    | _ =>
      fail source (.trailingInput (String.ofList (source.toList.drop token.span.start)))
        ⟨token.span.start, source.length⟩

/-- One token where an operand has to start. -/
def stepOperand (source : String) (stack : List Frame) (token : Token) : Except Error State :=
  match token.symbol with
  | .number x => .ok (.complete (.number x (some token.span)) stack)
  | .name name => .ok (.named name token.span stack)
  | .opening => .ok (.operand (.group token.span :: stack))
  | .operator .minus => .ok (.operand (.negation token.span :: stack))
  | .finish => fail source .unexpectedEnd token.span
  | _ => fail source (.unexpectedToken token.describe) token.span

/-- One token after a complete operand. -/
def stepComplete (source : String) (f : Formula) (stack : List Frame) (token : Token) :
    Except Error State :=
  match token.symbol with
  | .operator .times =>
    let (left, rest) := closeTerm f stack
    .ok (.operand (.factor .times left :: rest))
  | .operator .over =>
    let (left, rest) := closeTerm f stack
    .ok (.operand (.factor .over left :: rest))
  | .operator .plus =>
    let (left, rest) := closeSum f stack
    .ok (.operand (.summand .plus left :: rest))
  | .operator .minus =>
    let (left, rest) := closeSum f stack
    .ok (.operand (.summand .minus left :: rest))
  | .closing =>
    match closeSum f stack with
    | (inner, .group _ :: rest) => .ok (.complete inner rest)
    | (last, .arguments name place _ before :: rest) =>
      .ok (.complete (callOf name place token.span (before.reverse ++ [last])) rest)
    | (_, rest) => strandedAt source token rest
  | .comma =>
    match closeSum f stack with
    | (arg, .arguments name place opening before :: rest) =>
      .ok (.operand (.arguments name place opening (arg :: before) :: rest))
    | (_, rest) => strandedAt source token rest
  | _ => strandedAt source token (closeSum f stack).2

/-- One token. -/
def step (source : String) (state : State) (token : Token) : Except Error State :=
  match state with
  | .operand stack => stepOperand source stack token
  | .named name place stack =>
    match token.symbol with
    | .opening => .ok (.called name place token.span stack)
    | _ => stepComplete source (.parameter name (some place)) stack token
  | .called name place opening stack =>
    match token.symbol with
    | .closing => .ok (.complete (callOf name place token.span []) stack)
    | _ => stepOperand source (.arguments name place opening [] :: stack) token
  | .complete f stack => stepComplete source f stack token

/-- The formula that is complete when the text ends. -/
def finish (source : String) (state : State) (token : Token) : Except Error Formula :=
  let closed (f : Formula) (stack : List Frame) : Except Error Formula :=
    match closeSum f stack with
    | (whole, []) => .ok whole
    | (_, rest) => strandedAt source token rest
  match state with
  | .operand _ | .called .. => fail source .unexpectedEnd token.span
  | .named name place stack => closed (.parameter name (some place)) stack
  | .complete f stack => closed f stack

/-- Reads on from a state to the end of the tokens. -/
def readFrom (source : String) (state : State) : List Token → Except Error Formula
  | [] => finish source state (Token.finishAt source.length)
  | token :: rest =>
    match token.symbol with
    | .finish => finish source state token
    | _ =>
      match step source state token with
      | .ok next => readFrom source next rest
      | .error error => .error error

/-- Reads a whole formula from its tokens. -/
def readTokens (source : String) : List Token → Except Error Formula
  | [] => .error ⟨.empty, none, none⟩
  | token :: rest =>
    match token.symbol with
    | .finish => .error ⟨.empty, none, none⟩
    | _ => readFrom source (.operand []) (token :: rest)

/-- Reads a formula from its text. -/
def read (source : String) : Except Error Formula :=
  if Text.isBlankText source.toList then .error ⟨.empty, none, none⟩
  else do readTokens source (← tokenize source)

/-- Reads a formula from a document value; only a text can be one. -/
def readValue : Value → Except Error Formula
  | .text source => read source
  | _ => .error ⟨.empty, none, none⟩

end Joinery.Formula
