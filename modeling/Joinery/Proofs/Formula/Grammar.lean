import Joinery.Formula.Reader

/-!
# The grammar of formulas

Which lists of symbols are formulas, and which formulas they are:

    sum     := term (('+' | '-') term)*
    term    := unary (('*' | '/') unary)*
    unary   := '-' unary | primary
    primary := NUMBER | NAME | NAME '(' [sum (',' sum)*] ')' | '(' sum ')'

The derivations know nothing of stacks, states and places. A chain of operators nests to the left, a
minus sign in front of an operand multiplies it by minus one, a group is what stands in it, and a
call has its arguments in order under its name in lower case.
-/
namespace Joinery.Formula

mutual

/-- The formula without places. -/
def bare : Formula → Formula
  | .number x _ => .number x none
  | .parameter name _ => .parameter name none
  | .binary op left right _ => .binary op (bare left) (bare right) none
  | .call name args _ => .call name (bareAll args) none
  | .foreign label => .foreign label

def bareAll : List Formula → List Formula
  | [] => []
  | arg :: rest => bare arg :: bareAll rest

end

theorem bareAll_eq_map (args : List Formula) : bareAll args = args.map bare := by
  induction args with
  | nil => rfl
  | cons arg rest ih => rw [bareAll, ih, List.map_cons]

/-- The left sides of the rules. -/
inductive Category where
  | sum | term | unary | primary

/-- An operator of a chain with the operand behind it. -/
structure Link where
  op : Operator
  symbols : List Symbol
  operand : Formula

namespace Link

/-- The symbols of a link, the operator first. -/
def written (link : Link) : List Symbol := .operator link.op :: link.symbols

/-- The chain that ends with a link, from the formula of the chain before it. -/
def extend (left : Formula) (link : Link) : Formula := .binary link.op left link.operand none

end Link

/-- Symbols of a category together with the formula that they denote. -/
inductive Derives : Category → List Symbol → Formula → Prop where
  | number (x : Binary64) : Derives .primary [.number x] (.number x none)
  | parameter (name : String) : Derives .primary [.name name] (.parameter name none)
  | call (name : String) (args : List (List Symbol × Formula))
      (each : ∀ arg ∈ args, Derives .sum arg.1 arg.2) :
      Derives .primary
        (.name name :: .opening :: ([.comma].intercalate (args.map Prod.fst) ++ [.closing]))
        (.call (Text.lower name) (args.map Prod.snd) none)
  | group {symbols : List Symbol} {f : Formula} (inner : Derives .sum symbols f) :
      Derives .primary (.opening :: (symbols ++ [.closing])) f
  | primary {symbols : List Symbol} {f : Formula} (operand : Derives .primary symbols f) :
      Derives .unary symbols f
  | negation {symbols : List Symbol} {f : Formula} (operand : Derives .unary symbols f) :
      Derives .unary (.operator .minus :: symbols) (.binary .times (.number (-1) none) f none)
  | term {symbols : List Symbol} {f : Formula} (links : List Link)
      (first : Derives .unary symbols f)
      (ops : ∀ link ∈ links, link.op = .times ∨ link.op = .over)
      (operands : ∀ link ∈ links, Derives .unary link.symbols link.operand) :
      Derives .term (symbols ++ links.flatMap Link.written) (links.foldl Link.extend f)
  | sum {symbols : List Symbol} {f : Formula} (links : List Link)
      (first : Derives .term symbols f)
      (ops : ∀ link ∈ links, link.op = .plus ∨ link.op = .minus)
      (operands : ∀ link ∈ links, Derives .term link.symbols link.operand) :
      Derives .sum (symbols ++ links.flatMap Link.written) (links.foldl Link.extend f)

namespace Derives

variable {symbols more : List Symbol} {f g : Formula} {op : Operator}

/-- An operand alone is a chain. -/
theorem toTerm (h : Derives .unary symbols f) : Derives .term symbols f := by
  simpa using Derives.term [] h (by simp) (by simp)

/-- A term alone is a chain. -/
theorem toSum (h : Derives .term symbols f) : Derives .sum symbols f := by
  simpa using Derives.sum [] h (by simp) (by simp)

/-- A product goes on with one more operand. -/
theorem extendTerm (left : Derives .term symbols f) (hop : op = .times ∨ op = .over)
    (right : Derives .unary more g) :
    Derives .term (symbols ++ .operator op :: more) (.binary op f g none) := by
  cases left with
  | @term first f links head ops operands =>
    have longer := Derives.term (links ++ [⟨op, more, g⟩]) head
      (List.forall_mem_append.2 ⟨ops, List.forall_mem_singleton.2 hop⟩)
      (List.forall_mem_append.2 ⟨operands, List.forall_mem_singleton.2 right⟩)
    simpa [Link.written, Link.extend] using longer

/-- A sum goes on with one more term. -/
theorem extendSum (left : Derives .sum symbols f) (hop : op = .plus ∨ op = .minus)
    (right : Derives .term more g) :
    Derives .sum (symbols ++ .operator op :: more) (.binary op f g none) := by
  cases left with
  | @sum first f links head ops operands =>
    have longer := Derives.sum (links ++ [⟨op, more, g⟩]) head
      (List.forall_mem_append.2 ⟨ops, List.forall_mem_singleton.2 hop⟩)
      (List.forall_mem_append.2 ⟨operands, List.forall_mem_singleton.2 right⟩)
    simpa [Link.written, Link.extend] using longer

end Derives

/-- The symbols with which an operand can begin. -/
def Symbol.beginsOperand : Symbol → Bool
  | .number _ | .name _ | .opening | .operator .minus => true
  | _ => false

/-- What derives has a first symbol, and an operand can begin with it. -/
theorem Derives.begins {category : Category} {symbols : List Symbol} {f : Formula}
    (h : Derives category symbols f) :
    ∃ first rest, symbols = first :: rest ∧ first.beginsOperand = true := by
  induction h with
  | number x => exact ⟨_, _, rfl, rfl⟩
  | parameter name => exact ⟨_, _, rfl, rfl⟩
  | call name args each ih => exact ⟨_, _, rfl, rfl⟩
  | group inner ih => exact ⟨_, _, rfl, rfl⟩
  | primary operand ih => exact ih
  | negation operand ih => exact ⟨_, _, rfl, rfl⟩
  | term links first ops operands ih _ =>
    obtain ⟨head, rest, rfl, hhead⟩ := ih
    exact ⟨head, rest ++ links.flatMap Link.written, rfl, hhead⟩
  | sum links first ops operands ih _ =>
    obtain ⟨head, rest, rfl, hhead⟩ := ih
    exact ⟨head, rest ++ links.flatMap Link.written, rfl, hhead⟩

/-- A list with separators that goes on behind one more separator. -/
theorem intercalate_append_singleton {α : Type} (separator : α) (parts : List (List α))
    (last : List α) :
    [separator].intercalate (parts ++ [last]) =
      parts.flatMap (fun part => part ++ [separator]) ++ last := by
  induction parts with
  | nil => simp
  | cons part rest ih =>
    cases rest with
    | nil => simp [List.intercalate_cons_cons]
    | cons next rest =>
      rw [List.cons_append, List.cons_append, List.intercalate_cons_cons, ← List.cons_append, ih]
      simp

end Joinery.Formula
