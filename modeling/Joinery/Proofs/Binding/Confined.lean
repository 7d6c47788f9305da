import Joinery.Proofs.Binding.Layers
import Joinery.Proofs.Number.Order

/-!
# Handlers that confine numbers

A check, a clamp and a limited mapping of ranges each speak of an interval. Whatever a chain does
before such a handler, a number that reaches it comes out within the interval, or not at all: the
order in which the ends are compared passes over a NaN that the mapping makes on its way. A check
accepts just the numbers that a clamp leaves where they are.
-/
namespace Joinery

namespace Handler

/-! ### Handlers at numbers -/

section

variable {n : Number} (lo hi : Number) (number : n.isNaN = false)

include number

theorem isPlainNumber_ofNumber :
    (Value.ofNumber n).isPlainNumber = n.toDouble >>= fun _ => .ok true := by
  cases n with
  | int i => rfl
  | float x =>
    have plain : x.isNaN = false := number
    simp only [Value.ofNumber, Value.isPlainNumber, plain]
    rfl

/-- A number that no double comes near fails before it is changed. -/
theorem onNumber_ofNumber (change : Value → Except Misuse Value) :
    onNumber (.ofNumber n) change =
      n.toDouble >>= fun _ => change (.ofNumber n) >>= fun v => .ok ⟨v, none⟩ := by
  unfold onNumber
  rw [isPlainNumber_ofNumber number]
  cases n.toDouble <;> rfl

theorem validate_ofNumber (allowNull message : Value) :
    validate (.ofNumber lo) (.ofNumber hi) allowNull message (.ofNumber n) =
      n.toDouble >>= fun _ =>
        let refuse := reject (.ofNumber lo) (.ofNumber hi) message (.ofNumber n)
        if n.lt lo then
          refuse s!"Value {(Value.ofNumber n).shown} is below minimum {(Value.ofNumber lo).shown}"
        else if hi.lt n then
          refuse s!"Value {(Value.ofNumber n).shown} is above maximum {(Value.ofNumber hi).shown}"
        else .ok ⟨.ofNumber n, none⟩ := by
  have present : (Value.ofNumber n).isNull = false := by cases n <;> rfl
  unfold validate
  rw [isPlainNumber_ofNumber number, present, Value.lt_ofNumber, Value.lt_ofNumber]
  cases n.toDouble with
  | error => rfl
  | ok => cases n.lt lo <;> cases hi.lt n <;> rfl

end

theorem reject_ne_accept (min max message value v : Value) (words : String) :
    reject min max message value words ≠ .ok ⟨v, none⟩ := by
  intro accepted
  obtain ⟨-, _, failed⟩ | ⟨-, _, rejected⟩ := reject_cases min max message value words
  · rw [failed] at accepted
    cases accepted
  · rw [rejected] at accepted
    cases accepted

/-- A check accepts the numbers that a double comes near and that lie between its ends. -/
theorem validate_eq_accept_iff (lo hi : Number) {n : Number} (number : n.isNaN = false)
    {allowNull message v : Value} :
    validate (.ofNumber lo) (.ofNumber hi) allowNull message (.ofNumber n) = .ok ⟨v, none⟩ ↔
      v = .ofNumber n ∧ n.IsNear ∧ n.lt lo = false ∧ hi.lt n = false := by
  rw [validate_ofNumber lo hi number, bind_eq_ok_iff]
  constructor
  · rintro ⟨x, near, accepted⟩
    dsimp only at accepted
    split at accepted
    · exact (reject_ne_accept _ _ _ _ _ _ accepted).elim
    · split at accepted
      · exact (reject_ne_accept _ _ _ _ _ _ accepted).elim
      · next above below =>
        cases accepted
        exact ⟨rfl, ⟨x, near⟩, Bool.eq_false_iff.2 above, Bool.eq_false_iff.2 below⟩
  · rintro ⟨rfl, ⟨x, near⟩, above, below⟩
    exact ⟨x, near, by simp [above, below]⟩

theorem clampTo_ofNumber (lo hi n : Number) :
    clampTo (Value.ofNumber lo) (.ofNumber hi) (.ofNumber n) =
      .ok (.ofNumber (Number.clamped lo hi n)) := by
  unfold clampTo
  rw [Value.least_ofNumber, ok_bind, Value.greatest_ofNumber]
  rfl

/-- A clamp moves the numbers that a double comes near. -/
theorem clamp_eq_ok_iff (lo hi : Number) {n : Number} (number : n.isNaN = false) {answer : Checked} :
    (clamp (.ofNumber lo) (.ofNumber hi)).process (.ofNumber n) = .ok answer ↔
      n.IsNear ∧ answer = ⟨.ofNumber (Number.clamped lo hi n), none⟩ := by
  rw [process, onNumber_ofNumber number, clampTo_ofNumber, bind_eq_ok_iff]
  constructor
  · rintro ⟨x, near, moved⟩
    cases moved
    exact ⟨⟨x, near⟩, rfl⟩
  · rintro ⟨⟨x, near⟩, rfl⟩
    exact ⟨x, near, rfl⟩

theorem mapTo_ofNumber (inMin inMax outMin outMax : Binary64) {n : Number} {x : Binary64}
    (near : n.toDouble = .ok x) :
    mapTo (.float inMin) (.float inMax) (.float outMin) (.float outMax) (Value.ofNumber n) =
      mapTo (.float inMin) (.float inMax) (.float outMin) (.float outMax) (Value.float x) := by
  have moved : Arithmetic.sub (Value.ofNumber n) (.float inMin) = .ok (.float (x - inMin)) := by
    cases n with
    | int i =>
      change (Value.onNumbers Number.sub (.int i) (.float inMin)) = _
      simp only [Value.onNumbers, Value.number?, Number.sub, Number.combine, near, ok_bind]
      rfl
    | float y =>
      cases near
      rfl
  unfold mapTo
  rw [moved, Value.sub_float x]

/-- A limited mapping moves what it makes of a number between the ends of the range that it maps
onto, even when that is NaN. -/
theorem mapRange_eq_ok {inMin inMax outMin outMax : Binary64} {limited : Value}
    (apart : inMax.equals inMin = false) (limits : limited.isTruthy = true) {n : Number}
    (number : n.isNaN = false) {answer : Checked}
    (success : (mapRange (.float inMin) (.float inMax) (.float outMin) (.float outMax)
      limited).process (.ofNumber n) = .ok answer) :
    ∃ mapped, answer = ⟨.ofNumber (Number.clamped (.least (.float outMin) (.float outMax))
      (.greatest (.float outMin) (.float outMax)) mapped), none⟩ := by
  have differ : (Value.float inMax).equals (.float inMin) = false := apart
  rw [process, onNumber_ofNumber number, bind_eq_ok_iff] at success
  obtain ⟨x, near, success⟩ := success
  obtain ⟨y, image⟩ := exists_mapTo outMin outMax apart x
  have smaller := Value.least_ofNumber (.float outMin) (.float outMax)
  have larger := Value.greatest_ofNumber (.float outMin) (.float outMax)
  change Arithmetic.least (Value.float outMin) (.float outMax) = _ at smaller
  change Arithmetic.greatest (Value.float outMin) (.float outMax) = _ at larger
  have moved := clampTo_ofNumber (.least (.float outMin) (.float outMax))
    (.greatest (.float outMin) (.float outMax)) (.float y)
  change clampTo _ _ (Value.float y) = _ at moved
  simp only [differ, limits, mapTo_ofNumber _ _ _ _ near, image, smaller, larger, moved, ok_bind,
    Bool.false_eq_true, if_false, if_true] at success
  cases success
  exact ⟨.float y, rfl⟩

/-! ### Intervals -/

/-- The handler speaks of the interval between two ends: a check, a clamp of ends in order, or a
limited mapping between ranges, upwards or downwards. -/
inductive Confines (lo hi : Binary64) : Handler → Prop
  | validation (allowNull message : Value) :
    Confines lo hi (.validation (.float lo) (.float hi) allowNull message)
  | clamp : lo.le hi = true → Confines lo hi (.clamp (.float lo) (.float hi))
  | mapUp {inMin inMax : Binary64} {limited : Value} : lo.le hi = true →
    inMax.equals inMin = false → limited.isTruthy = true →
    Confines lo hi (.mapRange (.float inMin) (.float inMax) (.float lo) (.float hi) limited)
  | mapDown {inMin inMax : Binary64} {limited : Value} : lo.le hi = true →
    inMax.equals inMin = false → limited.isTruthy = true →
    Confines lo hi (.mapRange (.float inMin) (.float inMax) (.float hi) (.float lo) limited)

section

variable {lo hi : Binary64} {h : Handler} {n : Number} {result : Value}
  (hlo : lo.isNaN = false) (hhi : hi.isNaN = false)

include hlo hhi

/-- A number that a confining handler accepts becomes one within the interval. -/
theorem Confines.process_mem (confines : h.Confines lo hi) (number : n.isNaN = false)
    (accepted : h.process (.ofNumber n) = .ok ⟨result, none⟩) :
    ∃ m, result = .ofNumber m ∧ (Number.float lo).le m = true ∧ m.le (.float hi) = true := by
  have low : (Number.float lo).isNaN = false := hlo
  have high : (Number.float hi).isNaN = false := hhi
  cases confines with
  | validation allowNull message =>
    obtain ⟨rfl, -, above, below⟩ :=
      (validate_eq_accept_iff (.float lo) (.float hi) number).1 accepted
    exact ⟨n, rfl, (Number.le_iff low number).2 ((Number.lt_eq_false_iff number low).1 above),
      (Number.le_iff number high).2 ((Number.lt_eq_false_iff high number).1 below)⟩
  | clamp ascending =>
    obtain ⟨-, answer⟩ := (clamp_eq_ok_iff (.float lo) (.float hi) number).1 accepted
    cases answer
    exact ⟨_, rfl, Number.clamped_mem low high ascending n⟩
  | mapUp ascending apart limits =>
    obtain ⟨mapped, answer⟩ := mapRange_eq_ok apart limits number accepted
    cases answer
    exact ⟨_, rfl, Number.clamped_ends_mem low high ascending (.inl ⟨rfl, rfl⟩) mapped⟩
  | mapDown ascending apart limits =>
    obtain ⟨mapped, answer⟩ := mapRange_eq_ok apart limits number accepted
    cases answer
    exact ⟨_, rfl, Number.clamped_ends_mem low high ascending (.inr ⟨rfl, rfl⟩) mapped⟩

end

theorem through_of_runChain {hs : List Handler} {value result : Value}
    (valid : runChain hs value = .ok ⟨result, none⟩) : Through hs value result := by
  obtain ⟨other, through⟩ | ⟨reason, rejects⟩ | ⟨cause, breaks⟩ := runChain_ends hs value
  · rw [runChain_of_through through] at valid
    cases valid
    exact through
  · obtain ⟨given, rejected⟩ := runChain_of_rejectsWith rejects
    rw [rejected] at valid
    cases valid
  · rw [runChain_of_breaksWith breaks] at valid
    cases valid

/-- The last handler of a chain that accepts takes what the handlers before it gave. -/
theorem exists_of_runChain_concat {before : List Handler} {h : Handler} {value result : Value}
    (valid : runChain (before ++ [h]) value = .ok ⟨result, none⟩) :
    ∃ taken, runChain before value = .ok ⟨taken, none⟩ ∧
      h.process taken = .ok ⟨result, none⟩ := by
  obtain ⟨taken, first, last⟩ : ∃ taken, Through before value taken ∧
      Through [h] taken result := by
    have through := through_of_runChain valid
    clear valid
    induction before generalizing value with
    | nil => exact ⟨value, .nil value, through⟩
    | cons g rest ih =>
      cases through with
      | cons accepted onward =>
        obtain ⟨taken, first, last⟩ := ih onward
        exact ⟨taken, .cons accepted first, last⟩
  refine ⟨taken, runChain_of_through first, ?_⟩
  cases last with
  | cons accepted finished =>
    cases finished
    exact accepted

/-- A chain that ends with a confining handler gives, for a number that reaches this handler, a
number within the interval; and a check of an interval accepts just the numbers that the clamp
to it turns into equal ones. A check whose ends are crossed accepts no number. -/
theorem runChain_confined {lo hi : Binary64} (hlo : lo.isNaN = false) (hhi : hi.isNaN = false) :
    (∀ (h : Handler), h.Confines lo hi → ∀ (before : List Handler) (value result : Value),
      runChain (before ++ [h]) value = .ok ⟨result, none⟩ →
      ∃ taken, runChain before value = .ok ⟨taken, none⟩ ∧
        ∀ n : Number, taken = .ofNumber n → n.isNaN = false →
          ∃ m, result = .ofNumber m ∧ (Number.float lo).le m = true ∧
            m.le (.float hi) = true) ∧
    (∀ (n : Number) (allowNull message : Value), n.isNaN = false →
      (lo.le hi = true →
        ((∃ v, (validation (.float lo) (.float hi) allowNull message).process (.ofNumber n) =
            .ok ⟨v, none⟩) ↔
          ∃ m, (clamp (.float lo) (.float hi)).process (.ofNumber n) =
            .ok ⟨.ofNumber m, none⟩ ∧ m.equals n = true)) ∧
      (hi.lt lo = true → ∀ v,
        (validation (.float lo) (.float hi) allowNull message).process (.ofNumber n) ≠
          .ok ⟨v, none⟩)) := by
  have low : (Number.float lo).isNaN = false := hlo
  have high : (Number.float hi).isNaN = false := hhi
  refine ⟨fun h confines before value result valid => ?_,
    fun n allowNull message number => ⟨fun ascending => ?_, fun crossed v accepted => ?_⟩⟩
  · obtain ⟨taken, reaching, last⟩ := exists_of_runChain_concat valid
    refine ⟨taken, reaching, fun n same number => ?_⟩
    rw [same] at last
    exact confines.process_mem hlo hhi number last
  · have moves := Number.clamped_equals_iff low high ascending number
    constructor
    · rintro ⟨v, accepted⟩
      obtain ⟨-, near, inside⟩ :=
        (validate_eq_accept_iff (.float lo) (.float hi) number).1 accepted
      exact ⟨_, (clamp_eq_ok_iff (.float lo) (.float hi) number).2 ⟨near, rfl⟩, moves.2 inside⟩
    · rintro ⟨m, answered, same⟩
      obtain ⟨near, answer⟩ := (clamp_eq_ok_iff (.float lo) (.float hi) number).1 answered
      obtain rfl : m = Number.clamped (.float lo) (.float hi) n :=
        Value.ofNumber_injective (Checked.mk.inj answer).1
      exact ⟨_, (validate_eq_accept_iff (.float lo) (.float hi) number).2
        ⟨rfl, near, moves.1 same⟩⟩
  · obtain ⟨-, -, above, below⟩ :=
      (validate_eq_accept_iff (.float lo) (.float hi) number).1 accepted
    have inside := ((Number.lt_eq_false_iff number low).1 above).trans
      ((Number.lt_eq_false_iff high number).1 below)
    exact absurd ((Number.lt_iff high low).1 crossed) (not_lt.2 inside)

/-- A mapping of the whole line onto the numbers that are not negative, downwards. -/
def wholeLine : Handler :=
  .mapRange (.float (.infinite true)) (.float (.infinite false)) (.float (.infinite false))
    (.float (.zero false)) (.bool true)

/-- Zero, which the mapping makes NaN of on its way, comes out as an end of the interval. -/
theorem runChain_confined_wholeLine :
    let zero := Value.float (.zero false)
    let infinity := Binary64.infinite false
    wholeLine.Confines (.zero false) infinity ∧
    runChain ([.clamp zero (.float infinity)] ++ [wholeLine]) zero = .ok ⟨.float infinity, none⟩ ∧
    ∃ m, Value.float infinity = .ofNumber m ∧ (Number.float (.zero false)).le m = true ∧
      m.le (.float infinity) = true := by
  intro zero infinity
  have confines : wholeLine.Confines (.zero false) infinity := .mapDown rfl rfl rfl
  have mapped : runChain ([.clamp zero (.float infinity)] ++ [wholeLine]) zero =
      .ok ⟨.float infinity, none⟩ := rfl
  have reached : runChain [.clamp zero (.float infinity)] zero = .ok ⟨zero, none⟩ := rfl
  have low : (Binary64.zero false).isNaN = false := rfl
  have high : infinity.isNaN = false := rfl
  obtain ⟨taken, reaching, bounded⟩ := (runChain_confined low high).1 _ confines _ _ _ mapped
  rw [reached] at reaching
  cases reaching
  exact ⟨confines, mapped, bounded (.float (.zero false)) rfl rfl⟩

end Handler

end Joinery
