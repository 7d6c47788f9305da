import Joinery.Proofs.Binding.Reloading
import Joinery.Proofs.Number.Places

/-!
# Chains over doubles

Handlers that were made from documents hand doubles on: what they answer to a double is a double,
with or without a reason to reject it. Two of them cannot take every double. One that rounds fails
where no whole number is near the product with its power of ten, or the power counts as zero; and
one that rejects fails when its own message is no text. A chain fails when it comes to such a
handler with such a double, and answers otherwise.
-/
namespace Joinery

/-! ### Handlers from documents -/

namespace Handler

/-- The settings are as documents give them: doubles, and a whole number of places. -/
def IsRead : Handler → Prop
  | .passthrough => True
  | .validation min max _ _ | .clamp min max => (∃ x, min = .float x) ∧ ∃ x, max = .float x
  | .round places _ => ∃ i, places = .int i
  | .scale factor offset => (∃ x, factor = .float x) ∧ ∃ x, offset = .float x
  | .mapRange inMin inMax outMin outMax _ =>
    (∃ x, inMin = .float x) ∧ (∃ x, inMax = .float x) ∧ (∃ x, outMin = .float x) ∧
      ∃ x, outMax = .float x

theorem isRead_create {r : HandlerRegistry} {v : Value} {h : Handler}
    (success : r.create v = .ok h) : h.IsRead := by
  obtain ⟨kind, made⟩ := isMade_create success
  cases made with
  | passthrough => exact trivial
  | validation min max | clamp min max | scale min max => exact ⟨⟨min, rfl⟩, max, rfl⟩
  | round places mode => exact ⟨places, rfl⟩
  | mapRange inMin inMax outMin outMax limited =>
    exact ⟨⟨inMin, rfl⟩, ⟨inMax, rfl⟩, ⟨outMin, rfl⟩, outMax, rfl⟩

/-! ### What handlers answer to doubles -/

/-- A handler cannot take a double: it rounds, and the power of ten is too small for a double or the
product with it is not finite; or it rejects, in words of its own that are no text. NaN is not
rounded. -/
def Stumbles : Handler → Binary64 → Prop
  | .round (.int places) _, x =>
    x.isNaN = false ∧ (places < -323 ∨ (x * .ofDecimal false 1 places).isFinite = false)
  | .validation (.float min) (.float max) _ message, x =>
    (message.isTruthy = true ∧ message.kind ≠ .text) ∧
      (x.isNaN = true ∨ x.lt min = true ∨ max.lt x = true)
  | _, _ => False

section

variable {change : Value → Except Misuse Value} {x : Binary64}

theorem onNumber_of_isNaN (number : x.isNaN = true) :
    onNumber (.float x) change = .ok ⟨.float x, none⟩ := by
  simp only [onNumber, Value.isPlainNumber, number, Bool.not_true, ok_bind]
  rfl

theorem onNumber_of_number (number : x.isNaN = false) :
    onNumber (.float x) change = change (.float x) >>= fun y => .ok ⟨y, none⟩ := by
  simp only [onNumber, Value.isPlainNumber, number, Bool.not_false, ok_bind, if_true]
  rfl

/-- A change that gives a double for every double. -/
theorem exists_onNumber (h : ∃ y, change (.float x) = .ok (.float y)) :
    ∃ y, onNumber (.float x) change = .ok ⟨.float y, none⟩ := by
  obtain ⟨y, success⟩ := h
  cases number : x.isNaN with
  | true => exact ⟨x, onNumber_of_isNaN number⟩
  | false => exact ⟨y, by rw [onNumber_of_number number, success, ok_bind]⟩

end

theorem exists_clampTo (min max x : Binary64) :
    ∃ y, clampTo (Value.float min) (.float max) (.float x) = .ok (.float y) := by
  unfold clampTo
  rw [Value.least_float, ok_bind, Value.greatest_float]
  exact ⟨_, rfl⟩

theorem exists_mapTo {inMin inMax : Binary64} (outMin outMax : Binary64)
    (apart : inMax.equals inMin = false) (x : Binary64) :
    ∃ y, mapTo (Value.float inMin) (.float inMax) (.float outMin) (.float outMax) (.float x) =
      .ok (.float y) := by
  unfold mapTo
  rw [Value.sub_float, ok_bind, Value.sub_float, ok_bind,
    Value.div_float _ (Binary64.sub_equals_zero apart), ok_bind, Value.sub_float, ok_bind,
    Value.mul_float, ok_bind, Value.add_float]
  exact ⟨_, rfl⟩

/-- A rejection has its reason, unless the handler's own words are no text. -/
theorem reject_cases (min max message value : Value) (words : String) :
    ((message.isTruthy = true ∧ message.kind ≠ .text) ∧
      Fails (reject min max message value words)) ∨
    ¬ (message.isTruthy = true ∧ message.kind ≠ .text) ∧
      ∃ reason, reject min max message value words = .ok ⟨value, some reason⟩ := by
  unfold reject
  split
  · next truthy =>
    cases message with
    | text template => exact .inr ⟨fun wordless => wordless.2 rfl, _, rfl⟩
    | null | bool | int | float | list | object =>
      exact .inl ⟨⟨truthy, by simp [Value.kind]⟩, _, rfl⟩
  · next silent => exact .inr ⟨fun wordless => silent wordless.1, _, rfl⟩

theorem validate_float (min max x : Binary64) (allowNull message : Value) :
    validate (.float min) (.float max) allowNull message (.float x) =
      let refuse := reject (.float min) (.float max) message (.float x)
      if x.isNaN then refuse "Value must be a number"
      else if x.lt min then
        refuse s!"Value {(Value.float x).shown} is below minimum {(Value.float min).shown}"
      else if max.lt x then
        refuse s!"Value {(Value.float x).shown} is above maximum {(Value.float max).shown}"
      else .ok ⟨.float x, none⟩ := by
  unfold validate
  rw [Value.lt_float, Value.lt_float]
  cases number : x.isNaN with
  | true => simp [Value.isPlainNumber, Value.isNull, number, ok_bind]
  | false =>
    simp only [Value.isPlainNumber, Value.isNull, number, ok_bind]
    cases x.lt min <;> cases max.lt x <;> rfl

/-- A check lets a double through, or rejects it. -/
theorem validate_cases (min max x : Binary64) (allowNull message : Value) :
    (¬ (x.isNaN = true ∨ x.lt min = true ∨ max.lt x = true) ∧
      validate (.float min) (.float max) allowNull message (.float x) = .ok ⟨.float x, none⟩) ∨
    (x.isNaN = true ∨ x.lt min = true ∨ max.lt x = true) ∧
      ∃ words, validate (.float min) (.float max) allowNull message (.float x) =
        reject (.float min) (.float max) message (.float x) words := by
  rw [validate_float]
  cases x.isNaN with
  | true => exact .inr ⟨.inl rfl, _, rfl⟩
  | false =>
    cases x.lt min with
    | true => exact .inr ⟨.inr (.inl rfl), _, rfl⟩
    | false =>
      cases max.lt x with
      | true => exact .inr ⟨.inr (.inr rfl), _, rfl⟩
      | false => exact .inl ⟨by simp, rfl⟩

theorem exists_scale (factor offset x : Binary64) :
    ∃ y, (scale (.float factor) (.float offset)).process (.float x) = .ok ⟨.float y, none⟩ := by
  rw [process]
  exact exists_onNumber ⟨x * factor + offset, rfl⟩

theorem exists_mapRange (inMin inMax outMin outMax x : Binary64) (limited : Value) :
    ∃ y, (mapRange (.float inMin) (.float inMax) (.float outMin) (.float outMax) limited).process
      (.float x) = .ok ⟨.float y, none⟩ := by
  rw [process]
  refine exists_onNumber ?_
  have same : (Value.float inMax).equals (.float inMin) = inMax.equals inMin := rfl
  rw [same]
  cases apart : inMax.equals inMin with
  | true => exact ⟨x, rfl⟩
  | false =>
    obtain ⟨mapped, success⟩ := exists_mapTo outMin outMax apart x
    obtain ⟨y, clamped⟩ := exists_clampTo (if outMax.lt outMin then outMax else outMin)
      (if outMin.lt outMax then outMax else outMin) mapped
    rw [success, Value.least_float, Value.greatest_float]
    simp only [ok_bind, Bool.false_eq_true, if_false]
    split
    · exact ⟨y, clamped⟩
    · exact ⟨mapped, rfl⟩

/-- A handler from a document answers a double with a double, or cannot take it. -/
theorem process_cases {h : Handler} (read : h.IsRead) (x : Binary64) :
    (h.Stumbles x ∧ Fails (h.process (.float x))) ∨
    ¬ h.Stumbles x ∧ ∃ y rejection, h.process (.float x) = .ok ⟨.float y, rejection⟩ := by
  cases h with
  | passthrough => exact .inr ⟨id, x, none, rfl⟩
  | validation min max allowNull message =>
    obtain ⟨⟨min, rfl⟩, ⟨max, rfl⟩⟩ := read
    obtain ⟨inside, accepted⟩ | ⟨outside, words, rejected⟩ :=
      validate_cases min max x allowNull message
    · exact .inr ⟨fun stumbles => inside stumbles.2, x, none, accepted⟩
    · obtain ⟨wordless, fails⟩ | ⟨worded, reason, answer⟩ :=
        reject_cases (.float min) (.float max) message (.float x) words
      · refine .inl ⟨⟨wordless, outside⟩, ?_⟩
        rwa [process, rejected]
      · exact .inr ⟨fun stumbles => worded stumbles.1, x, some reason, rejected.trans answer⟩
  | clamp min max =>
    obtain ⟨⟨min, rfl⟩, ⟨max, rfl⟩⟩ := read
    obtain ⟨y, success⟩ := exists_onNumber (exists_clampTo min max x)
    exact .inr ⟨id, y, none, success⟩
  | round places mode =>
    obtain ⟨places, rfl⟩ := read
    rw [process]
    cases number : x.isNaN with
    | true =>
      rw [onNumber_of_isNaN number]
      refine .inr ⟨fun stumbles => ?_, x, none, rfl⟩
      cases number.symm.trans stumbles.1
    | false =>
      rw [onNumber_of_number number]
      obtain ⟨overruns, fails⟩ | ⟨inRange, y, success⟩ := round_cases mode places x
      · exact .inl ⟨⟨number, overruns⟩, fails_bind_iff.2 (.inl fails)⟩
      · exact .inr ⟨fun stumbles => inRange stumbles.2, y, none, by rw [success, ok_bind]⟩
  | scale factor offset =>
    obtain ⟨⟨factor, rfl⟩, ⟨offset, rfl⟩⟩ := read
    obtain ⟨y, success⟩ := exists_scale factor offset x
    exact .inr ⟨id, y, none, success⟩
  | mapRange inMin inMax outMin outMax limited =>
    obtain ⟨⟨inMin, rfl⟩, ⟨inMax, rfl⟩, ⟨outMin, rfl⟩, ⟨outMax, rfl⟩⟩ := read
    obtain ⟨y, success⟩ := exists_mapRange inMin inMax outMin outMax x limited
    exact .inr ⟨id, y, none, success⟩

/-! ### Chains -/

/-- A chain comes to a handler with a double that the handler cannot take. -/
def StumblesOn (hs : List Handler) (x : Binary64) : Prop :=
  ∃ before h after y, hs = before ++ h :: after ∧
    runChain before (.float x) = .ok ⟨.float y, none⟩ ∧ h.Stumbles y

theorem runChain_cons (h : Handler) (rest : List Handler) (value : Value) :
    runChain (h :: rest) value = h.process value >>= fun checked =>
      match checked.rejection with
      | some _ => .ok checked
      | none => runChain rest checked.value :=
  rfl

theorem runChain_of_rejected {h : Handler} {value : Value} {checked : Checked} {reason : String}
    (rest : List Handler) (rejected : h.process value = .ok checked)
    (because : checked.rejection = some reason) : runChain (h :: rest) value = .ok checked := by
  rw [runChain_cons, rejected, ok_bind, because]

theorem runChain_of_accepted {h : Handler} {value next : Value} (rest : List Handler)
    (accepted : h.process value = .ok ⟨next, none⟩) :
    runChain (h :: rest) value = runChain rest next := by
  rw [runChain_cons, accepted, ok_bind]

theorem not_stumblesOn_nil (x : Binary64) : ¬ StumblesOn [] x := by
  rintro ⟨before, h, after, y, order, -⟩
  simp at order

theorem stumblesOn_of_stumbles {h : Handler} {x : Binary64} (rest : List Handler)
    (stumbles : h.Stumbles x) : StumblesOn (h :: rest) x :=
  ⟨[], h, rest, x, rfl, rfl, stumbles⟩

/-- A chain whose first handler has answered. -/
theorem stumblesOn_cons_iff {h : Handler} {rest : List Handler} {x y : Binary64}
    {rejection : Option String} (answers : ¬ h.Stumbles x)
    (answer : h.process (.float x) = .ok ⟨.float y, rejection⟩) :
    StumblesOn (h :: rest) x ↔ rejection = none ∧ StumblesOn rest y := by
  constructor
  · rintro ⟨before, h', after, z, order, through, stumbles⟩
    cases before with
    | nil =>
      cases order
      cases through
      exact absurd stumbles answers
    | cons first before =>
      cases order
      cases rejection with
      | some reason =>
        rw [runChain_of_rejected before answer rfl] at through
        cases through
      | none =>
        rw [runChain_of_accepted before answer] at through
        exact ⟨rfl, before, h', after, z, rfl, through, stumbles⟩
  · rintro ⟨rfl, before, h', after, z, rfl, through, stumbles⟩
    exact ⟨h :: before, h', after, z, rfl, (runChain_of_accepted before answer).trans through,
      stumbles⟩

/-- A chain of handlers from documents answers a double with a double, unless it comes to a handler
that cannot take the double it gets. -/
theorem runChain_cases {hs : List Handler} (read : ∀ h ∈ hs, h.IsRead) (x : Binary64) :
    (StumblesOn hs x ∧ Fails (runChain hs (.float x))) ∨
    ¬ StumblesOn hs x ∧ ∃ y rejection, runChain hs (.float x) = .ok ⟨.float y, rejection⟩ := by
  induction hs generalizing x with
  | nil => exact .inr ⟨not_stumblesOn_nil x, x, none, rfl⟩
  | cons h rest ih =>
    obtain ⟨first, others⟩ := List.forall_mem_cons.1 read
    obtain ⟨stumbles, fails⟩ | ⟨answers, y, rejection, answer⟩ := process_cases first x
    · refine .inl ⟨stumblesOn_of_stumbles rest stumbles, ?_⟩
      rw [runChain_cons]
      exact fails_bind_iff.2 (.inl fails)
    · rw [stumblesOn_cons_iff answers answer]
      cases rejection with
      | some reason =>
        exact .inr ⟨nofun, y, some reason, runChain_of_rejected rest answer rfl⟩
      | none =>
        rw [runChain_of_accepted rest answer]
        simpa using ih others y

end Handler

namespace Binding

variable {wrapped : Binding} {hs : List Handler} {value result : Value} {reason : String}
  {cause : Misuse} {raw : Outcome Value}

theorem afterChain_of_accepted (lastError : Option String) (given : raw.result = .ok value)
    (answer : Handler.runChain hs value = .ok ⟨result, none⟩) :
    afterChain wrapped hs lastError raw =
      ⟨⟨.ok result, raw.notices⟩, .processed wrapped hs none⟩ := by
  simp only [afterChain, given, answer]

theorem afterChain_of_rejected (lastError : Option String) (given : raw.result = .ok value)
    (answer : Handler.runChain hs value = .ok ⟨result, some reason⟩) :
    afterChain wrapped hs lastError raw =
      ⟨⟨.ok value, raw.notices ++ [.rejected reason]⟩, .processed wrapped hs (some reason)⟩ := by
  simp only [afterChain, given, answer]

theorem afterChain_of_failed (lastError : Option String) (given : raw.result = .ok value)
    (answer : Handler.runChain hs value = .error cause) :
    afterChain wrapped hs lastError raw =
      ⟨⟨.error (.misuse cause), raw.notices⟩, .processed wrapped hs lastError⟩ := by
  simp only [afterChain, given, answer]

theorem afterChain_of_stopped (hs : List Handler) (lastError : Option String) {failure : Failure}
    (given : raw.result = .error failure) :
    afterChain wrapped hs lastError raw = ⟨raw, .processed wrapped hs lastError⟩ := by
  simp only [afterChain, given]

variable {env : Environment}

/-- A chain that fails makes a binding fail. -/
theorem fails_resolve_processed (lastError : Option String)
    (given : (wrapped.resolve env).outcome.result = .ok value)
    (fails : Fails (Handler.runChain hs value)) :
    Fails ((processed wrapped hs lastError).resolve env).outcome.result := by
  obtain ⟨cause, failed⟩ := fails
  rw [resolve, afterChain_of_failed lastError given failed]
  exact fails_error (Failure.misuse cause)

/-- A chain gives its result, or the value before it if that is rejected. -/
theorem resolve_processed_of_ok (lastError : Option String) {rejection : Option String}
    (given : (wrapped.resolve env).outcome.result = .ok value)
    (answer : Handler.runChain hs value = .ok ⟨result, rejection⟩) :
    ((processed wrapped hs lastError).resolve env).outcome.result =
      .ok (if rejection.isSome then value else result) := by
  rw [resolve]
  cases rejection with
  | none => rw [afterChain_of_accepted lastError given answer, Option.isSome_none, if_neg nofun]
  | some reason =>
    rw [afterChain_of_rejected lastError given answer, Option.isSome_some, if_pos rfl]

end Binding

namespace Handler

/-- Handlers that are made from a list of documents answer a double with a double, unless the chain
comes to one that cannot take the double it gets; then it fails. A chain around a binding that gives
a double gives a double under the same condition. -/
theorem runChain_answers_iff {r : HandlerRegistry} {docs : List Value} {hs : List Handler}
    (created : docs.mapM r.create = .ok hs) (x : Binary64) :
    ((∃ y rejection, runChain hs (.float x) = .ok ⟨.float y, rejection⟩) ↔ ¬ StumblesOn hs x) ∧
    (StumblesOn hs x → Fails (runChain hs (.float x))) ∧
    ∀ env (wrapped : Binding) lastError,
      (wrapped.resolve env).outcome.result = .ok (.float x) →
      ((∃ y, ((Binding.processed wrapped hs lastError).resolve env).outcome.result =
          .ok (.float y)) ↔ ¬ StumblesOn hs x) := by
  have read : ∀ h ∈ hs, h.IsRead := by
    intro h member
    obtain ⟨doc, -, success⟩ := exists_of_mem_mapM created member
    exact isRead_create success
  obtain ⟨stumbles, fails⟩ | ⟨answers, y, rejection, answer⟩ := runChain_cases read x
  · refine ⟨iff_of_false ?_ (not_not_intro stumbles), fun _ => fails,
      fun env wrapped lastError raw => iff_of_false ?_ (not_not_intro stumbles)⟩
    · rintro ⟨y, rejection, answer⟩
      exact not_fails_ok _ (answer ▸ fails)
    · rintro ⟨y, result⟩
      exact not_fails_ok _ (result ▸ Binding.fails_resolve_processed lastError raw fails)
  · refine ⟨iff_of_true ⟨y, rejection, answer⟩ answers, fun stumbles => absurd stumbles answers,
      fun env wrapped lastError raw => iff_of_true ?_ answers⟩
    rw [Binding.resolve_processed_of_ok lastError raw answer]
    cases rejection with
    | some reason => exact ⟨x, rfl⟩
    | none => exact ⟨y, rfl⟩

/-- The document of a handler that rounds to two places. -/
def roundingTwo : Value := .object [("type", .text "round"), ("decimals", .int 2)]

theorem created_roundingTwo : [roundingTwo].mapM HandlerRegistry.builtin.create =
    .ok [.round (.int 2) .nearest] :=
  rfl

/-- A small number is rounded to two places, and one near the greatest double is not. -/
theorem runChain_answers_iff_roundingTwo : ∃ hs,
    [roundingTwo].mapM HandlerRegistry.builtin.create = .ok hs ∧
    ¬ StumblesOn hs (.ofDecimal false 12345 (-3)) ∧ StumblesOn hs (.ofInt (2 ^ 1023)) := by
  have answered : (runChain [.round (.int 2) .nearest]
      (.float (.ofDecimal false 12345 (-3)))).toOption.isSome = true := by decide +kernel
  have failed : (runChain [.round (.int 2) .nearest]
      (.float (.ofInt (2 ^ 1023)))).toOption.isSome = false := by decide +kernel
  refine ⟨_, created_roundingTwo, fun stumbles => ?_, ?_⟩
  · obtain ⟨cause, fails⟩ := (runChain_answers_iff created_roundingTwo _).2.1 stumbles
    rw [fails] at answered
    cases answered
  · by_contra answers
    obtain ⟨y, rejection, answer⟩ := (runChain_answers_iff created_roundingTwo _).1.2 answers
    rw [answer] at failed
    cases failed

/-- An infinity is not rounded, although NaN is passed through. -/
theorem not_forall_runChain_answers :
    ¬ ∀ (r : HandlerRegistry) (docs : List Value) (hs : List Handler) (x : Binary64),
      docs.mapM r.create = .ok hs → ∃ checked, runChain hs (.float x) = .ok checked := by
  intro answers
  have failed : (runChain [.round (.int 2) .nearest]
      (.float (.infinite false))).toOption.isSome = false := by decide +kernel
  obtain ⟨checked, answer⟩ := answers _ _ _ (.infinite false) created_roundingTwo
  rw [answer] at failed
  cases failed

end Handler

end Joinery
