import Joinery.Proofs.Binding.Making
import Joinery.Proofs.Parameter.Reloading

/-!
# Bindings written and read back

A binding that was made from a document is written so that a binding is made from what was written:
constants, parameters, formulas, and chains of handlers around any of them. It is the same binding but
for infinite ends of ranges, which become open. So it is the same one exactly when all its ranges are
infinite to the open sides only, and it is written as the first one was in any case.
-/
namespace Joinery

/-! ### Handlers -/

namespace Handler

/-- Whether the range of a handler does not begin at infinity nor end at minus infinity. -/
def isBounded : Handler → Bool
  | .validation min max _ _ | .clamp min max => Value.isRange min max
  | _ => true

theorem exists_of_readDouble {v setting : Value} {name : String} {default : Binary64}
    (success : readDouble v name default = .ok setting) : ∃ x, setting = .float x := by
  obtain ⟨field, -, success⟩ := bind_eq_ok_iff.1 success
  obtain ⟨x, -, success⟩ := bind_eq_ok_iff.1 success
  cases success
  exact ⟨x, rfl⟩

/-- The handler with its infinite ends of ranges open. -/
def reopened : Handler → Handler
  | .validation min max allowNull message =>
    .validation (min.reopened true) (max.reopened false) allowNull message
  | .clamp min max => .clamp (min.reopened true) (max.reopened false)
  | h => h

theorem reopened_eq_self_iff (h : Handler) : h.reopened = h ↔ h.isBounded = true := by
  cases h with
  | validation | clamp =>
    rw [isBounded, Value.isRange_iff]
    simp [reopened]
  | passthrough | round | scale | mapRange => exact iff_of_true rfl rfl

theorem toValue_reopened (h : Handler) : h.reopened.toValue = h.toValue := by
  cases h with
  | validation | clamp =>
    simp only [toValue, settings, reopened, Value.rangeEnd_reopened]
    rfl
  | passthrough | round | scale | mapRange => rfl

/-- The handlers of each kind that documents give. -/
inductive IsMade : Kind → Handler → Prop
  | passthrough : IsMade .passthrough .passthrough
  | validation (min max : Binary64) (allowNull : Bool) (message : Value) :
    IsMade .validation (.validation (.float min) (.float max) (.bool allowNull) message)
  | clamp (min max : Binary64) : IsMade .clamp (.clamp (.float min) (.float max))
  | round (places : Int) (mode : Rounding) : IsMade .round (.round (.int places) mode)
  | scale (factor offset : Binary64) : IsMade .scale (.scale (.float factor) (.float offset))
  | mapRange (inMin inMax outMin outMax : Binary64) (limited : Bool) :
    IsMade .mapRange (.mapRange (.float inMin) (.float inMax) (.float outMin) (.float outMax)
      (.bool limited))

theorem isMade_ofValue {kind : Kind} {v : Value} {h : Handler} (success : ofValue kind v = .ok h) :
    IsMade kind h := by
  cases kind with
  | passthrough =>
    cases success
    exact .passthrough
  | validation =>
    obtain ⟨asked, -, success⟩ := bind_eq_ok_iff.1 success
    obtain ⟨min, hmin, success⟩ := bind_eq_ok_iff.1 success
    obtain ⟨asked, -, success⟩ := bind_eq_ok_iff.1 success
    obtain ⟨max, hmax, success⟩ := bind_eq_ok_iff.1 success
    obtain ⟨allowNull, -, success⟩ := bind_eq_ok_iff.1 success
    obtain ⟨message, -, success⟩ := bind_eq_ok_iff.1 success
    cases success
    obtain ⟨a, rfl⟩ := Value.exists_of_readRangeEnd hmin
    obtain ⟨b, rfl⟩ := Value.exists_of_readRangeEnd hmax
    exact .validation a b allowNull.isTruthy message
  | clamp =>
    obtain ⟨asked, -, success⟩ := bind_eq_ok_iff.1 success
    obtain ⟨min, hmin, success⟩ := bind_eq_ok_iff.1 success
    obtain ⟨asked, -, success⟩ := bind_eq_ok_iff.1 success
    obtain ⟨max, hmax, success⟩ := bind_eq_ok_iff.1 success
    cases success
    obtain ⟨a, rfl⟩ := Value.exists_of_readRangeEnd hmin
    obtain ⟨b, rfl⟩ := Value.exists_of_readRangeEnd hmax
    exact .clamp a b
  | round =>
    obtain ⟨asked, -, success⟩ := bind_eq_ok_iff.1 success
    obtain ⟨places, -, success⟩ := bind_eq_ok_iff.1 success
    obtain ⟨asked, -, success⟩ := bind_eq_ok_iff.1 success
    obtain ⟨mode, -, success⟩ := bind_eq_ok_iff.1 success
    cases success
    exact .round places mode
  | scale =>
    obtain ⟨factor, hfactor, success⟩ := bind_eq_ok_iff.1 success
    obtain ⟨offset, hoffset, success⟩ := bind_eq_ok_iff.1 success
    cases success
    obtain ⟨a, rfl⟩ := exists_of_readDouble hfactor
    obtain ⟨b, rfl⟩ := exists_of_readDouble hoffset
    exact .scale a b
  | mapRange =>
    obtain ⟨inMin, hinMin, success⟩ := bind_eq_ok_iff.1 success
    obtain ⟨inMax, hinMax, success⟩ := bind_eq_ok_iff.1 success
    obtain ⟨outMin, houtMin, success⟩ := bind_eq_ok_iff.1 success
    obtain ⟨outMax, houtMax, success⟩ := bind_eq_ok_iff.1 success
    obtain ⟨limited, -, success⟩ := bind_eq_ok_iff.1 success
    cases success
    obtain ⟨a, rfl⟩ := exists_of_readDouble hinMin
    obtain ⟨b, rfl⟩ := exists_of_readDouble hinMax
    obtain ⟨c, rfl⟩ := exists_of_readDouble houtMin
    obtain ⟨d, rfl⟩ := exists_of_readDouble houtMax
    exact .mapRange a b c d limited.isTruthy

theorem isMade_create {r : HandlerRegistry} {v : Value} {h : Handler}
    (success : r.create v = .ok h) : ∃ kind, IsMade kind h := by
  obtain ⟨word, -, success⟩ := bind_eq_ok_iff.1 success
  obtain ⟨found, -, success⟩ := bind_eq_ok_iff.1 success
  cases found with
  | none =>
    obtain ⟨keys, -, success⟩ := bind_eq_ok_iff.1 success
    cases success
  | some kind => exact ⟨kind, isMade_ofValue (liftM_eq_ok_iff.1 success)⟩

theorem IsMade.kind_eq {kind : Kind} {h : Handler} (made : IsMade kind h) : h.kind = kind := by
  cases made <;> rfl

/-- The settings of a handler that documents give are written so that the handler is made from them
again, with its infinite ends open. -/
theorem IsMade.settings_back {kind : Kind} {h : Handler} (made : IsMade kind h) :
    ∃ settings, h.settings = .ok settings ∧
      ofValue kind (.object (("type", .text kind.label) :: settings)) = .ok h.reopened := by
  cases made with
  | passthrough | scale | mapRange => exact ⟨_, rfl, rfl⟩
  | round places mode =>
    refine ⟨_, rfl, ?_⟩
    cases mode <;> rfl
  | validation min max allowNull message =>
    obtain ⟨low, high, hlow, lowBack, hhigh, highBack⟩ :=
      Value.exists_rangeEnds ⟨min, rfl⟩ ⟨max, rfl⟩
    refine ⟨[("min", low), ("max", high), ("allowNull", .bool allowNull),
      ("errorMessage", message)], ?_, ?_⟩
    · rw [settings, hlow, hhigh]
      rfl
    · refine bind_eq_ok_iff.2 ⟨low, rfl, bind_eq_ok_iff.2 ⟨_, lowBack, ?_⟩⟩
      exact bind_eq_ok_iff.2 ⟨high, rfl, bind_eq_ok_iff.2 ⟨_, highBack, rfl⟩⟩
  | clamp min max =>
    obtain ⟨low, high, hlow, lowBack, hhigh, highBack⟩ :=
      Value.exists_rangeEnds ⟨min, rfl⟩ ⟨max, rfl⟩
    refine ⟨[("min", low), ("max", high)], ?_, ?_⟩
    · rw [settings, hlow, hhigh]
      rfl
    · refine bind_eq_ok_iff.2 ⟨low, rfl, bind_eq_ok_iff.2 ⟨_, lowBack, ?_⟩⟩
      exact bind_eq_ok_iff.2 ⟨high, rfl, bind_eq_ok_iff.2 ⟨_, highBack, rfl⟩⟩

/-- A handler that was made from a document is written so that it is made again, with its infinite
ends open. -/
theorem reopened_back {v : Value} {h : Handler}
    (success : HandlerRegistry.builtin.create v = .ok h) :
    ∃ w, h.toValue = .ok w ∧ HandlerRegistry.builtin.create w = .ok h.reopened := by
  obtain ⟨kind, made⟩ := isMade_create success
  obtain rfl := made.kind_eq
  obtain ⟨settings, hsettings, back⟩ := made.settings_back
  refine ⟨_, bind_eq_ok_iff.2 ⟨settings, hsettings, rfl⟩, ?_⟩
  have known : HandlerRegistry.builtin.kinds.find? (.text h.kind.label) = .ok (some h.kind) := by
    cases h.kind <;> rfl
  refine bind_eq_ok_iff.2 ⟨.text h.kind.label, rfl, bind_eq_ok_iff.2 ⟨some h.kind, ?_, ?_⟩⟩
  · rw [known]
    rfl
  · exact liftM_eq_ok_iff.2 back

end Handler

/-! ### Bindings -/

namespace Binding

open BindingRegistry (exists_word_of_factoryFor find?_factories_cases create_plain
  create_of_chain)

/-- Whether all handlers in a binding have ranges that are infinite to the open sides only. -/
def isBounded : Binding → Bool
  | .processed wrapped handlers _ => wrapped.isBounded && handlers.all Handler.isBounded
  | _ => true

/-- The binding with all infinite ends of ranges open. -/
def reopened : Binding → Binding
  | .processed wrapped handlers lastError =>
    .processed wrapped.reopened (handlers.map Handler.reopened) lastError
  | b => b

theorem map_reopened_eq_self_iff (handlers : List Handler) :
    handlers.map Handler.reopened = handlers ↔ handlers.all Handler.isBounded = true := by
  induction handlers with
  | nil => exact iff_of_true rfl rfl
  | cons h rest ih =>
    rw [List.map_cons, List.cons.injEq, Handler.reopened_eq_self_iff, ih, List.all_cons,
      Bool.and_eq_true]

/-- A binding stays the same exactly when its ranges are infinite to the open sides only. -/
theorem reopened_eq_self_iff (b : Binding) : b.reopened = b ↔ b.isBounded = true := by
  induction b with
  | literal | parameter | expression | foreign => exact iff_of_true rfl rfl
  | processed wrapped handlers lastError ih =>
    rw [isBounded, Bool.and_eq_true, ← ih, ← map_reopened_eq_self_iff]
    simp [reopened]

/-- Documents do not tell an infinite end from an open one. -/
theorem toValue_reopened (b : Binding) : b.reopened.toValue = b.toValue := by
  induction b with
  | literal | parameter | expression | foreign => rfl
  | processed wrapped handlers lastError ih =>
    simp only [reopened, toValue, ih, List.mapM_map, Function.comp_def, Handler.toValue_reopened]

theorem factoryFor_builtin {v : Value} {factory : Factory}
    (success : BindingRegistry.builtin.factoryFor v = .ok factory) :
    factory = .plain literalOf ∨ factory = .plain parameterOf ∨ factory = .plain expressionOf ∨
      factory = .chain := by
  cases v with
  | object fields =>
    obtain ⟨word, -, found⟩ := exists_word_of_factoryFor success
    obtain ⟨-, made⟩ | ⟨-, made⟩ | ⟨-, made⟩ | ⟨-, made⟩ := find?_factories_cases found
    · exact .inl made
    · exact .inr (.inl made)
    · exact .inr (.inr (.inl made))
    · exact .inr (.inr (.inr made))
  | null | bool | int | float | text | list => cases success

theorem literal_back {v : Value} {b : Binding} (success : literalOf v = .ok b) :
    ∃ w, b.toValue = .ok w ∧ BindingRegistry.builtin.create w = .ok b.reopened := by
  obtain ⟨value, -, success⟩ := bind_eq_ok_iff.1 success
  split at success
  · next x hx =>
    cases success
    exact ⟨_, rfl, (create_plain rfl).trans rfl⟩
  · cases success
  · cases success

theorem parameter_back {v : Value} {b : Binding} (success : parameterOf v = .ok b) :
    ∃ w, b.toValue = .ok w ∧ BindingRegistry.builtin.create w = .ok b.reopened := by
  obtain ⟨id, -, success⟩ := bind_eq_ok_iff.1 success
  split at success
  · next truthy =>
    cases success
    refine ⟨_, rfl, (create_plain rfl).trans ?_⟩
    exact bind_eq_ok_iff.2 ⟨id, rfl, if_pos truthy⟩
  · cases success

theorem expression_back {v : Value} {b : Binding} (success : expressionOf v = .ok b) :
    ∃ w, b.toValue = .ok w ∧ BindingRegistry.builtin.create w = .ok b.reopened := by
  obtain ⟨field, -, success⟩ := bind_eq_ok_iff.1 success
  split at success
  · next text =>
    split at success
    · cases success
    · next nonempty =>
      cases success
      refine ⟨_, rfl, (create_plain rfl).trans ?_⟩
      exact bind_eq_ok_iff.2 ⟨.text text, rfl, if_neg nonempty⟩
  · cases success

/-- A chain is made from a document that lists its handlers and what it wraps. -/
theorem create_chain {wrapped : List (String × Value)} {inner : Binding} {handlers : List Handler}
    {ws : List Value} (hinner : BindingRegistry.builtin.create (.object wrapped) = .ok inner)
    (hws : ws.mapM HandlerRegistry.builtin.create = .ok handlers) :
    BindingRegistry.builtin.create (.object [("type", .text "processed"),
      ("wrappedBinding", .object wrapped), ("handlers", .list ws)]) =
      .ok (.processed inner handlers none) := by
  have factory : BindingRegistry.builtin.factoryFor (.object [("type", .text "processed"),
      ("wrappedBinding", .object wrapped), ("handlers", .list ws)]) = .ok .chain := rfl
  have handlersMade : BindingRegistry.builtin.handlersOf (.object [("type", .text "processed"),
      ("wrappedBinding", .object wrapped), ("handlers", .list ws)]) = .ok handlers := by
    refine bind_eq_ok_iff.2 ⟨.list ws, rfl, bind_eq_ok_iff.2 ⟨ws, ?_, hws⟩⟩
    exact liftM_eq_ok_iff.2 (Value.itemsOrNone_list ws)
  have found : [("type", Value.text "processed"), ("wrappedBinding", .object wrapped),
      ("handlers", .list ws)].lookup "wrappedBinding" = some (.object wrapped) := rfl
  rw [create_of_chain factory, found]
  dsimp only
  rw [hinner, handlersMade]
  rfl

/-- A binding is written as an object. -/
theorem exists_fields_of_toValue {b : Binding} {w : Value} (success : b.toValue = .ok w) :
    ∃ fields, w = .object fields := by
  cases b with
  | literal | parameter | expression =>
    cases success
    exact ⟨_, rfl⟩
  | processed =>
    obtain ⟨inner, -, success⟩ := bind_eq_ok_iff.1 success
    obtain ⟨hs, -, success⟩ := bind_eq_ok_iff.1 success
    cases success
    exact ⟨_, rfl⟩
  | foreign => cases success

/-- What a chain is made from: a document that holds a smaller one for what is wrapped. -/
theorem exists_of_create_chain {v : Value} {b : Binding}
    (factory : BindingRegistry.builtin.factoryFor v = .ok .chain)
    (success : BindingRegistry.builtin.create v = .ok b) :
    ∃ wrapped inner handlers, sizeOf (Value.object wrapped) < sizeOf v ∧
      BindingRegistry.builtin.create (.object wrapped) = .ok inner ∧
      BindingRegistry.builtin.handlersOf v = .ok handlers ∧ b = .processed inner handlers none := by
  cases v with
  | object fields =>
    rw [create_of_chain factory] at success
    split at success
    · next wrapped found =>
      obtain ⟨inner, made, success⟩ := bind_eq_ok_iff.1 success
      obtain ⟨handlers, listed, success⟩ := bind_eq_ok_iff.1 success
      cases success
      exact ⟨wrapped, inner, handlers, BindingRegistry.sizeOf_lookup_lt found, made, listed, rfl⟩
    · cases success
  | null | bool | int | float | text | list => cases factory

/-- A binding that was made from a document is written so that it is made again, with its infinite
ends open. -/
theorem reopened_back {v : Value} {b : Binding}
    (success : BindingRegistry.builtin.create v = .ok b) :
    ∃ w, b.toValue = .ok w ∧ BindingRegistry.builtin.create w = .ok b.reopened := by
  cases hfactory : BindingRegistry.builtin.factoryFor v with
  | error failure =>
    unfold BindingRegistry.create at success
    rw [hfactory] at success
    cases success
  | ok factory =>
    obtain rfl | rfl | rfl | rfl := factoryFor_builtin hfactory
    · exact literal_back ((create_plain hfactory).symm.trans success)
    · exact parameter_back ((create_plain hfactory).symm.trans success)
    · exact expression_back ((create_plain hfactory).symm.trans success)
    · obtain ⟨wrapped, inner, handlers, smaller, made, listed, rfl⟩ :=
        exists_of_create_chain hfactory success
      obtain ⟨w, hw, back⟩ := reopened_back made
      obtain ⟨fields, rfl⟩ := exists_fields_of_toValue hw
      have each : ∀ h ∈ handlers, ∃ w, h.toValue = .ok w ∧
          HandlerRegistry.builtin.create w = .ok h.reopened := by
        obtain ⟨list, -, listed⟩ := bind_eq_ok_iff.1 listed
        obtain ⟨items, -, listed⟩ := bind_eq_ok_iff.1 listed
        intro h member
        obtain ⟨item, -, created⟩ := exists_of_mem_mapM listed member
        exact Handler.reopened_back created
      obtain ⟨ws, hws, backs⟩ := exists_mapM each
      refine ⟨_, bind_eq_ok_iff.2 ⟨_, hw, bind_eq_ok_iff.2 ⟨ws, hws, rfl⟩⟩, ?_⟩
      refine create_chain back (mapM_eq_ok_iff.2 ?_)
      rw [List.forall₂_map_right_iff]
      exact backs.flip
termination_by sizeOf v
decreasing_by exact smaller

theorem written_back {v : Value} {b : Binding} (success : BindingRegistry.builtin.create v = .ok b)
    (bounded : b.isBounded = true) :
    ∃ w, b.toValue = .ok w ∧ BindingRegistry.builtin.create w = .ok b := by
  obtain ⟨w, written, back⟩ := reopened_back success
  rw [(reopened_eq_self_iff b).2 bounded] at back
  exact ⟨w, written, back⟩

/-- Whatever binding a document gives, what is written of it gives the binding with its infinite ends
open, and so on for ever: the same document is written of that one. It is the same binding, and
resolves alike, exactly when its ranges are infinite to the open sides only. -/
theorem created_again {v : Value} {b : Binding}
    (created : BindingRegistry.builtin.create v = .ok b) :
    ∃ w b', b.toValue = .ok w ∧ BindingRegistry.builtin.create w = .ok b' ∧ b'.toValue = .ok w ∧
      (b' = b ↔ b.isBounded = true) ∧
      (b.isBounded = true → ∀ env, b'.resolve env = b.resolve env) := by
  obtain ⟨w, written, back⟩ := reopened_back created
  have same := reopened_eq_self_iff b
  refine ⟨w, b.reopened, written, back, ?_, same, ?_⟩
  · exact (toValue_reopened b).trans written
  · intro bounded env
    rw [same.2 bounded]

/-- A document of a chain around the constant five: a check for a least value, then a factor of
two. -/
def doubledFive (least : Binary64) : Value :=
  .object [("type", .text "processed"),
    ("wrappedBinding", .object [("type", .text "literal"), ("value", .float 5)]),
    ("handlers", .list [
      .object [("type", .text "validation"), ("min", .float least)],
      .object [("type", .text "scale"), ("scale", .float 2)]])]

theorem create_doubledFive (least : Binary64) :
    BindingRegistry.builtin.create (doubledFive least) = .ok (.processed (.literal (.float 5))
      [.validation (.float least) (.float (.infinite false)) (.bool false) .null,
        .scale (.float 2) (.float 0)] none) :=
  create_chain ((create_plain rfl).trans rfl) rfl

theorem created_again_doubledFive : ∃ w b',
    BindingRegistry.builtin.create (doubledFive 1) = .ok b' ∧ b'.toValue = .ok w ∧
      BindingRegistry.builtin.create w = .ok b' ∧ b'.isBounded = true := by
  have bounded : Binding.isBounded (.processed (.literal (.float 5))
      [.validation (.float 1) (.float (.infinite false)) (.bool false) .null,
        .scale (.float 2) (.float 0)] none) = true := by
    decide +kernel
  obtain ⟨w, b', written, back, -, same, -⟩ := created_again (create_doubledFive 1)
  obtain rfl := same.2 bounded
  exact ⟨w, _, create_doubledFive 1, written, back, bounded⟩

/-- A check that lets no finite number through is written as one that lets all through: five is no
longer left alone. -/
theorem not_forall_resolve_created_again :
    ¬ ∀ v b w b', BindingRegistry.builtin.create v = .ok b → b.toValue = .ok w →
      BindingRegistry.builtin.create w = .ok b' →
      ∀ env, (b'.resolve env).outcome = (b.resolve env).outcome := by
  intro alike
  have created := create_doubledFive (.infinite false)
  obtain ⟨w, written, back⟩ := reopened_back created
  have noticed := congrArg (fun outcome => outcome.notices.length)
    (alike _ _ w _ created written back ⟨none, none⟩)
  revert noticed
  decide +kernel

end Binding

end Joinery
