import Joinery.Failure
import Mathlib.Data.List.Forall2

/-!
# When computations fail

A computation that may refuse its operands fails when it ends with some cause. What a sequence of
steps, a choice or a walk through a list fails for is told by their parts.
-/
namespace Joinery

variable {ε α β : Type}

/-- A computation ends with a cause. -/
def Fails (x : Except ε α) : Prop := ∃ cause, x = .error cause

theorem fails_error (cause : ε) : Fails (.error cause : Except ε α) := ⟨cause, rfl⟩

theorem not_fails_ok (a : α) : ¬ Fails (.ok a : Except ε α) := nofun

theorem not_fails_iff {x : Except ε α} : ¬ Fails x ↔ ∃ a, x = .ok a := by
  cases x with
  | error cause => exact iff_of_false (fun h => h ⟨cause, rfl⟩) nofun
  | ok a => exact iff_of_true (not_fails_ok a) ⟨a, rfl⟩

theorem ok_bind (a : α) (f : α → Except ε β) : (.ok a >>= f) = f a := rfl

theorem fails_bind_iff {x : Except ε α} {f : α → Except ε β} :
    Fails (x >>= f) ↔ Fails x ∨ ∃ a, x = .ok a ∧ Fails (f a) := by
  cases x with
  | error cause => exact iff_of_true ⟨cause, rfl⟩ (.inl ⟨cause, rfl⟩)
  | ok a =>
    constructor
    · intro h
      exact .inr ⟨a, rfl, h⟩
    · rintro (⟨cause, h⟩ | ⟨b, h, fails⟩)
      · cases h
      · cases h
        exact fails

theorem bind_eq_ok_iff {x : Except ε α} {f : α → Except ε β} {b : β} :
    (x >>= f) = .ok b ↔ ∃ a, x = .ok a ∧ f a = .ok b := by
  cases x with
  | error cause => exact iff_of_false nofun nofun
  | ok a => exact ⟨fun h => ⟨a, rfl, h⟩, fun ⟨_, h, success⟩ => by cases h; exact success⟩

/-- A decided property of what a computation gives. -/
theorem exists_of_any_toOption {x : Except ε α} {P : α → Prop} [DecidablePred P]
    (h : x.toOption.any (fun a => decide (P a)) = true) : ∃ a, x = .ok a ∧ P a := by
  cases x with
  | error cause => cases h
  | ok a => exact ⟨a, rfl, of_decide_eq_true h⟩

theorem liftM_ok (a : α) : (liftM (.ok a : Except Misuse α) : Except Failure α) = .ok a := rfl

/-- A misuse is a failure. -/
theorem liftM_eq_ok_iff {x : Except Misuse α} {a : α} :
    (liftM x : Except Failure α) = .ok a ↔ x = .ok a := by
  cases x with
  | error cause => exact iff_of_false nofun nofun
  | ok b => exact ⟨fun h => by cases h; rfl, fun h => by cases h; rfl⟩

/-- A walk through a list fails at some item or at none. -/
theorem not_fails_mapM {f : α → Except ε β} {items : List α}
    (h : ∀ item ∈ items, ¬ Fails (f item)) : ¬ Fails (items.mapM f) := by
  induction items with
  | nil => exact not_fails_ok []
  | cons item rest ih =>
    obtain ⟨b, hb⟩ := not_fails_iff.1 (h item (.head rest))
    obtain ⟨bs, hbs⟩ := not_fails_iff.1 (ih fun item member => h item (.tail _ member))
    rw [List.mapM_cons, hb, hbs]
    exact not_fails_ok (b :: bs)

theorem length_of_mapM {f : α → Except ε β} {items : List α} {results : List β}
    (success : items.mapM f = .ok results) : results.length = items.length := by
  induction items generalizing results with
  | nil =>
    cases success
    rfl
  | cons item rest ih =>
    rw [List.mapM_cons] at success
    obtain ⟨b, -, success⟩ := bind_eq_ok_iff.1 success
    obtain ⟨bs, hbs, success⟩ := bind_eq_ok_iff.1 success
    cases success
    rw [List.length_cons, List.length_cons, ih hbs]

/-- Walks through items that were made of other items in two ways are the same if their steps are. -/
theorem mapM_map_congr {γ : Type} {items : List α} {f g : α → β} {step : β → Except ε γ}
    (same : ∀ item ∈ items, step (f item) = step (g item)) :
    (items.map f).mapM step = (items.map g).mapM step := by
  induction items with
  | nil => rfl
  | cons item rest ih =>
    obtain ⟨first, others⟩ := List.forall_mem_cons.1 same
    rw [List.map_cons, List.map_cons, List.mapM_cons, List.mapM_cons, first, ih others]

/-- A walk through a list gives what its items give, one by one. -/
theorem mapM_eq_ok_iff {f : α → Except ε β} {items : List α} {results : List β} :
    items.mapM f = .ok results ↔ List.Forall₂ (fun item b => f item = .ok b) items results := by
  induction items generalizing results with
  | nil =>
    rw [List.forall₂_nil_left_iff]
    exact ⟨fun h => by cases h; rfl, fun h => by rw [h]; rfl⟩
  | cons item rest ih =>
    rw [List.mapM_cons, bind_eq_ok_iff, List.forall₂_cons_left_iff]
    constructor
    · rintro ⟨b, hb, success⟩
      obtain ⟨bs, hbs, success⟩ := bind_eq_ok_iff.1 success
      cases success
      exact ⟨b, bs, hb, ih.1 hbs, rfl⟩
    · rintro ⟨b, bs, hb, hbs, rfl⟩
      exact ⟨b, hb, bind_eq_ok_iff.2 ⟨bs, ih.2 hbs, rfl⟩⟩

theorem exists_of_mem_mapM {f : α → Except ε β} {items : List α} {results : List β}
    (success : items.mapM f = .ok results) {b : β} (member : b ∈ results) :
    ∃ item ∈ items, f item = .ok b := by
  have each := mapM_eq_ok_iff.1 success
  clear success
  induction each with
  | nil => cases member
  | cons first _ ih =>
    cases member with
    | head => exact ⟨_, .head _, first⟩
    | tail _ member =>
      obtain ⟨item, hitem, hb⟩ := ih member
      exact ⟨item, .tail _ hitem, hb⟩

/-- When every item of a list gives something of a kind, so does a walk through the list. -/
theorem exists_mapM {f : α → Except ε β} {R : α → β → Prop} {items : List α}
    (each : ∀ item ∈ items, ∃ b, f item = .ok b ∧ R item b) :
    ∃ results, items.mapM f = .ok results ∧ List.Forall₂ R items results := by
  induction items with
  | nil => exact ⟨[], rfl, .nil⟩
  | cons item rest ih =>
    obtain ⟨⟨b, hb, first⟩, others⟩ := List.forall_mem_cons.1 each
    obtain ⟨bs, hbs, later⟩ := ih others
    refine ⟨b :: bs, ?_, .cons first later⟩
    rw [List.mapM_cons, hb, hbs]
    rfl

/-- A walk through a list gives something just when every item does. -/
theorem exists_mapM_iff {f : α → Except ε β} {items : List α} :
    (∃ results, items.mapM f = .ok results) ↔ ∀ item ∈ items, ∃ b, f item = .ok b := by
  constructor
  · rintro ⟨results, success⟩
    have each := mapM_eq_ok_iff.1 success
    clear success
    induction each with
    | nil => exact nofun
    | cons first _ ih => exact List.forall_mem_cons.2 ⟨⟨_, first⟩, ih⟩
  · exact fun each => not_fails_iff.1 (not_fails_mapM fun item member =>
      not_fails_iff.2 (each item member))

/-! ### Computations that agree -/

/-- Both computations fail for one cause, or both give something and the results are related. -/
inductive Agree (R : α → β → Prop) : Except ε α → Except ε β → Prop where
  | error (cause : ε) : Agree R (.error cause) (.error cause)
  | ok {a : α} {b : β} (related : R a b) : Agree R (.ok a) (.ok b)

section

variable {γ δ : Type} {R : α → β → Prop} {S : γ → δ → Prop}

theorem Agree.bind {x : Except ε α} {y : Except ε β} {f : α → Except ε γ} {g : β → Except ε δ}
    (first : Agree R x y) (next : ∀ a b, R a b → Agree S (f a) (g b)) :
    Agree S (x >>= f) (y >>= g) := by
  cases first with
  | error cause => exact .error cause
  | ok related => exact next _ _ related

/-- Computations that begin with the same step agree if they do wherever it succeeds. -/
theorem agree_bind {x : Except ε γ} {f : γ → Except ε α} {g : γ → Except ε β}
    (next : ∀ c, x = .ok c → Agree R (f c) (g c)) : Agree R (x >>= f) (x >>= g) := by
  cases x with
  | error cause => exact .error cause
  | ok c => exact next c rfl

theorem agree_mapM {f : γ → Except ε α} {g : γ → Except ε β} {items : List γ}
    (each : ∀ item ∈ items, Agree R (f item) (g item)) :
    Agree (List.Forall₂ R) (items.mapM f) (items.mapM g) := by
  induction items with
  | nil => exact .ok .nil
  | cons item rest ih =>
    obtain ⟨first, others⟩ := List.forall_mem_cons.1 each
    rw [List.mapM_cons, List.mapM_cons]
    exact first.bind fun a b head => (ih others).bind fun as bs tail => .ok (.cons head tail)

end

/-! ### Causes of a kind -/

/-- A computation ends with a cause of a kind. -/
def FailsWith (P : ε → Prop) (x : Except ε α) : Prop := ∃ cause, x = .error cause ∧ P cause

variable {P : ε → Prop}

theorem not_failsWith_ok (a : α) : ¬ FailsWith P (.ok a : Except ε α) := nofun

theorem failsWith_error_iff {cause : ε} : FailsWith P (.error cause : Except ε α) ↔ P cause := by
  constructor
  · rintro ⟨_, ⟨⟩, h⟩
    exact h
  · exact fun h => ⟨cause, rfl, h⟩

theorem failsWith_bind_iff {x : Except ε α} {f : α → Except ε β} :
    FailsWith P (x >>= f) ↔ FailsWith P x ∨ ∃ a, x = .ok a ∧ FailsWith P (f a) := by
  cases x with
  | error cause =>
    have stopped : (.error cause >>= f) = .error cause := rfl
    rw [stopped, failsWith_error_iff, failsWith_error_iff]
    exact (or_iff_left fun ⟨_, success, _⟩ => nomatch success).symm
  | ok a =>
    refine ⟨fun h => .inr ⟨a, rfl, h⟩, ?_⟩
    rintro (h | ⟨_, ⟨⟩, h⟩)
    · exact absurd h (not_failsWith_ok a)
    · exact h

/-- When what follows fails alike whatever the first step gives, it is enough that it gives
something. -/
theorem failsWith_bind_iff_of_forall {x : Except ε α} {f : α → Except ε β} {Q : Prop}
    (next : ∀ a, x = .ok a → (FailsWith P (f a) ↔ Q)) :
    FailsWith P (x >>= f) ↔ FailsWith P x ∨ (∃ a, x = .ok a) ∧ Q := by
  rw [failsWith_bind_iff]
  refine or_congr_right ⟨fun ⟨a, success, h⟩ => ⟨⟨a, success⟩, (next a success).1 h⟩, ?_⟩
  rintro ⟨⟨a, success⟩, h⟩
  exact ⟨a, success, (next a success).2 h⟩

/-- A walk through a list passes some items and comes to one of a kind. -/
def Reaches (passes target : α → Prop) (items : List α) : Prop :=
  ∃ before item after, items = before ++ item :: after ∧ (∀ other ∈ before, passes other) ∧
    target item

variable {passes target : α → Prop}

theorem not_reaches_nil : ¬ Reaches passes target [] := by
  rintro ⟨before, item, after, split, -⟩
  simp at split

theorem reaches_cons_iff {item : α} {rest : List α} :
    Reaches passes target (item :: rest) ↔ target item ∨ passes item ∧ Reaches passes target rest := by
  constructor
  · rintro ⟨before, other, after, split, passed, h⟩
    cases before with
    | nil =>
      cases split
      exact .inl h
    | cons head before =>
      cases split
      obtain ⟨first, others⟩ := List.forall_mem_cons.1 passed
      exact .inr ⟨first, before, other, after, rfl, others, h⟩
  · rintro (h | ⟨first, before, other, after, rfl, passed, h⟩)
    · exact ⟨[], item, rest, rfl, nofun, h⟩
    · exact ⟨item :: before, other, after, rfl, List.forall_mem_cons.2 ⟨first, passed⟩, h⟩

theorem reaches_congr {passes' target' : α → Prop} {items : List α}
    (passed : ∀ item, passes item ↔ passes' item) (reached : ∀ item, target item ↔ target' item) :
    Reaches passes target items ↔ Reaches passes' target' items := by
  rw [funext fun item => propext (passed item), funext fun item => propext (reached item)]

/-- A walk through a list fails as the first item does that it does not pass. -/
theorem failsWith_mapM_iff {f : α → Except ε β} {items : List α} :
    FailsWith P (items.mapM f) ↔
      Reaches (fun item => ∃ b, f item = .ok b) (fun item => FailsWith P (f item)) items := by
  induction items with
  | nil => exact iff_of_false (not_failsWith_ok []) not_reaches_nil
  | cons item rest ih =>
    rw [List.mapM_cons, reaches_cons_iff, ← ih]
    refine failsWith_bind_iff_of_forall fun b _ => ?_
    rw [failsWith_bind_iff]
    exact or_iff_left fun ⟨bs, _, h⟩ => not_failsWith_ok (b :: bs) h

/-! ### Misuses -/

/-- Whatever a computation fails with is a misuse. -/
def OnlyMisused (x : Except Failure α) : Prop :=
  ∀ failure, x = .error failure → ∃ cause, failure = .misuse cause

theorem onlyMisused_ok (a : α) : OnlyMisused (.ok a : Except Failure α) := nofun

theorem onlyMisused_liftM (x : Except Misuse α) : OnlyMisused (liftM x : Except Failure α) := by
  intro failure failed
  cases x with
  | ok a => cases failed
  | error cause =>
    cases failed
    exact ⟨cause, rfl⟩

theorem OnlyMisused.bind {x : Except Failure α} {f : α → Except Failure β}
    (first : OnlyMisused x) (next : ∀ a, x = .ok a → OnlyMisused (f a)) :
    OnlyMisused (x >>= f) := by
  intro failure failed
  cases x with
  | ok a => exact next a rfl failure failed
  | error found =>
    cases failed
    exact first failure rfl

theorem OnlyMisused.mapM {f : α → Except Failure β} {items : List α}
    (each : ∀ item ∈ items, OnlyMisused (f item)) : OnlyMisused (items.mapM f) := by
  induction items with
  | nil => exact onlyMisused_ok []
  | cons item rest ih =>
    obtain ⟨first, others⟩ := List.forall_mem_cons.1 each
    rw [List.mapM_cons]
    exact first.bind fun b _ => (ih others).bind fun bs _ => onlyMisused_ok (b :: bs)

end Joinery
