import Joinery.Proofs.Binding.Layers

/-!
# Chains behind chains

What a chain answers is told by its parts: a value that the first part rejects, or fails for, never
comes to the second, and what the first part accepts goes on with the value that it gave. So nothing
that happens behind a handler that rejects a value is seen in the answer to that value, however
often handlers are added and removed there.
-/
namespace Joinery

namespace Handler

/-- Two chains, one behind the other, answer as the first, or as the second to what the first
gave. -/
theorem runChain_append (a b : List Handler) (value : Value) :
    runChain (a ++ b) value = runChain a value >>= fun checked =>
      if checked.isValid then runChain b checked.value else .ok checked := by
  induction a generalizing value with
  | nil => rfl
  | cons h rest ih =>
    cases answer : h.process value with
    | error cause =>
      rw [List.cons_append, runChain_cons, runChain_cons, answer]
      rfl
    | ok checked =>
      obtain ⟨next, rejection⟩ := checked
      cases rejection with
      | some reason =>
        rw [List.cons_append, runChain_of_rejected _ answer rfl, runChain_of_rejected _ answer rfl]
        rfl
      | none =>
        rw [List.cons_append, runChain_of_accepted _ answer, runChain_of_accepted _ answer, ih]

theorem runChain_append_of_rejected {a : List Handler} {value : Value} {checked : Checked}
    (answer : runChain a value = .ok checked) (rejected : checked.isValid = false)
    (b : List Handler) : runChain (a ++ b) value = .ok checked := by
  rw [runChain_append, answer, ok_bind, rejected, if_neg Bool.false_ne_true]

end Handler

/-! ### Changes behind a handler -/

/-- A change leaves the given handlers at the beginning of a chain. -/
def HandlerEdit.Spares (kept : List Handler) : HandlerEdit → Prop
  | .add _ => True
  | .remove word => ∀ h ∈ kept, word.equals (.text h.kind.label) = false
  | .clear => kept = []

namespace Binding

/-- A chain after changes in a row, of which those that are refused change nothing. -/
def Chain.changed (c : Chain) (edits : List HandlerEdit) : Chain :=
  edits.foldl (fun c e => (e.chain c).toOption.getD c) c

variable {c : Chain} {kept : List Handler}

theorem exists_handlers_of_spares {rest : List Handler} {e : HandlerEdit} (spares : e.Spares kept)
    (front : c.handlers = kept ++ rest) :
    ∃ rest', ((e.chain c).toOption.getD c).handlers = kept ++ rest' ∧
      ((e.chain c).toOption.getD c).wrapped = c.wrapped ∧
      ((e.chain c).toOption.getD c).lastError = c.lastError := by
  cases e with
  | add added =>
    cases added with
    | none => exact ⟨rest, front, rfl, rfl⟩
    | some h => exact ⟨rest ++ [h], by rw [← List.append_assoc, ← front]; rfl, rfl, rfl⟩
  | remove word =>
    refine ⟨rest.filter fun h => !word.equals (.text h.kind.label), ?_, rfl, rfl⟩
    have whole : kept.filter (fun h => !word.equals (.text h.kind.label)) = kept :=
      List.filter_eq_self.2 fun h member => by rw [spares h member]; rfl
    change c.handlers.filter _ = _
    rw [front, List.filter_append, whole]
  | clear =>
    cases spares
    exact ⟨[], rfl, rfl, rfl⟩

/-- Changes that leave the beginning of a chain change nothing but the handlers behind it. -/
theorem exists_changed_of_spares {rest : List Handler} {edits : List HandlerEdit}
    (spares : ∀ e ∈ edits, e.Spares kept) (front : c.handlers = kept ++ rest) :
    ∃ rest', c.changed edits = ⟨c.wrapped, kept ++ rest', c.lastError⟩ := by
  induction edits generalizing c rest with
  | nil => exact ⟨rest, by rw [← front]; rfl⟩
  | cons e later ih =>
    obtain ⟨first, others⟩ := List.forall_mem_cons.1 spares
    obtain ⟨rest', handlers, wrapped, lastError⟩ := exists_handlers_of_spares first front
    obtain ⟨rest'', changed⟩ := ih others handlers
    exact ⟨rest'', by rw [← wrapped, ← lastError]; exact changed⟩

theorem outcome_resolve_chain {wrapped : Binding} {hs hs' : List Handler} {env : Environment}
    {value : Value} (lastError : Option String)
    (given : (wrapped.resolve env).outcome.result = .ok value)
    (same : Handler.runChain hs value = Handler.runChain hs' value) :
    ((processed wrapped hs lastError).resolve env).outcome =
      ((processed wrapped hs' lastError).resolve env).outcome := by
  rw [resolve, resolve, afterChain, afterChain, given]
  dsimp only
  rw [same]
  split <;> rfl

end Binding

namespace Handler

/-- A chain answers part by part: what the first part rejects is the answer of the whole, what it
accepts goes on through the second, and what it fails for ends both. When the first part rejects a
value, no changes behind it are seen in the answer to that value, nor in what a binding gives that
the chain stands around. -/
theorem runChain_joined (a b : List Handler) (value : Value) :
    (runChain (a ++ b) value =
      match runChain a value with
      | .ok checked => if checked.isValid then runChain b checked.value else .ok checked
      | .error cause => .error cause) ∧
    ∀ checked, runChain a value = .ok checked → checked.isValid = false →
      ∀ (c : Binding.Chain) (edits : List HandlerEdit), c.handlers = a ++ b →
        (∀ e ∈ edits, e.Spares a) →
        c.validate value = .ok checked ∧ (c.changed edits).validate value = c.validate value ∧
        ∀ env, (c.wrapped.resolve env).outcome.result = .ok value →
          ((Binding.ofChain (c.changed edits)).resolve env).outcome =
            ((Binding.ofChain c).resolve env).outcome := by
  constructor
  · rw [runChain_append]
    cases runChain a value <;> rfl
  · intro checked answer rejected c edits front spares
    obtain ⟨rest, changed⟩ := Binding.exists_changed_of_spares spares front
    have before : runChain c.handlers value = .ok checked := by
      rw [front]
      exact runChain_append_of_rejected answer rejected b
    have after : runChain (a ++ rest) value = .ok checked :=
      runChain_append_of_rejected answer rejected rest
    rw [changed]
    exact ⟨before, after.trans before.symm,
      fun env given => Binding.outcome_resolve_chain c.lastError given (after.trans before.symm)⟩

/-- Doubles a number and rejects what is then above five, before rounding it. -/
def doublingCheck : Binding.Chain where
  wrapped := .literal (.int 4)
  handlers := [.scale (.int 2) (.int 0), .validation (.int 0) (.int 5) (.bool false) .null] ++
    [.round (.int 0) .nearest]
  lastError := none

/-- Four is doubled and rejected; without the rounding, and with another handler behind, it is
rejected alike. -/
theorem runChain_joined_doublingCheck :
    let a := [scale (.int 2) (.int 0), validation (.int 0) (.int 5) (.bool false) .null]
    let edits := [HandlerEdit.remove (.text "round"), .add none,
      .add (some (.clamp (.int 0) (.int 1)))]
    (doublingCheck.changed edits).handlers = a ++ [.clamp (.int 0) (.int 1)] ∧
    (∀ e ∈ edits, e.Spares a) ∧
    ∃ checked, runChain a (.int 4) = .ok checked ∧
      checked.rejection = some "Value 8 is above maximum 5" ∧
      (doublingCheck.changed edits).validate (.int 4) = .ok checked := by
  intro a edits
  have removal : ∀ h ∈ a, (Value.text "round").equals (.text h.kind.label) = false := by decide
  have spares : ∀ e ∈ edits, e.Spares a :=
    List.forall_mem_cons.2 ⟨removal, List.forall_mem_cons.2 ⟨trivial,
      List.forall_mem_singleton.2 trivial⟩⟩
  obtain ⟨checked, answer, reason⟩ : ∃ checked, runChain a (.int 4) = .ok checked ∧
      checked.rejection = some "Value 8 is above maximum 5" :=
    exists_of_any_toOption (by decide +kernel)
  have rejected : checked.isValid = false := by
    unfold Checked.isValid
    rw [reason]
    rfl
  obtain ⟨whole, same, -⟩ := (runChain_joined a [.round (.int 0) .nearest] (.int 4)).2
    checked answer rejected doublingCheck edits rfl spares
  exact ⟨rfl, spares, checked, answer, reason, same.trans whole⟩

end Handler

end Joinery
