import Joinery.Binding.Basic
import Joinery.Proofs.Catalogue
import Joinery.Proofs.Value

/-!
# Parameters written and read back

A parameter that was read from a document is written so that it reads back as it was, save that a
step of minus zero becomes zero. Nothing that is resolved asks for steps, so it is resolved the same
against the parameters that were read back.
-/
namespace Joinery

namespace Value

theorem isNull_of_isTruthy {v : Value} (h : v.isTruthy = true) : v.isNull = false := by
  cases v <;> first | rfl | cases h

theorem orElse_of_isTruthy {v other : Value} (h : v.isTruthy = true) : v.orElse other = v :=
  if_pos h

theorem itemsOrNone_list (items : List Value) : (list items).itemsOrNone = .ok items := by
  unfold itemsOrNone
  cases items <;> rfl

/-! ### Ends of ranges -/

/-- Whether a value is the infinite double of a sign. -/
def isInfinity (negative : Bool) : Value → Bool
  | .float (.infinite sign) => sign == negative
  | _ => false

/-- Whether a range does not begin at infinity nor end at minus infinity. -/
def isRange (min max : Value) : Bool := !min.isInfinity false && !max.isInfinity true

/-- An end of a range as it is read back: an infinite one is open. -/
def reopened (negative : Bool) : Value → Value
  | .float (.infinite _) => .float (.infinite negative)
  | v => v

theorem reopened_eq_self_iff (negative : Bool) (v : Value) :
    v.reopened negative = v ↔ v.isInfinity (!negative) = false := by
  cases v with
  | float x =>
    cases x with
    | infinite sign => cases sign <;> cases negative <;> simp [reopened, isInfinity]
    | nan | finite => exact iff_of_true rfl rfl
  | null | bool | int | text | list | object => exact iff_of_true rfl rfl

theorem rangeEnd_reopened (negative : Bool) (v : Value) :
    (v.reopened negative).rangeEnd = v.rangeEnd := by
  cases v with
  | float x => cases x <;> rfl
  | null | bool | int | text | list | object => rfl

/-- An end of a range is written so that it is read back, open if it is infinite. -/
theorem readRangeEnd_rangeEnd (x : Binary64) (negative : Bool) :
    ∃ w, (Value.float x).rangeEnd = .ok w ∧
      w.readRangeEnd (.infinite negative) = .ok ((Value.float x).reopened negative) := by
  cases x <;> exact ⟨_, rfl, rfl⟩

/-- Both ends of a range are written so that they are read back. -/
theorem exists_rangeEnds {min max : Value} (hmin : ∃ x, min = .float x)
    (hmax : ∃ x, max = .float x) :
    ∃ low high, min.rangeEnd = .ok low ∧ low.readRangeEnd (.infinite true) = .ok (min.reopened true) ∧
      max.rangeEnd = .ok high ∧ high.readRangeEnd (.infinite false) = .ok (max.reopened false) := by
  obtain ⟨x, rfl⟩ := hmin
  obtain ⟨y, rfl⟩ := hmax
  obtain ⟨low, hlow, lowBack⟩ := readRangeEnd_rangeEnd x true
  obtain ⟨high, hhigh, highBack⟩ := readRangeEnd_rangeEnd y false
  exact ⟨low, high, hlow, lowBack, hhigh, highBack⟩

theorem isRange_iff {min max : Value} :
    isRange min max = true ↔ min.reopened true = min ∧ max.reopened false = max := by
  rw [reopened_eq_self_iff, reopened_eq_self_iff]
  simp [isRange]

theorem exists_of_readRangeEnd {v rangeEnd : Value} {openEnd : Binary64}
    (success : v.readRangeEnd openEnd = .ok rangeEnd) : ∃ x, rangeEnd = .float x := by
  unfold readRangeEnd at success
  split at success
  · cases success
    exact ⟨_, rfl⟩
  · obtain ⟨x, -, success⟩ := bind_eq_ok_iff.1 success
    cases success
    exact ⟨x, rfl⟩

end Value

namespace Parameter

/-- A parameter as documents give it: it has a name, and its numbers are doubles. -/
structure IsRead (p : Parameter) : Prop where
  named : p.name.isTruthy = true
  value : ∃ x, p.value = .float x
  min : ∃ x, p.min = .float x
  max : ∃ x, p.max = .float x
  step : ∃ x, p.step = .float x

/-- Whether the range of a parameter does not begin at infinity nor end at minus infinity. -/
def isBounded (p : Parameter) : Bool := Value.isRange p.min p.max

/-- The parameter as it is read back. -/
def reloaded (p : Parameter) : Parameter := { p with step := p.step.unsigned }

theorem isRead_ofValue {v : Value} {p : Parameter} (success : ofValue v = .ok p) : p.IsRead := by
  unfold ofValue at success
  obtain ⟨low, -, success⟩ := bind_eq_ok_iff.1 success
  obtain ⟨high, -, success⟩ := bind_eq_ok_iff.1 success
  obtain ⟨id, -, success⟩ := bind_eq_ok_iff.1 success
  obtain ⟨name, -, success⟩ := bind_eq_ok_iff.1 success
  obtain ⟨given, -, success⟩ := bind_eq_ok_iff.1 success
  obtain ⟨value, -, success⟩ := bind_eq_ok_iff.1 success
  obtain ⟨min, hmin, success⟩ := bind_eq_ok_iff.1 success
  obtain ⟨max, hmax, success⟩ := bind_eq_ok_iff.1 success
  obtain ⟨asked, -, success⟩ := bind_eq_ok_iff.1 success
  obtain ⟨step, -, success⟩ := bind_eq_ok_iff.1 success
  unfold make at success
  split at success
  · next named =>
    cases success
    exact ⟨named, ⟨_, rfl⟩, Value.exists_of_readRangeEnd (liftM_eq_ok_iff.1 hmin),
      Value.exists_of_readRangeEnd (liftM_eq_ok_iff.1 hmax), ⟨_, rfl⟩⟩
  · cases success

theorem orElse_zero (x : Binary64) : (Value.float x).orElse (.float 0) = .float x.unsigned := by
  unfold Value.orElse Binary64.unsigned
  cases hx : x.equals 0 <;> simp [Value.isTruthy, hx]

/-- What a document says of a parameter, with the ends of its range as they are written. -/
def written (p : Parameter) (low high : Value) : Value :=
  .object [("id", p.id), ("name", p.name), ("value", p.value), ("min", low), ("max", high),
    ("step", p.step)]

theorem toValue_eq {p : Parameter} {low high : Value} (hlow : p.min.rangeEnd = .ok low)
    (hhigh : p.max.rangeEnd = .ok high) : p.toValue = .ok (p.written low high) := by
  unfold toValue
  rw [hlow, hhigh]
  rfl

theorem ofValue_written {p : Parameter} {low high : Value} (read : p.IsRead)
    (hlow : low.readRangeEnd (.infinite true) = .ok p.min)
    (hhigh : high.readRangeEnd (.infinite false) = .ok p.max) :
    ofValue (p.written low high) = .ok p.reloaded := by
  obtain ⟨id, name, value, min, max, step⟩ := p
  obtain ⟨named, ⟨value, rfl⟩, -, -, step, rfl⟩ := read
  refine bind_eq_ok_iff.2 ⟨low, rfl, ?_⟩
  refine bind_eq_ok_iff.2 ⟨high, rfl, ?_⟩
  refine bind_eq_ok_iff.2 ⟨id, rfl, ?_⟩
  refine bind_eq_ok_iff.2 ⟨name, rfl, ?_⟩
  refine bind_eq_ok_iff.2 ⟨.float value, rfl, ?_⟩
  refine bind_eq_ok_iff.2 ⟨value, rfl, ?_⟩
  refine bind_eq_ok_iff.2 ⟨min, liftM_eq_ok_iff.2 hlow, ?_⟩
  refine bind_eq_ok_iff.2 ⟨max, liftM_eq_ok_iff.2 hhigh, ?_⟩
  refine bind_eq_ok_iff.2 ⟨.float step, rfl, ?_⟩
  refine bind_eq_ok_iff.2 ⟨step.unsigned, ?_, if_pos named⟩
  rw [orElse_zero]
  rfl

/-- A parameter that was read is written, and reads back as said. What is read back is written the
same, up to the sign of zero. -/
theorem IsRead.written_back {p : Parameter} (read : p.IsRead) (bounded : p.isBounded = true) :
    ∃ w w', p.toValue = .ok w ∧ ofValue w = .ok p.reloaded ∧ p.reloaded.toValue = .ok w' ∧
      w'.unsigned = w.unsigned := by
  obtain ⟨z, hstep⟩ := read.step
  obtain ⟨low, high, hlow, lowBack, hhigh, highBack⟩ := Value.exists_rangeEnds read.min read.max
  obtain ⟨openLow, openHigh⟩ := Value.isRange_iff.1 bounded
  rw [openLow] at lowBack
  rw [openHigh] at highBack
  have again : p.reloaded.toValue = .ok (p.reloaded.written low high) := toValue_eq hlow hhigh
  refine ⟨_, _, toValue_eq hlow hhigh, ofValue_written read lowBack highBack, again, ?_⟩
  simp [written, reloaded, hstep, Value.unsigned, Value.unsignedFields,
    Binary64.unsigned_unsigned]

end Parameter

/-! ### Stores -/

namespace Parameter

theorem written_back_all {ps : List Parameter} (read : ∀ p ∈ ps, p.IsRead)
    (bounded : ∀ p ∈ ps, p.isBounded = true) :
    ∃ ws ws', ps.mapM toValue = .ok ws ∧ ws.mapM ofValue = .ok (ps.map reloaded) ∧
      (ps.map reloaded).mapM toValue = .ok ws' ∧
      Value.unsignedItems ws' = Value.unsignedItems ws := by
  induction ps with
  | nil => exact ⟨[], [], rfl, rfl, rfl, rfl⟩
  | cons p rest ih =>
    obtain ⟨first, others⟩ := List.forall_mem_cons.1 read
    obtain ⟨firstBounded, othersBounded⟩ := List.forall_mem_cons.1 bounded
    obtain ⟨w, w', hw, back, hw', same⟩ := first.written_back firstBounded
    obtain ⟨ws, ws', hws, backs, hws', sames⟩ := ih others othersBounded
    refine ⟨w :: ws, w' :: ws', ?_, ?_, ?_, ?_⟩
    · rw [List.mapM_cons, hw, hws]
      rfl
    · rw [List.mapM_cons, back, backs]
      rfl
    · rw [List.map_cons, List.mapM_cons, hw', hws']
      rfl
    · rw [Value.unsignedItems, Value.unsignedItems, same, sames]

end Parameter

namespace ParameterStore

theorem add_eq_ok {s s' : ParameterStore} {p : Parameter} (success : s.add p = .ok s') :
    s.parameters.contains p.id = .ok false ∧
      ∃ c, s.parameters.insert p.id p = .ok c ∧ s' = { s with parameters := c } := by
  unfold add at success
  obtain ⟨present, hpresent, success⟩ := bind_eq_ok_iff.1 success
  cases present with
  | true => cases success
  | false =>
    obtain ⟨c, inserted, success⟩ := bind_eq_ok_iff.1 success
    cases success
    exact ⟨liftM_eq_ok_iff.1 hpresent, c, liftM_eq_ok_iff.1 inserted, rfl⟩

theorem add_of_absent {s : ParameterStore} {p : Parameter} {c : Catalogue Parameter}
    (absent : s.parameters.contains p.id = .ok false)
    (inserted : s.parameters.insert p.id p = .ok c) :
    s.add p = .ok { s with parameters := c } := by
  unfold add
  rw [absent, inserted]
  rfl

/-- A store as documents give it: its parameters are stored under their ids and were read, and
nobody listens. -/
structure IsRead (s : ParameterStore) : Prop where
  grown : Catalogue.Grown s.parameters.spine
  entries : ∀ entry ∈ s.parameters.entries, entry.1 = entry.2.id ∧ entry.2.IsRead
  silent : s = { parameters := s.parameters }

theorem isRead_empty : empty.IsRead := ⟨.nil, nofun, rfl⟩

theorem IsRead.add {s s' : ParameterStore} {p : Parameter} (read : s.IsRead) (hp : p.IsRead)
    (success : s.add p = .ok s') : s'.IsRead := by
  obtain ⟨absent, c, inserted, rfl⟩ := add_eq_ok success
  refine ⟨read.grown.insert inserted, ?_, ?_⟩
  · obtain ⟨k, entries⟩ := Catalogue.entries_insert_of_absent absent inserted
    have all : c.entries = s.parameters.entries ++ [(p.id, p)] := by
      simp [Catalogue.entries, Table.values, entries]
    rw [all]
    exact List.forall_mem_append.2 ⟨read.entries, List.forall_mem_singleton.2 ⟨rfl, hp⟩⟩
  · rw [read.silent]

theorem IsRead.foldlM_add {ps : List Parameter} {s s' : ParameterStore} (read : s.IsRead)
    (each : ∀ p ∈ ps, p.IsRead) (success : ps.foldlM ParameterStore.add s = .ok s') :
    s'.IsRead := by
  induction ps generalizing s with
  | nil =>
    cases success
    exact read
  | cons p rest ih =>
    obtain ⟨first, others⟩ := List.forall_mem_cons.1 each
    rw [List.foldlM_cons] at success
    obtain ⟨next, added, success⟩ := bind_eq_ok_iff.1 success
    exact ih (read.add first added) others success

/-- The store as it is read back. -/
def reloaded (s : ParameterStore) : ParameterStore :=
  { parameters := s.parameters.map Parameter.reloaded }

theorem all_reloaded (s : ParameterStore) : s.reloaded.all = s.all.map Parameter.reloaded :=
  Catalogue.values_map _ _

theorem IsRead.ofList_reloaded {s : ParameterStore} (read : s.IsRead) :
    ofList (s.all.map Parameter.reloaded) = .ok s.reloaded := by
  rw [← all_reloaded]
  have grown : Catalogue.Grown s.reloaded.parameters.spine := by
    rw [reloaded, Catalogue.spine_map]
    exact read.grown
  have ids : ∀ entry ∈ s.reloaded.parameters.entries, entry.1 = entry.2.id := by
    intro entry member
    rw [reloaded, Catalogue.entries_map] at member
    obtain ⟨old, hold, rfl⟩ := List.mem_map.1 member
    exact (read.entries old hold).1
  let behind (c : Catalogue Parameter) : ParameterStore := { parameters := c }
  let completes (c : Catalogue Parameter) (rest : List (Value × Parameter)) : Prop :=
    (rest.map Prod.snd).foldlM ParameterStore.add (behind c) = .ok s.reloaded
  refine grown.fill (motive := completes) rfl
    fun c c' v p rest member absent inserted later => ?_
  obtain rfl : v = p.id := ids _ member
  have added : (behind c).add p = .ok (behind c') := add_of_absent absent inserted
  dsimp only [completes]
  rw [List.map_cons, List.foldlM_cons, added]
  exact later

/-! ### Resolving against what was read back -/

theorem context_reloaded (s : ParameterStore) : s.reloaded.context = s.context := by
  unfold context
  rw [all_reloaded, List.foldlM_map]
  rfl

end ParameterStore

namespace Binding

theorem parameterIn_reloaded (s : ParameterStore) (id : Value) :
    parameterIn s.reloaded id = parameterIn s id := by
  unfold parameterIn ParameterStore.find? Catalogue.find?
  cases id.key with
  | error cause => rfl
  | ok key =>
    have found : s.reloaded.parameters.at? key =
        (s.parameters.at? key).map Parameter.reloaded :=
      Catalogue.at?_map _ _ _
    simp only [ok_bind, pure, Except.pure, found]
    cases s.parameters.at? key <;> rfl

theorem evaluateIn_reloaded (functions : Formula.Functions) (s : ParameterStore) :
    evaluateIn functions s.reloaded = evaluateIn functions s := by
  unfold evaluateIn
  rw [ParameterStore.context_reloaded]

/-- What a binding resolves to does not depend on steps. -/
theorem resolve_reloaded (s : ParameterStore) (functions : Option Formula.Functions)
    (b : Binding) : b.resolve ⟨some s.reloaded, functions⟩ = b.resolve ⟨some s, functions⟩ := by
  induction b with
  | literal | foreign => rfl
  | parameter id =>
    dsimp only [resolve]
    rw [parameterIn_reloaded]
  | expression text last =>
    cases functions with
    | none => rfl
    | some functions =>
      dsimp only [resolve]
      rw [evaluateIn_reloaded]
  | processed wrapped handlers lastError ih =>
    dsimp only [resolve]
    rw [ih]

end Binding

end Joinery
