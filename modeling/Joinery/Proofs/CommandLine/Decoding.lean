import Joinery.CommandLine.Run
import Joinery.Proofs.Number.Doubles
import Joinery.Proofs.Table

/-!
# Failures that loading does not report

Three misuses that a document can lead to are not reported: something that is no object is asked for
a field, a point has too few coordinates, and a number is out of range. For each small part of a
document it is said here which contents lead there: parameters, points, figures and handlers. What
is read first counts, since a misuse that is reported ends the reading as well.
-/
namespace Joinery

namespace CommandLine

variable {α : Type}

/-- A computation ends with a misuse that loading does not report. -/
def Slips (x : Except Misuse α) : Prop :=
  FailsWith (fun cause => isReportedMisuse cause = false) x

/-- A computation ends with a failure that loading does not report. -/
def Escapes (x : Except Failure α) : Prop :=
  FailsWith (fun failure => isReported failure = false) x

theorem escapes_liftM_iff {x : Except Misuse α} :
    Escapes (liftM x : Except Failure α) ↔ Slips x := by
  cases x with
  | error cause =>
    change FailsWith _ (.error (Failure.misuse cause)) ↔ FailsWith _ (.error cause)
    rw [failsWith_error_iff, failsWith_error_iff]
    rfl
  | ok a => exact iff_of_false (not_failsWith_ok a) (not_failsWith_ok a)

theorem exists_liftM_iff {x : Except Misuse α} :
    (∃ a, (liftM x : Except Failure α) = .ok a) ↔ ∃ a, x = .ok a :=
  exists_congr fun _ => liftM_eq_ok_iff

variable {β : Type} {Q : Prop}

theorem slips_bind_iff {x : Except Misuse α} {f : α → Except Misuse β}
    (next : ∀ a, Slips (f a) ↔ Q) : Slips (x >>= f) ↔ Slips x ∨ (∃ a, x = .ok a) ∧ Q :=
  failsWith_bind_iff_of_forall fun a _ => next a

theorem escapes_liftM_bind_iff {x : Except Misuse α} {f : α → Except Failure β}
    (next : ∀ a, Escapes (f a) ↔ Q) :
    Escapes ((liftM x : Except Failure α) >>= f) ↔ Slips x ∨ (∃ a, x = .ok a) ∧ Q := by
  rw [← escapes_liftM_iff, ← exists_liftM_iff]
  exact failsWith_bind_iff_of_forall fun a _ => next a

theorem slips_error_iff (cause : Misuse) :
    Slips (.error cause : Except Misuse α) ↔ isReportedMisuse cause = false :=
  failsWith_error_iff

theorem slips_ok_iff (a : α) : Slips (.ok a : Except Misuse α) ↔ False :=
  iff_of_false (not_failsWith_ok a) id

end CommandLine

open CommandLine

/-! ### Numbers -/

namespace Value

theorem slips_toDouble_iff (v : Value) : Slips v.toDouble ↔ v.IsBeyond := by
  rw [← toDouble_eq_outOfRange_iff]
  refine ⟨?_, fun failed => ⟨.outOfRange, failed, rfl⟩⟩
  rintro ⟨cause, failed, unreported⟩
  have numbers : ∀ n : Number, n.toDouble = .error cause → cause = .outOfRange := by
    intro n failed
    cases n with
    | float x => cases failed
    | int i =>
      change Number.inRange _ = _ at failed
      generalize Binary64.ofInt i = x at failed
      cases x <;> cases failed
      rfl
  cases v with
  | bool b => exact failed.trans (congrArg Except.error (numbers (.int (if b then 1 else 0)) failed))
  | int i => exact failed.trans (congrArg Except.error (numbers (.int i) failed))
  | float x => cases failed
  | text s =>
    simp only [toDouble, number?] at failed
    split at failed <;> cases failed
    cases unreported
  | null | list | object =>
    cases failed
    cases unreported

theorem slips_readRangeEnd_iff (v : Value) (openEnd : Binary64) :
    Slips (v.readRangeEnd openEnd) ↔ v.IsBeyond := by
  unfold readRangeEnd
  split
  · next null =>
    refine iff_of_false (not_failsWith_ok _) ?_
    rintro ⟨i, rfl, -⟩
    cases null
  · unfold Slips
    rw [failsWith_bind_iff, ← slips_toDouble_iff]
    exact or_iff_left fun ⟨x, _, h⟩ => not_failsWith_ok _ h

theorem exists_readRangeEnd_iff (v : Value) (openEnd : Binary64) :
    (∃ r, v.readRangeEnd openEnd = .ok r) ↔ v.isNull = true ∨ ∃ x, v.toDouble = .ok x := by
  unfold readRangeEnd
  split
  · next null => exact iff_of_true ⟨_, rfl⟩ (.inl null)
  · next present =>
    rw [or_iff_right present]
    constructor
    · rintro ⟨r, success⟩
      obtain ⟨x, hx, -⟩ := bind_eq_ok_iff.1 success
      exact ⟨x, hx⟩
    · rintro ⟨x, hx⟩
      exact ⟨.float x, bind_eq_ok_iff.2 ⟨x, hx, rfl⟩⟩

/-- Of numbers in a row that are read as doubles, the first that cannot be read is an integer beyond
all doubles. -/
def Overflows : List Value → Prop := Reaches (fun v => ∃ x, v.toDouble = .ok x) IsBeyond

theorem overflows_cons_iff {v : Value} {vs : List Value} :
    Overflows (v :: vs) ↔ v.IsBeyond ∨ (∃ x, v.toDouble = .ok x) ∧ Overflows vs := reaches_cons_iff

theorem not_overflows_nil : ¬ Overflows [] := not_reaches_nil

/-- The ends of ranges that are read: null ones are open. -/
def closedEnds (ends : List Value) : List Value := ends.filter fun v => !v.isNull

theorem closedEnds_nil : closedEnds [] = [] := rfl

theorem overflows_closedEnds_iff {v : Value} {ends others : List Value} :
    Overflows (closedEnds (v :: ends) ++ others) ↔ v.IsBeyond ∨
      (v.isNull = true ∨ ∃ x, v.toDouble = .ok x) ∧ Overflows (closedEnds ends ++ others) := by
  unfold closedEnds
  rw [List.filter_cons]
  cases null : v.isNull with
  | true =>
    have inside : ¬ v.IsBeyond := by
      rintro ⟨i, rfl, -⟩
      cases null
    simp [inside]
  | false => simpa using overflows_cons_iff

/-! ### Whole numbers -/

def IsInfinity (v : Value) : Prop := ∃ negative, v = .float (.infinite negative)

theorem slips_whole_iff {rule : Binary64 → Option Int} {n : Number}
    (finite : ∀ negative units fits, ∃ i, rule (.finite negative units fits) = some i)
    (infinite : ∀ negative, rule (.infinite negative) = none) :
    Slips (n.whole rule) ↔ ∃ negative, n = .float (.infinite negative) := by
  cases n with
  | int i => exact (slips_ok_iff i).trans (by simp)
  | float x =>
    cases x with
    | nan => exact (slips_error_iff .notWhole).trans (by simp [isReportedMisuse])
    | infinite negative =>
      have refused : (Number.float (.infinite negative)).whole rule = .error .outOfRange := by
        simp only [Number.whole, infinite]
      rw [refused]
      exact failsWith_error_iff.trans (iff_of_true rfl ⟨negative, rfl⟩)
    | finite negative units fits =>
      obtain ⟨i, hi⟩ := finite negative units fits
      have given : (Number.float (.finite negative units fits)).whole rule = .ok i := by
        simp only [Number.whole, hi]
      rw [given, slips_ok_iff]
      simp

/-- The whole part of a number is out of range for infinity alone. -/
theorem slips_whole_number_iff {rule : Binary64 → Option Int}
    (finite : ∀ negative units fits, ∃ i, rule (.finite negative units fits) = some i)
    (infinite : ∀ negative, rule (.infinite negative) = none) {v : Value} {n : Number}
    (number : v.number? = some n) : Slips (n.whole rule) ↔ v.IsInfinity := by
  rw [slips_whole_iff finite infinite]
  refine exists_congr fun negative => ?_
  cases v with
  | bool | int | float =>
    cases number
    simp
  | null | text | list | object => cases number

theorem slips_floor_iff (v : Value) : Slips (Arithmetic.floor v) ↔ v.IsInfinity := by
  have floored {n : Number} (number : v.number? = some n) :
      Slips (n.whole Binary64.floor?) ↔ v.IsInfinity :=
    slips_whole_number_iff (fun _ _ _ => ⟨_, rfl⟩) (fun _ => rfl) number
  cases v with
  | bool | int | float => exact floored rfl
  | null | text | list | object => exact failsWith_error_iff.trans (iff_of_false nofun nofun)

theorem slips_toInteger_iff (v : Value) : Slips v.toInteger ↔ v.IsInfinity := by
  have cut {n : Number} (number : v.number? = some n) :
      Slips (n.whole Binary64.trunc?) ↔ v.IsInfinity :=
    slips_whole_number_iff (fun _ _ _ => ⟨_, rfl⟩) (fun _ => rfl) number
  cases v with
  | bool | int | float => exact cut rfl
  | text s =>
    refine iff_of_false ?_ nofun
    rintro ⟨cause, failed, unreported⟩
    change Reading.integer s = _ at failed
    unfold Reading.integer at failed
    split at failed
    split at failed
    · cases failed
      cases unreported
    · cases failed
      cases unreported
    · split at failed
      · cases failed
        cases unreported
      · split at failed
        · cases failed
        · cases failed
          cases unreported
  | null | list | object => exact failsWith_error_iff.trans (iff_of_false nofun nofun)

/-! ### Fields and keys -/

theorem slips_key_iff (v : Value) : Slips v.key ↔ False := by
  cases v with
  | list | object => exact failsWith_error_iff.trans (iff_of_false nofun id)
  | null | bool | int | float | text => exact iff_of_false (not_failsWith_ok _) id

theorem require_of_none {fields : List (String × Value)} {name : String}
    (absent : fields.lookup name = none) :
    (object fields).require name = .error (.missingField name) := by
  simp only [require, absent]

theorem require_of_some {fields : List (String × Value)} {name : String} {v : Value}
    (found : fields.lookup name = some v) : (object fields).require name = .ok v := by
  simp only [require, found]

theorem slips_require_iff (fields : List (String × Value)) (name : String) :
    Slips ((object fields).require name) ↔ False := by
  cases found : fields.lookup name with
  | none => simp [require_of_none found, slips_error_iff, isReportedMisuse]
  | some v => rw [require_of_some found, slips_ok_iff]

theorem exists_require_iff (fields : List (String × Value)) (name : String) :
    (∃ v, (object fields).require name = .ok v) ↔ (fields.lookup name).isSome = true := by
  cases found : fields.lookup name with
  | none => simp [require_of_none found]
  | some v => simp [require_of_some found]

end Value

/-! ### Catalogues -/

namespace Catalogue

variable {β : Type} (c : Catalogue β) (v : Value)

theorem slips_find?_iff : Slips (c.find? v) ↔ False := by
  refine (slips_bind_iff (x := v.key) fun key => slips_ok_iff (c.at? key)).trans ?_
  rw [Value.slips_key_iff, and_false, or_false]

theorem slips_contains_iff : Slips (c.contains v) ↔ False := by
  refine (slips_bind_iff (x := v.key) fun key => slips_ok_iff (c.table.contains key)).trans ?_
  rw [Value.slips_key_iff, and_false, or_false]

theorem slips_insert_iff (b : β) : Slips (c.insert v b) ↔ False := by
  refine (slips_bind_iff (x := v.key) fun key => slips_ok_iff _).trans ?_
  rw [Value.slips_key_iff, and_false, or_false]

end Catalogue

/-! ### Parameters -/

namespace Parameter

/-- The numbers of a parameter in the order in which they are read. -/
def numbers (fields : List (String × Value)) : List Value :=
  let field (name : String) := (fields.lookup name).getD .null
  (fields.lookup "value").getD (.float 0) ::
    (Value.closedEnds [field "min", field "max"] ++ [(field "step").orElse (.float 0)])

/-- What stands for a parameter is no object, or has an id, a name and a number that is too large. -/
def Breaks (v : Value) : Prop :=
  (∀ fields, v ≠ .object fields) ∨ ∃ fields, v = .object fields ∧
    (fields.lookup "id").isSome = true ∧ (fields.lookup "name").isSome = true ∧
    Value.Overflows (numbers fields)

theorem breaks_object_iff (fields : List (String × Value)) :
    Breaks (.object fields) ↔ (fields.lookup "id").isSome = true ∧
      (fields.lookup "name").isSome = true ∧ Value.Overflows (numbers fields) := by
  constructor
  · rintro (other | ⟨_, ⟨⟩, h⟩)
    · exact absurd rfl (other fields)
    · exact h
  · exact fun h => .inr ⟨fields, rfl, h⟩

theorem escapes_make_iff (id name value min max step : Value) :
    Escapes (make id name value min max step) ↔ False := by
  refine iff_of_false ?_ fun impossible => impossible
  unfold make
  split
  · exact not_failsWith_ok _
  · rintro ⟨_, ⟨⟩, ⟨⟩⟩

theorem escapes_ofValue_iff (v : Value) : Escapes (ofValue v) ↔ Breaks v := by
  cases v with
  | object fields =>
    have parts : ofValue (.object fields) = (do
      let id ← (Value.object fields).require "id"
      let name ← (Value.object fields).require "name"
      let value ← ((fields.lookup "value").getD (.float 0)).toDouble
      let min ← ((fields.lookup "min").getD .null).readRangeEnd (.infinite true)
      let max ← ((fields.lookup "max").getD .null).readRangeEnd (.infinite false)
      let step ← (((fields.lookup "step").getD .null).orElse (.float 0)).toDouble
      make id name (.float value) min max (.float step)) := rfl
    have walk := escapes_liftM_bind_iff (x := (Value.object fields).require "id") fun id =>
      escapes_liftM_bind_iff (x := (Value.object fields).require "name") fun name =>
      escapes_liftM_bind_iff (x := ((fields.lookup "value").getD (.float 0)).toDouble) fun value =>
      escapes_liftM_bind_iff
        (x := ((fields.lookup "min").getD .null).readRangeEnd (.infinite true)) fun min =>
      escapes_liftM_bind_iff
        (x := ((fields.lookup "max").getD .null).readRangeEnd (.infinite false)) fun max =>
      escapes_liftM_bind_iff
        (x := (((fields.lookup "step").getD .null).orElse (.float 0)).toDouble) fun step =>
      escapes_make_iff id name (.float value) min max (.float step)
    rw [parts]
    refine walk.trans ?_
    simp only [Value.slips_require_iff, Value.exists_require_iff, Value.slips_toDouble_iff,
      Value.slips_readRangeEnd_iff, Value.exists_readRangeEnd_iff, false_or, breaks_object_iff,
      numbers, Value.overflows_cons_iff, Value.overflows_closedEnds_iff, Value.closedEnds_nil,
      List.nil_append, Value.not_overflows_nil]
  | null | bool | int | float | text | list =>
    exact iff_of_true ⟨_, rfl, rfl⟩ (.inl nofun)

end Parameter

/-! ### Points -/

namespace Point

/-- What stands for a point is an object with a coordinate that is too large, or a list or text in
which a coordinate is too large or missing. -/
def Breaks (v : Value) : Prop :=
  (∃ fields x, v = .object fields ∧ fields.lookup "x" = some x ∧
    (x.IsBeyond ∨ (∃ d, x.toDouble = .ok d) ∧ ∃ y, fields.lookup "y" = some y ∧ y.IsBeyond)) ∨
  ∃ items, (∀ fields, v ≠ .object fields) ∧ v.items = .ok items ∧
    (Value.Overflows (items.take 2) ∨ items.length < 2 ∧ ∀ c ∈ items, ∃ d, c.toDouble = .ok d)

theorem slips_ofItems_iff {v : Value} (items : List Value)
    (place : ∀ n, itemAt v n =
      match items[n]? with
      | some item => .ok item
      | none => .error .tooShort) :
    Slips (do
      let x ← (← itemAt v 0).toDouble
      let y ← (← itemAt v 1).toDouble
      return (⟨.float x, .float y⟩ : Point Value)) ↔
      Value.Overflows (items.take 2) ∨ items.length < 2 ∧ ∀ c ∈ items, ∃ d, c.toDouble = .ok d := by
  rw [place 0, place 1]
  match items with
  | [] => exact failsWith_error_iff.trans (iff_of_true rfl (.inr ⟨by decide, nofun⟩))
  | [a] =>
    have last : Slips (.error .tooShort : Except Misuse (Point Value)) ↔ True :=
      failsWith_error_iff.trans (iff_of_true rfl trivial)
    refine (slips_bind_iff (x := a.toDouble) fun x => last).trans ?_
    simp [Value.slips_toDouble_iff, Value.overflows_cons_iff, Value.not_overflows_nil]
  | a :: b :: rest =>
    refine (slips_bind_iff (x := a.toDouble) fun x => slips_bind_iff (x := b.toDouble)
      fun y => slips_ok_iff (⟨.float x, .float y⟩ : Point Value)).trans ?_
    have enough : ¬ (a :: b :: rest).length < 2 := by simp
    simp [enough, Value.slips_toDouble_iff, Value.overflows_cons_iff, Value.not_overflows_nil,
      -List.length_cons]

theorem slips_ofObject_iff (fields : List (String × Value)) :
    Slips (ofValue (.object fields)) ↔ ∃ x, fields.lookup "x" = some x ∧
      (x.IsBeyond ∨ (∃ d, x.toDouble = .ok d) ∧ ∃ y, fields.lookup "y" = some y ∧ y.IsBeyond) := by
  have parts : ofValue (.object fields) = (do
    let x ← (← (Value.object fields).require "x").toDouble
    let y ← (← (Value.object fields).require "y").toDouble
    return (⟨.float x, .float y⟩ : Point Value)) := rfl
  rw [parts]
  cases hx : fields.lookup "x" with
  | none =>
    rw [Value.require_of_none hx]
    exact (slips_error_iff (.missingField "x")).trans (by simp [isReportedMisuse])
  | some x =>
    rw [Value.require_of_some hx, ok_bind]
    cases hy : fields.lookup "y" with
    | none =>
      rw [Value.require_of_none hy]
      have last : Slips (.error (.missingField "y") : Except Misuse (Point Value)) ↔ False :=
        (slips_error_iff (.missingField "y")).trans (by simp [isReportedMisuse])
      refine (slips_bind_iff (x := x.toDouble) fun _ => last).trans ?_
      simp [Value.slips_toDouble_iff]
    | some y =>
      rw [Value.require_of_some hy]
      refine (slips_bind_iff (x := x.toDouble) fun a => slips_bind_iff (x := y.toDouble) fun b =>
        slips_ok_iff (⟨.float a, .float b⟩ : Point Value)).trans ?_
      simp [Value.slips_toDouble_iff]

theorem slips_ofValue_iff (v : Value) : Slips (ofValue v) ↔ Breaks v := by
  cases v with
  | object fields =>
    rw [slips_ofObject_iff]
    constructor
    · rintro ⟨x, hx, h⟩
      exact .inl ⟨fields, x, rfl, hx, h⟩
    · rintro (⟨_, x, ⟨⟩, hx, h⟩ | ⟨items, other, -⟩)
      · exact ⟨x, hx, h⟩
      · exact absurd rfl (other fields)
  | list items =>
    refine (slips_ofItems_iff items fun n => ?_).trans ?_
    · rfl
    · constructor
      · exact fun h => .inr ⟨items, nofun, rfl, h⟩
      · rintro (⟨_, _, ⟨⟩, -⟩ | ⟨_, -, ⟨⟩, h⟩)
        exact h
  | text s =>
    refine (slips_ofItems_iff (s.toList.map fun c => .text c.toString) fun n => ?_).trans ?_
    · rfl
    · constructor
      · exact fun h => .inr ⟨_, nofun, rfl, h⟩
      · rintro (⟨_, _, ⟨⟩, -⟩ | ⟨_, -, ⟨⟩, h⟩)
        exact h
  | null | bool | int | float =>
    refine failsWith_error_iff.trans (iff_of_false nofun ?_)
    rintro (⟨_, _, ⟨⟩, -⟩ | ⟨_, -, ⟨⟩, -⟩)

end Point

/-! ### Figures -/

namespace Figure

/-- An option of a figure, or its default. -/
def option (kind : FigureKind) (given : List (String × Value)) (name : String) : Value :=
  ((given ++ defaults kind).lookup name).getD .null

/-- The options of a polygon ask for infinitely many sides, or those of a path hold something among
the points for which no point can be read. -/
def Breaks (kind : FigureKind) (given : List (String × Value)) : Prop :=
  match kind with
  | .polygon => (option .polygon given "sides").IsInfinity
  | .path => ∃ items, (option .path given "points").items = .ok items ∧
    Reaches (fun v => ∃ p, Point.ofValue v = .ok p) Point.Breaks items
  | .rectangle | .blank => False

theorem slips_items_iff (v : Value) : Slips v.items ↔ False := by
  cases v with
  | list | text | object => exact iff_of_false (not_failsWith_ok _) id
  | null | bool | int | float => exact failsWith_error_iff.trans (iff_of_false nofun id)

theorem settings_eq {kind : FigureKind} {given : List (String × Value)}
    (known : ∀ field ∈ given, ((defaults kind).lookup field.1).isSome = true) :
    Value.settings (defaults kind) given = .ok (option kind given) := by
  have each : (given.find? fun field => ((defaults kind).lookup field.1).isNone) = none := by
    refine List.find?_eq_none.2 fun field member => ?_
    simp [Option.isNone_iff_eq_none, Option.isSome_iff_ne_none.1 (known field member)]
  unfold Value.settings
  rw [each]
  rfl

theorem slips_ofOptions_iff {kind : FigureKind} {given : List (String × Value)}
    (known : ∀ field ∈ given, ((defaults kind).lookup field.1).isSome = true) :
    Slips (ofOptions kind given) ↔ Breaks kind given := by
  unfold ofOptions
  rw [settings_eq known, ok_bind]
  cases kind with
  | rectangle => exact slips_ok_iff _
  | blank => exact slips_ok_iff _
  | polygon =>
    refine (slips_bind_iff (x := sideCount (option .polygon given "sides"))
      fun n => slips_ok_iff _).trans ?_
    rw [and_false, or_false]
    refine (slips_bind_iff (x := Arithmetic.floor (option .polygon given "sides"))
      fun n => slips_ok_iff (max 3 n)).trans ?_
    rw [and_false, or_false, Value.slips_floor_iff]
    rfl
  | path =>
    have points : ∀ items : List Value, Slips (do
        let points ← items.mapM Point.ofValue
        return (.path (.points points) (option .path given "closed")
          (option .path given "offset_x") (option .path given "offset_y") : Figure)) ↔
        Reaches (fun v => ∃ p, Point.ofValue v = .ok p) Point.Breaks items := by
      intro items
      refine (slips_bind_iff fun points => slips_ok_iff _).trans ?_
      rw [and_false, or_false, Slips, failsWith_mapM_iff]
      exact reaches_congr (fun _ => Iff.rfl) Point.slips_ofValue_iff
    unfold Slips
    rw [failsWith_bind_iff]
    refine (or_iff_right fun h => (slips_items_iff _).1 h).trans ?_
    exact exists_congr fun items => and_congr_right fun _ => points items

end Figure

/-! ### Handlers -/

namespace Handler

/-- The numbers of a handler in the order in which they are read as doubles. -/
def numbers (kind : Kind) (fields : List (String × Value)) : List Value :=
  let field (name : String) (default : Value) := (fields.lookup name).getD default
  match kind with
  | .passthrough | .round => []
  | .validation | .clamp => Value.closedEnds [field "min" .null, field "max" .null]
  | .scale => [field "scale" (.float 1), field "offset" (.float 0)]
  | .mapRange => [field "inMin" (.float 0), field "inMax" (.float 100), field "outMin" (.float 0),
    field "outMax" (.float 1)]

/-- The settings of a handler hold a number that is too large, or infinity for a number of places. -/
def SettingsBreak (kind : Kind) (fields : List (String × Value)) : Prop :=
  Value.Overflows (numbers kind fields) ∨
    kind = .round ∧ ((fields.lookup "decimals").getD (.int 0)).IsInfinity

theorem slips_readMode_iff (v : Value) : Slips (readMode v) ↔ False := by
  refine iff_of_false ?_ id
  rintro ⟨cause, failed, unreported⟩
  cases v with
  | list | object =>
    cases failed
    cases unreported
  | null | bool | int | text => cases failed
  | float x =>
    obtain ⟨key, hkey⟩ : ∃ key, (Value.float x).key = .ok key := ⟨_, rfl⟩
    unfold readMode at failed
    rw [hkey, ok_bind] at failed
    cases key <;> cases failed

theorem slips_readDouble_iff (fields : List (String × Value)) (name : String)
    (default : Binary64) : Slips (readDouble (.object fields) name default) ↔
      ((fields.lookup name).getD (.float default)).IsBeyond := by
  refine (slips_bind_iff (x := ((fields.lookup name).getD (.float default)).toDouble) fun x =>
    slips_ok_iff (Value.float x)).trans ?_
  rw [and_false, or_false, Value.slips_toDouble_iff]

theorem exists_readDouble_iff (fields : List (String × Value)) (name : String)
    (default : Binary64) : (∃ v, readDouble (.object fields) name default = .ok v) ↔
      ∃ x, ((fields.lookup name).getD (.float default)).toDouble = .ok x := by
  constructor
  · rintro ⟨v, success⟩
    obtain ⟨_, ⟨⟩, success⟩ := bind_eq_ok_iff.1 success
    obtain ⟨x, hx, -⟩ := bind_eq_ok_iff.1 success
    exact ⟨x, hx⟩
  · rintro ⟨x, hx⟩
    exact ⟨.float x, bind_eq_ok_iff.2 ⟨_, rfl, bind_eq_ok_iff.2 ⟨x, hx, rfl⟩⟩⟩

theorem slips_readEnds_iff {β : Type} (low high : Value) (f : Value → Value → β) :
    Slips (do
      let min ← low.readRangeEnd (.infinite true)
      let max ← high.readRangeEnd (.infinite false)
      return f min max) ↔ Value.Overflows (Value.closedEnds [low, high]) := by
  refine (slips_bind_iff (x := low.readRangeEnd (.infinite true)) fun min =>
    slips_bind_iff (x := high.readRangeEnd (.infinite false)) fun max =>
    slips_ok_iff (f min max)).trans ?_
  rw [← List.append_nil (Value.closedEnds _)]
  simp only [Value.slips_readRangeEnd_iff, Value.exists_readRangeEnd_iff,
    Value.overflows_closedEnds_iff, Value.closedEnds_nil, List.nil_append, Value.not_overflows_nil]

theorem slips_ofValue_iff (kind : Kind) (fields : List (String × Value)) :
    Slips (ofValue kind (.object fields)) ↔ SettingsBreak kind fields := by
  cases kind with
  | passthrough =>
    refine iff_of_false (not_failsWith_ok _) ?_
    rintro (h | ⟨⟨⟩, -⟩)
    exact Value.not_overflows_nil h
  | validation => exact (slips_readEnds_iff _ _ _).trans (or_iff_left nofun).symm
  | clamp => exact (slips_readEnds_iff _ _ _).trans (or_iff_left nofun).symm
  | round =>
    refine (slips_bind_iff (x := ((fields.lookup "decimals").getD (.int 0)).toInteger) fun n =>
      slips_bind_iff (x := readMode ((fields.lookup "mode").getD (.text "round"))) fun mode =>
      slips_ok_iff (Handler.round (.int n) mode)).trans ?_
    simp [SettingsBreak, numbers, Value.slips_toInteger_iff, slips_readMode_iff,
      Value.not_overflows_nil]
  | scale =>
    refine (slips_bind_iff (x := readDouble (.object fields) "scale" 1) fun factor =>
      slips_bind_iff (x := readDouble (.object fields) "offset" 0) fun offset =>
      slips_ok_iff (scale factor offset)).trans ?_
    simp [SettingsBreak, numbers, slips_readDouble_iff, exists_readDouble_iff,
      Value.overflows_cons_iff, Value.not_overflows_nil]
  | mapRange =>
    let limited := (fields.lookup "clamp").getD (.bool true)
    refine (slips_bind_iff (x := readDouble (.object fields) "inMin" 0) fun inMin =>
      slips_bind_iff (x := readDouble (.object fields) "inMax" 100) fun inMax =>
      slips_bind_iff (x := readDouble (.object fields) "outMin" 0) fun outMin =>
      slips_bind_iff (x := readDouble (.object fields) "outMax" 1) fun outMax =>
      slips_ok_iff (mapRange inMin inMax outMin outMax (.bool limited.isTruthy))).trans ?_
    simp [SettingsBreak, numbers, slips_readDouble_iff, exists_readDouble_iff,
      Value.overflows_cons_iff, Value.not_overflows_nil]

/-- What stands for a handler is no object, or the word for a kind of handler with settings of which
one is too large. -/
def Breaks (v : Value) : Prop :=
  (∀ fields, v ≠ .object fields) ∨ ∃ fields kind, v = .object fields ∧
    fields.lookup "type" = some (.text (Kind.label kind)) ∧ SettingsBreak kind fields

theorem find?_kinds_iff {word : Value} {kind : Kind} :
    HandlerRegistry.builtin.kinds.find? word = .ok (some kind) ↔ word = .text kind.label := by
  have listed : HandlerRegistry.builtin.kinds.table.entries =
      (Kind.all.map fun kind => (kind.label, kind)).map fun item =>
        (.text item.1, .text item.1, item.2) := rfl
  rw [Catalogue.find?_eq_ok_some_iff listed]
  constructor
  · rintro ⟨_, rfl, member⟩
    obtain ⟨_, -, same⟩ := List.mem_map.1 member
    cases same
    rfl
  · rintro rfl
    have known : kind ∈ Kind.all := by cases kind <;> decide
    exact ⟨_, rfl, List.mem_map.2 ⟨kind, known, rfl⟩⟩

theorem escapes_create_iff (v : Value) :
    Escapes (HandlerRegistry.builtin.create v) ↔ Breaks v := by
  cases v with
  | object fields =>
    let word := (fields.lookup "type").getD .null
    have named : (Value.object fields).get "type" = .ok word := rfl
    have object_iff : Breaks (.object fields) ↔
        ∃ kind, HandlerRegistry.builtin.kinds.find? word = .ok (some kind) ∧
          SettingsBreak kind fields := by
      simp only [find?_kinds_iff]
      constructor
      · rintro (other | ⟨_, kind, ⟨⟩, named, h⟩)
        · exact absurd rfl (other fields)
        · exact ⟨kind, by simp [word, named], h⟩
      · rintro ⟨kind, named, h⟩
        refine .inr ⟨fields, kind, rfl, ?_, h⟩
        cases found : fields.lookup "type" with
        | none => simp [word, found] at named
        | some v => simpa [word, found] using named
    rw [object_iff]
    unfold HandlerRegistry.create
    rw [named, liftM_ok, ok_bind]
    cases found : HandlerRegistry.builtin.kinds.find? word with
    | error cause =>
      refine iff_of_false ?_ (by simp)
      rintro ⟨failure, ⟨⟩, unreported⟩
      exact (Catalogue.slips_find?_iff _ word).1 ⟨cause, found, unreported⟩
    | ok result =>
      cases result with
      | none =>
        refine iff_of_false ?_ (by simp)
        rintro ⟨failure, ⟨⟩, ⟨⟩⟩
      | some kind =>
        have made := (escapes_liftM_iff (x := ofValue kind (.object fields))).trans
          (slips_ofValue_iff kind fields)
        refine made.trans ⟨fun h => ⟨kind, rfl, h⟩, ?_⟩
        rintro ⟨_, ⟨⟩, h⟩
        exact h
  | null | bool | int | float | text | list =>
    exact iff_of_true ⟨_, rfl, rfl⟩ (.inl nofun)

end Handler

end Joinery
