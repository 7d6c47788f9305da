import Joinery.Parameter.Change
import Joinery.Proofs.Catalogue
import Joinery.Proofs.Number.Same

/-!
# What listeners know of parameters

Setting a parameter may set others, and the same one again, before all listeners have heard of the
first change; those that hear late are told a value that has been told to others already. Still no
listener is left with a value that has passed: whoever is there at every change was last told, of
each parameter that changed, the value that it has in the end.

The invariant is that of a transition from one store to the next. What was told last of a parameter
is its value in the next store, and if nothing was told, then it did not change. Telling the value of
the moment keeps this, and so does going on from one transition to another; what a change leaves to
be told is told before the change is over.
-/
namespace Joinery

/-! ### Stores -/

namespace Parameter

theorem exists_numbers_of_lt {a b : Value} {c : Bool} (success : Arithmetic.lt a b = .ok c) :
    (∃ m, a.number? = some m) ∧ ∃ n, b.number? = some n := by
  change Value.compareBy Number.lt a b = .ok c at success
  unfold Value.compareBy at success
  split at success
  · next m n hm hn => exact ⟨⟨m, hm⟩, n, hn⟩
  · cases success

theorem exists_number_of_mul {steps : Int} {step product : Value} {n : Number}
    (hn : step.number? = some n) (success : Arithmetic.mul (.int steps) step = .ok product) :
    ∃ m, product.number? = some m := by
  change Value.mul (.int steps) step = .ok product at success
  unfold Value.mul Value.onNumbers at success
  rw [hn] at success
  obtain ⟨m, -, success⟩ := bind_eq_ok_iff.1 success
  cases success
  cases m <;> exact ⟨_, rfl⟩

/-- The value that is stored is a number, whatever range and step there are. -/
theorem exists_number_of_settle {min max step v settled : Value}
    (success : settle min max step v = .ok settled) : ∃ n, settled.number? = some n := by
  obtain ⟨low, -, success⟩ := bind_eq_ok_iff.1 success
  obtain ⟨clamped, hclamped, success⟩ := bind_eq_ok_iff.1 success
  have number : ∃ n, clamped.number? = some n := by
    obtain ⟨upward, hupward, chosen⟩ := bind_eq_ok_iff.1 hclamped
    obtain ⟨first, second⟩ := exists_numbers_of_lt hupward
    cases chosen
    cases upward with
    | true => exact second
    | false => exact first
  obtain ⟨stepped, hstepped, success⟩ := bind_eq_ok_iff.1 success
  cases stepped with
  | true =>
    obtain ⟨-, n, hn⟩ := exists_numbers_of_lt hstepped
    obtain ⟨quotient, -, success⟩ := bind_eq_ok_iff.1 success
    obtain ⟨steps, -, success⟩ := bind_eq_ok_iff.1 success
    exact exists_number_of_mul hn success
  | false =>
    cases success
    exact number

theorem exists_number_of_withValue {p changed : Parameter} {v : Value}
    (success : p.withValue v = .ok changed) : ∃ n, changed.value.number? = some n := by
  obtain ⟨x, -, success⟩ := bind_eq_ok_iff.1 success
  obtain ⟨settled, hsettled, success⟩ := bind_eq_ok_iff.1 success
  cases success
  exact exists_number_of_settle hsettled

end Parameter

namespace ParameterStore

/-- A number is stored under a key. -/
def IsNumeric (s : ParameterStore) (key : Value.Key) : Prop :=
  ∃ p n, s.parameters.at? key = some p ∧ p.value.number? = some n

/-- A value is that of the parameter under a key: equal to it, where NaN, which a step may lead to,
counts as equal to itself. -/
def Shows (s : ParameterStore) (key : Value.Key) (v : Value) : Prop :=
  ∃ p, s.parameters.at? key = some p ∧ v.same p.value = true

variable {s : ParameterStore} {key : Value.Key} {p changed : Parameter} {asked : Value}

theorem shows_news (numeric : s.IsNumeric key) (id old : Value) (listener : Nat) :
    s.Shows key (s.news key id old listener).new := by
  obtain ⟨p, n, found, number⟩ := numeric
  refine ⟨p, found, ?_⟩
  rw [news, found]
  exact Value.same_self_of_number number

theorem isNumeric_withParameter (found : s.parameters.at? key = some p)
    (success : p.withValue asked = .ok changed) {key' : Value.Key}
    (numeric : s.IsNumeric key' ∨ key' = key) : (s.withParameter key changed).IsNumeric key' := by
  by_cases same : key' = key
  · subst same
    obtain ⟨n, number⟩ := Parameter.exists_number_of_withValue success
    exact ⟨changed, n, Catalogue.at?_modify_self found _, number⟩
  · obtain ⟨q, n, at', number⟩ := numeric.resolve_right same
    exact ⟨q, n, (Catalogue.at?_modify_of_ne _ same _).trans at', number⟩

theorem Shows.withParameter_of_ne {key' : Value.Key} {v : Value} (shown : s.Shows key' v)
    (other : key' ≠ key) (changed : Parameter) : (s.withParameter key changed).Shows key' v := by
  obtain ⟨q, found, same⟩ := shown
  exact ⟨q, (Catalogue.at?_modify_of_ne _ other _).trans found, same⟩

/-- A value that replaces an equal one is not noticed. -/
theorem Shows.withParameter_of_equals {key' : Value.Key} {v : Value} (shown : s.Shows key' v)
    (found : s.parameters.at? key = some p) (success : p.withValue asked = .ok changed)
    (equal : p.value.equals changed.value = true) : (s.withParameter key changed).Shows key' v := by
  by_cases same : key' = key
  · subst same
    obtain ⟨q, found', shown⟩ := shown
    cases found.symm.trans found'
    obtain ⟨n, number⟩ := Parameter.exists_number_of_withValue success
    exact ⟨changed, Catalogue.at?_modify_self found _,
      Value.same_of_same_of_equals number shown equal⟩
  · exact shown.withParameter_of_ne same changed

end ParameterStore

/-! ### What was told last -/

/-- What a listener was told last of the parameter under a key. A listener may have come several
times, and each time was given a number of its own. -/
def lastTold (own : Nat → Bool) (key : Value.Key) (told : List Notification) : Option Value :=
  (told.reverse.find? fun n => own n.listener && n.key = key).map Notification.new

theorem lastTold_append (own : Nat → Bool) (key : Value.Key) (before after : List Notification) :
    lastTold own key (before ++ after) = (lastTold own key after).or (lastTold own key before) := by
  unfold lastTold
  rw [List.reverse_append, List.find?_append, Option.map_or]

theorem lastTold_eq_none_iff {own : Nat → Bool} {key : Value.Key} {told : List Notification} :
    lastTold own key told = none ↔ ∀ n ∈ told, own n.listener = true → n.key ≠ key := by
  simp [lastTold]

/-! ### Transitions -/

namespace Transition

variable {s : ParameterStore} {t : Transition} {next : ParameterStore → Transition}

theorem andThen_of_ok (ok : t.result = .ok ()) : t.andThen next = { next t.store with
    notifications := t.notifications ++ (next t.store).notifications
    changes := t.changes ++ (next t.store).changes } := by
  unfold andThen
  rw [ok]

theorem result_andThen_eq_ok_iff :
    (t.andThen next).result = .ok () ↔ t.result = .ok () ∧ (next t.store).result = .ok () := by
  unfold andThen
  split
  · next h => simp [h]
  · next h => simp [h]

theorem mem_notifications_andThen_iff (ok : t.result = .ok ()) (n : Notification) :
    n ∈ (t.andThen next).notifications ↔
      n ∈ t.notifications ∨ n ∈ (next t.store).notifications := by
  rw [andThen_of_ok ok, List.mem_append]

/-- A listener was there at every change of the parameter under a key. -/
def IsHeard (t : Transition) (own : Nat → Bool) (key : Value.Key) : Prop :=
  ∀ c ∈ t.changes, c.key = key → ∃ n ∈ c.audience, own n = true

/-- What a transition leaves behind when it goes on from a store: no number is given again, numbers
stay numbers, and nobody who was there throughout is left with a value that has passed. -/
structure Settles (t : Transition) (s : ParameterStore) : Prop where
  numbered : s.nextListener ≤ t.store.nextListener
  /-- Who is known before and there afterwards was there all the time. -/
  stayed : ∀ n < s.nextListener, n ∈ t.store.audience →
    n ∈ s.audience ∧ ∀ c ∈ t.changes, n ∈ c.audience
  numeric : ∀ key, s.IsNumeric key → t.store.IsNumeric key
  told : ∀ own key v, t.IsHeard own key → lastTold own key t.notifications = some v →
    t.store.Shows key v
  untold : ∀ own key, t.IsHeard own key → lastTold own key t.notifications = none →
    (∀ c ∈ t.changes, c.key ≠ key) ∧ ∀ v, s.Shows key v → t.store.Shows key v

theorem Settles.andThen (first : t.result = .ok () → t.Settles s)
    (second : (next t.store).result = .ok () → (next t.store).Settles t.store)
    (ok : (t.andThen next).result = .ok ()) : (t.andThen next).Settles s := by
  obtain ⟨ok, ok'⟩ := result_andThen_eq_ok_iff.1 ok
  have first := first ok
  have second := second ok'
  rw [andThen_of_ok ok]
  have heard {own key} (h : ∀ c ∈ t.changes ++ (next t.store).changes, c.key = key →
      ∃ n ∈ c.audience, own n = true) :
      t.IsHeard own key ∧ (next t.store).IsHeard own key :=
    List.forall_mem_append.1 h
  constructor
  case numbered => exact first.numbered.trans second.numbered
  case stayed =>
    intro n known there
    obtain ⟨between, after⟩ := second.stayed n (known.trans_le first.numbered) there
    obtain ⟨before, during⟩ := first.stayed n known between
    exact ⟨before, List.forall_mem_append.2 ⟨during, after⟩⟩
  case numeric => exact fun key numeric => second.numeric key (first.numeric key numeric)
  case told =>
    intro own key v h last
    obtain ⟨h, h'⟩ := heard h
    rw [lastTold_append] at last
    cases later : lastTold own key (next t.store).notifications with
    | some w =>
      rw [later] at last
      cases last
      exact second.told own key v h' later
    | none =>
      rw [later] at last
      exact (second.untold own key h' later).2 v (first.told own key v h last)
  case untold =>
    intro own key h last
    obtain ⟨h, h'⟩ := heard h
    obtain ⟨later, earlier⟩ := Option.or_eq_none_iff.1 ((lastTold_append ..).symm.trans last)
    obtain ⟨unchanged, kept⟩ := first.untold own key h earlier
    obtain ⟨unchanged', kept'⟩ := second.untold own key h' later
    exact ⟨List.forall_mem_append.2 ⟨unchanged, unchanged'⟩, fun v shown => kept' v (kept v shown)⟩

/-- Nothing is told, and what could be seen still can be. -/
theorem settles_stay {s s' : ParameterStore} (numbered : s.nextListener ≤ s'.nextListener)
    (stayed : ∀ n < s.nextListener, n ∈ s'.audience → n ∈ s.audience)
    (numeric : ∀ key, s.IsNumeric key → s'.IsNumeric key)
    (shown : ∀ key v, s.Shows key v → s'.Shows key v) : (stay s').Settles s where
  numbered := numbered
  stayed n known there := ⟨stayed n known there, nofun⟩
  numeric := numeric
  told := nofun
  untold _ key _ _ := ⟨nofun, shown key⟩

/-- Only the listeners differ, or what they noted down. -/
theorem settles_stay_of_parameters {s s' : ParameterStore} (same : s'.parameters = s.parameters)
    (numbered : s.nextListener ≤ s'.nextListener)
    (stayed : ∀ n < s.nextListener, n ∈ s'.audience → n ∈ s.audience) : (stay s').Settles s := by
  refine settles_stay numbered stayed ?_ ?_
  · rintro key ⟨p, n, found, number⟩
    exact ⟨p, n, same ▸ found, number⟩
  · rintro key v ⟨p, found, shown⟩
    exact ⟨p, same ▸ found, shown⟩

theorem settles_tell {n : Notification} (current : s.Shows n.key n.new) : (tell s n).Settles s where
  numbered := Nat.le_refl _
  stayed _ _ there := ⟨there, nofun⟩
  numeric _ numeric := numeric
  told own key v _ last := by
    obtain ⟨n', found, rfl⟩ := Option.map_eq_some_iff.1 last
    have member := List.mem_of_find?_eq_some found
    have fits := List.find?_some found
    obtain rfl := List.mem_singleton.1 (List.mem_reverse.1 member)
    obtain ⟨-, same⟩ := Bool.and_eq_true_iff.1 fits
    rwa [of_decide_eq_true same] at current
  untold _ _ _ _ := ⟨nofun, fun _ shown => shown⟩

/-- A change settles once all who were there have been told something of the parameter. -/
theorem settles_change {key : Value.Key} {s' : ParameterStore} {t : Transition}
    (same : s'.nextListener = s.nextListener ∧ s'.audience = s.audience)
    (numeric : ∀ key', s.IsNumeric key' → s'.IsNumeric key')
    (shown : ∀ key' v, key' ≠ key → s.Shows key' v → s'.Shows key' v)
    (settles : t.Settles s') (informed : ∀ n ∈ s.audience, ∃ note ∈ t.notifications,
      note.listener = n ∧ note.key = key) :
    ({ t with changes := ⟨key, s.audience⟩ :: t.changes } : Transition).Settles s where
  numbered := same.1 ▸ settles.numbered
  stayed n known there := by
    obtain ⟨before, during⟩ := settles.stayed n (same.1 ▸ known) there
    rw [same.2] at before
    exact ⟨before, List.forall_mem_cons.2 ⟨before, during⟩⟩
  numeric key' number := settles.numeric key' (numeric key' number)
  told own key' v h last := settles.told own key' v (List.forall_mem_cons.1 h).2 last
  untold own key' h last := by
    obtain ⟨first, rest⟩ := List.forall_mem_cons.1 h
    have other : key' ≠ key := by
      rintro rfl
      obtain ⟨n, there, mine⟩ := first rfl
      obtain ⟨note, told, rfl, about⟩ := informed n there
      exact lastTold_eq_none_iff.1 last note told mine about
    obtain ⟨unchanged, kept⟩ := settles.untold own key' rest last
    exact ⟨List.forall_mem_cons.2 ⟨other.symm, unchanged⟩,
      fun v before => kept v (shown key' v other before)⟩

end Transition

/-! ### Actions, announcements, changes -/

namespace ParameterStore

open Transition

variable {set : ParameterStore → Value → Value → Transition}

theorem mem_audience_subscribe (s : ParameterStore) (listener : Listener) {n : Nat}
    (known : n < s.nextListener) (there : n ∈ (s.subscribe listener).2.audience) :
    n ∈ s.audience := by
  rw [audience, subscribe, List.map_append, List.mem_append] at there
  obtain before | new := there
  · exact before
  · exact absurd (List.mem_singleton.1 new) known.ne

theorem mem_audience_unsubscribe (s : ParameterStore) (listener : Nat) {n : Nat}
    (there : n ∈ (s.unsubscribe listener).audience) : n ∈ s.audience :=
  (List.filter_sublist.map _).subset there

/-- Whatever a listener does settles, as long as what it sets does. -/
theorem settles_perform
    (sets : ∀ s id v, (set s id v).result = .ok () → (set s id v).Settles s) (action : Action)
    (s : ParameterStore) (ok : (perform set action s).result = .ok ()) :
    (perform set action s).Settles s := by
  induction action generalizing s with
  | done => exact settles_stay_of_parameters rfl (Nat.le_refl _) fun _ _ there => there
  | fail cause => cases ok
  | read next ih => exact ih s.parameters s ok
  | set id value next ih => exact Settles.andThen (sets s id value) (ih _) ok
  | subscribe listener next _ ih =>
    refine Settles.andThen (t := .stay (s.subscribe listener).2) (fun _ => ?_) (ih _ _) ok
    exact settles_stay_of_parameters rfl (Nat.le_succ _) fun _ => s.mem_audience_subscribe listener
  | unsubscribe listener next ih =>
    refine Settles.andThen (t := .stay (s.unsubscribe listener)) (fun _ => ?_) (ih _) ok
    exact settles_stay_of_parameters rfl (Nat.le_refl _) fun _ _ =>
      s.mem_audience_unsubscribe listener
  | recollect next ih => exact ih s.memory s ok
  | remember note next ih =>
    refine Settles.andThen (t := .stay { s with memory := note }) (fun _ => ?_) (ih _) ok
    exact settles_stay_of_parameters rfl (Nat.le_refl _) fun _ _ there => there

theorem settles_announce
    (sets : ∀ s id v, (set s id v).result = .ok () → (set s id v).Settles s) {key : Value.Key}
    (id old : Value) (listeners : List (Nat × Listener)) {s : ParameterStore}
    (numeric : s.IsNumeric key) (ok : (announce set key id old listeners s).result = .ok ()) :
    (announce set key id old listeners s).Settles s := by
  induction listeners generalizing s with
  | nil => exact settles_stay_of_parameters rfl (Nat.le_refl _) fun _ _ there => there
  | cons entry rest ih =>
    obtain ⟨number, listener⟩ := entry
    let n := s.news key id old number
    have telling : (tell s n).Settles s := settles_tell (shows_news numeric id old number)
    have first := Settles.andThen (fun _ => telling) (settles_perform sets (listener n) s)
    refine Settles.andThen first (fun ok' => ?_) ok
    exact ih ((first (result_andThen_eq_ok_iff.1 ok).1).numeric key numeric) ok'

/-- Everybody who is to be told of a change is told something of the parameter. -/
theorem exists_told_of_announce {key : Value.Key} {id old : Value}
    {listeners : List (Nat × Listener)} {s : ParameterStore}
    (ok : (announce set key id old listeners s).result = .ok ()) {number : Nat}
    (member : number ∈ listeners.map Prod.fst) :
    ∃ n ∈ (announce set key id old listeners s).notifications,
      n.listener = number ∧ n.key = key := by
  induction listeners generalizing s with
  | nil => cases member
  | cons entry rest ih =>
    obtain ⟨first, ok'⟩ := result_andThen_eq_ok_iff.1 ok
    obtain rfl | later := List.mem_cons.1 member
    · refine ⟨s.news key id old entry.1, ?_, rfl, rfl⟩
      refine (mem_notifications_andThen_iff first _).2 (.inl ?_)
      exact (mem_notifications_andThen_iff rfl _).2 (.inl (.head _))
    · obtain ⟨n, told, about⟩ := ih ok' later
      exact ⟨n, (mem_notifications_andThen_iff first n).2 (.inr told), about⟩

/-- What setting a parameter does when it succeeds: an equal value replaces the old one unnoticed, and
any other one is told to everybody who is there. -/
theorem setWithin_cases {depth : Nat} {s : ParameterStore} {id value : Value}
    (ok : (s.setWithin (depth + 1) id value).result = .ok ()) :
    ∃ key p changed, s.parameters.at? key = some p ∧ p.withValue value = .ok changed ∧
      (p.value.equals changed.value = true ∧
        s.setWithin (depth + 1) id value = .stay (s.withParameter key changed) ∨
      s.setWithin (depth + 1) id value =
        (Transition.change (s.withParameter key changed) ⟨key, s.audience⟩).andThen
          (announce (setWithin depth) key p.id p.value s.listeners)) := by
  unfold setWithin at ok ⊢
  split at ok
  · cases ok
  · next key hkey =>
    split at ok
    · cases ok
    · next p found =>
      split at ok
      · cases ok
      · next changed success =>
        refine ⟨key, p, changed, found, success, ?_⟩
        cases equal : p.value.equals changed.value with
        | true => exact .inl ⟨rfl, rfl⟩
        | false => exact .inr rfl

/-- Setting a parameter settles, however deep changes answer changes. -/
theorem settles_setWithin (depth : Nat) (s : ParameterStore) (id value : Value)
    (ok : (s.setWithin depth id value).result = .ok ()) :
    (s.setWithin depth id value).Settles s := by
  induction depth generalizing s id value with
  | zero => cases ok
  | succ depth ih =>
    obtain ⟨key, p, changed, found, success, ⟨equal, unnoticed⟩ | noticed⟩ := setWithin_cases ok
    · rw [unnoticed]
      refine settles_stay (Nat.le_refl _) (fun _ _ h => h) ?_ ?_
      · exact fun key' number => isNumeric_withParameter found success (.inl number)
      · exact fun key' v shown => shown.withParameter_of_equals found success equal
    · rw [noticed] at ok ⊢
      have number := isNumeric_withParameter found success (.inr rfl)
      have told := settles_announce ih p.id p.value s.listeners number ok
      refine settles_change ?_ ?_ ?_ told ?_
      · exact ⟨rfl, rfl⟩
      · exact fun key' number => isNumeric_withParameter found success (.inl number)
      · exact fun key' v other shown => shown.withParameter_of_ne other changed
      · exact fun n there => exists_told_of_announce ok there

/-- Who is known before and there afterwards is there at every change. -/
theorem mem_audience_of_stays {depth : Nat} {s : ParameterStore} {id value : Value}
    (ok : (s.setWithin depth id value).result = .ok ()) {n : Nat} (known : n < s.nextListener)
    (stays : n ∈ (s.setWithin depth id value).store.audience) :
    ∀ c ∈ (s.setWithin depth id value).changes, n ∈ c.audience :=
  ((settles_setWithin depth s id value ok).stayed n known stays).2

end ParameterStore

/-! ### Mirrors -/

/-- The values that a listener keeps, by the keys of the parameters. -/
abbrev Mirror := Value.Key → Option Value

namespace Mirror

/-- A listener keeps the value that it is told. -/
def hear (own : Nat → Bool) (m : Mirror) (n : Notification) : Mirror :=
  if own n.listener then Function.update m n.key (some n.new) else m

/-- All values that are kept are those of the store. -/
def Agrees (m : Mirror) (s : ParameterStore) : Prop := ∀ key v, m key = some v → s.Shows key v

theorem foldl_hear (own : Nat → Bool) (m : Mirror) (told : List Notification) (key : Value.Key) :
    told.foldl (hear own) m key = (lastTold own key told).or (m key) := by
  induction told generalizing m with
  | nil => rfl
  | cons n rest ih =>
    have split : lastTold own key (n :: rest) =
        (lastTold own key rest).or (lastTold own key [n]) := lastTold_append own key [n] rest
    have first : hear own m n key = (lastTold own key [n]).or (m key) := by
      unfold hear lastTold
      by_cases mine : own n.listener = true
      · by_cases about : n.key = key
        · simp [mine, about]
        · simp [mine, about, Function.update_of_ne (Ne.symm about)]
      · simp [mine]
    rw [List.foldl_cons, ih, split, Option.or_assoc, first]

end Mirror

namespace ParameterStore

/-- Whoever was there at every change, as all are who stay throughout, was told last, of each parameter
that changed, the value that it has in the end. So what a listener keeps agrees with the store if it
did before, whatever listeners do and however deep changes answer changes. -/
theorem setWithin_told_last (depth : Nat) (s : ParameterStore) (id value : Value) (own : Nat → Bool)
    (returns : (s.setWithin depth id value).result = .ok ())
    (throughout : ∀ c ∈ (s.setWithin depth id value).changes, ∃ n ∈ c.audience, own n = true) :
    (∀ c ∈ (s.setWithin depth id value).changes,
      ∃ v, lastTold own c.key (s.setWithin depth id value).notifications = some v ∧
        (s.setWithin depth id value).store.Shows c.key v) ∧
    ∀ m : Mirror, m.Agrees s →
      ((s.setWithin depth id value).notifications.foldl (Mirror.hear own) m).Agrees
        (s.setWithin depth id value).store := by
  have settles := settles_setWithin depth s id value returns
  have heard (key) : (s.setWithin depth id value).IsHeard own key := fun c member _ =>
    throughout c member
  constructor
  · intro c member
    cases last : lastTold own c.key (s.setWithin depth id value).notifications with
    | some v => exact ⟨v, rfl, settles.told own c.key v (heard _) last⟩
    | none => exact absurd rfl ((settles.untold own c.key (heard _) last).1 c member)
  · intro m agrees key v kept
    rw [Mirror.foldl_hear] at kept
    cases last : lastTold own key (s.setWithin depth id value).notifications with
    | some w =>
      rw [last] at kept
      cases kept
      exact settles.told own key v (heard key) last
    | none =>
      rw [last] at kept
      exact (settles.untold own key (heard key) last).2 v (agrees key v kept)

/-- A listener that puts another value in the place of one. -/
def correcting (asked instead : Value) : Listener := fun n =>
  if n.new.equals asked then .set n.id instead .done else .done

/-- A store where a width of five is corrected to four, and where somebody listens to that. -/
def corrected : ParameterStore where
  parameters := Catalogue.empty.insertText "w"
    ⟨.text "w", .text "width", .float 0, .float 0, .float 10, .float 0⟩
  listeners := [(0, correcting (.float 5) (.float 4)), (1, .passive)]
  nextListener := 2

/-- The second listener hears of four first, and then of the change to five. -/
theorem setWithin_told_last_corrected :
    let t := corrected.setWithin 3 (.text "w") (.float 5)
    t.notifications.map (fun n => (n.listener, n.old.equals (.float 0))) =
        [(0, true), (0, false), (1, false), (1, true)] ∧
      ∃ v, lastTold (· == 1) (.text "w") t.notifications = some v ∧ t.store.Shows (.text "w") v := by
  refine ⟨by decide +kernel, ?_⟩
  have returns : (corrected.setWithin 3 (.text "w") (.float 5)).result = .ok () := by
    decide +kernel
  have throughout : ∀ c ∈ (corrected.setWithin 3 (.text "w") (.float 5)).changes,
      ∃ n ∈ c.audience, (n == 1) = true := by
    decide +kernel
  have changed : ∃ c ∈ (corrected.setWithin 3 (.text "w") (.float 5)).changes,
      c.key = .text "w" := by
    decide +kernel
  obtain ⟨c, member, about⟩ := changed
  obtain ⟨told, -⟩ := setWithin_told_last 3 corrected (.text "w") (.float 5) (· == 1) returns
    throughout
  rw [← about]
  exact told c member

end ParameterStore

end Joinery
