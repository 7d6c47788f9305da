import Joinery.Proofs.Fails
import Joinery.Settings.Basic

/-!
# Rules for sections of settings

A rule says for the node under one key whether it is accepted and whether it breaks the reading off
with a misuse, which is not a refusal in words. Rules that are read one after the other make a rule
for a section, and rules for sections one for a document, so that what becomes of a document follows
from the rules for its settings (`governs_sectionEntries`, `governs_of_mapping`).
-/
namespace Joinery

namespace Settings

variable {α β : Type}

/-! ### Three ends of reading -/

/-- Reading gives something just when the document is accepted, breaks off with a misuse in given
cases only, and else refuses the document in words of its own. -/
structure Ends (x : Except Failure β) (accepted : Prop) (broken : Misuse → Prop) : Prop where
  ok_iff : (∃ b, x = .ok b) ↔ accepted
  misuse_iff : ∀ cause, x = .error (.misuse cause) ↔ broken cause
  worded : ∀ failure, x = .error failure →
    (∃ cause, failure = .misuse cause) ∨ ∃ fault, failure = .settings fault

theorem ends_ok {accepted : Prop} {broken : Misuse → Prop} (b : β) (holds : accepted)
    (whole : ∀ cause, ¬ broken cause) : Ends (.ok b) accepted broken where
  ok_iff := iff_of_true ⟨b, rfl⟩ holds
  misuse_iff cause := iff_of_false nofun (whole cause)
  worded _ := nofun

theorem ends_fault {accepted : Prop} {broken : Misuse → Prop} (fault : Fault) (fails : ¬ accepted)
    (whole : ∀ cause, ¬ broken cause) : Ends (.error (.settings fault) : Except Failure β)
      accepted broken where
  ok_iff := iff_of_false nofun fails
  misuse_iff cause := iff_of_false nofun (whole cause)
  worded
    | _, rfl => .inr ⟨fault, rfl⟩

theorem ends_misuse {accepted : Prop} {broken : Misuse → Prop} {cause : Misuse}
    (fails : ¬ accepted) (breaks : ∀ other, broken other ↔ other = cause) :
    Ends (.error (.misuse cause) : Except Failure β) accepted broken where
  ok_iff := iff_of_false nofun fails
  misuse_iff other := by
    rw [breaks]
    constructor
    · rintro ⟨⟩
      rfl
    · rintro rfl
      rfl
  worded
    | _, rfl => .inl ⟨cause, rfl⟩

theorem Ends.congr {x : Except Failure β} {accepted accepted' : Prop}
    {broken broken' : Misuse → Prop} (ends : Ends x accepted broken) (accept : accepted' ↔ accepted)
    (breaks : ∀ cause, broken' cause ↔ broken cause) : Ends x accepted' broken' where
  ok_iff := ends.ok_iff.trans accept.symm
  misuse_iff cause := (ends.misuse_iff cause).trans (breaks cause).symm
  worded := ends.worded

/-- A second step comes to its end when the first one gave something. -/
theorem Ends.bind {x : Except Failure α} {f : α → Except Failure β} {accepted accepted' : Prop}
    {broken broken' : Misuse → Prop} (first : Ends x accepted broken)
    (next : ∀ a, x = .ok a → Ends (f a) accepted' broken') :
    Ends (x >>= f) (accepted ∧ accepted') fun cause => broken cause ∨ accepted ∧ broken' cause := by
  cases x with
  | ok a =>
    have holds := first.ok_iff.1 ⟨a, rfl⟩
    refine (next a rfl).congr (and_iff_right holds) fun cause => ?_
    rw [and_iff_right holds]
    exact or_iff_right fun breaks => nomatch (first.misuse_iff cause).2 breaks
  | error failure =>
    have fails : ¬ accepted := fun holds => nomatch first.ok_iff.2 holds
    have stopped : (.error failure >>= f) = .error failure := rfl
    rw [stopped]
    exact {
      ok_iff := iff_of_false nofun fun both => fails both.1
      misuse_iff := fun cause => Iff.trans
        ⟨fun same => (first.misuse_iff cause).1 (by cases same; rfl),
          fun breaks => by cases (first.misuse_iff cause).2 breaks; rfl⟩
        (or_iff_left fun both => fails both.1).symm
      worded := fun other same => first.worded other (by cases same; rfl) }

/-! ### Rules -/

/-- What a section says about one key: which nodes are accepted under it, and which ones break the
reading off, with which misuse. -/
structure Rule where
  name : String
  Accepts : Node → Prop
  Breaks : Node → Misuse → Prop

/-- A reader comes to the end that a rule says, whatever it reads. -/
def Rule.Governs (r : Rule) (read : Node → Except Failure β) : Prop :=
  ∀ n, Ends (read n) (r.Accepts n) (r.Breaks n)

/-- The rule for a setting: what is not accepted is quoted, unless an integer in it has too many
digits to be written. -/
def setting (name : String) (Accepts : Node → Prop) : Rule where
  name
  Accepts
  Breaks n cause := ¬ Accepts n ∧ n.isWritable = false ∧ cause = .tooLongToWrite

theorem governs_setting {name : String} {Accepts : Node → Prop} {read : Node → Except Failure β}
    (given : ∀ n, Accepts n → ∃ b, read n = .ok b)
    (refused : ∀ n, ¬ Accepts n → ∃ fault, read n = refuse n fault) :
    (setting name Accepts).Governs read := by
  intro n
  by_cases holds : Accepts n
  · obtain ⟨b, read⟩ := given n holds
    rw [read]
    exact ends_ok b holds fun cause breaks => breaks.1 holds
  · obtain ⟨fault, read⟩ := refused n holds
    rw [read, refuse]
    split
    · next writable =>
      exact ends_fault (fault n.quoted) holds fun cause breaks =>
        Bool.noConfusion (writable.symm.trans breaks.2.1)
    · next long =>
      exact ends_misuse holds fun other =>
        (and_iff_right holds).trans (and_iff_right (Bool.eq_false_iff.2 long))

/-! ### Keys -/

/-- A mapping has none but the given keys. -/
def HasOnly (known : List String) (entries : List (Node × Node)) : Prop :=
  ∀ e ∈ entries, ∃ name ∈ known, e.1 = .text name

/-- Of the keys of a mapping, the first that is no text is of the kind that a misuse names. -/
def HasForeignKey (entries : List (Node × Node)) (cause : Misuse) : Prop :=
  Reaches (fun e => ∃ name, e.1 = .text name)
    (fun e => (∀ name, e.1 ≠ .text name) ∧ cause = .notText e.1.toValue.kind) entries

/-- The name of a key that is not known. -/
def unknownName (known : List String) (key : Node) : Except Misuse (Option String) :=
  match key with
  | .scalar (.text name) => .ok (if known.contains name then none else some name)
  | n => .error (.notText n.toValue.kind)

theorem unknownName_of_ne_text {known : List String} {key : Node}
    (foreign : ∀ name, key ≠ .text name) :
    unknownName known key = .error (.notText key.toValue.kind) := by
  unfold unknownName
  split
  · next name => exact absurd rfl (foreign name)
  · rfl

/-- Going through the keys finds none that is unknown, or some, or a first one that is no text. -/
theorem unknownName_cases (known : List String) (entries : List (Node × Node)) :
    (∃ names, (entries.map Prod.fst).filterMapM (unknownName known) = .ok names ∧
      (names = [] ↔ HasOnly known entries) ∧ ∀ cause, ¬ HasForeignKey entries cause) ∨
    ∃ cause, (entries.map Prod.fst).filterMapM (unknownName known) = .error cause ∧
      ¬ HasOnly known entries ∧ ∀ other, HasForeignKey entries other ↔ other = cause := by
  unfold HasOnly HasForeignKey
  induction entries with
  | nil => exact .inl ⟨[], rfl, iff_of_true rfl (List.forall_mem_nil _), fun _ => not_reaches_nil⟩
  | cons e rest ih =>
    rw [List.map_cons, List.filterMapM_cons]
    simp only [reaches_cons_iff, List.forall_mem_cons]
    -- a key that is a text is passed, known or not; any other one is where the walk stops
    by_cases text : ∃ name, e.1 = .text name
    · obtain ⟨name, named⟩ := text
      have passed : unknownName known e.1 =
          .ok (if known.contains name then none else some name) := by rw [named]; rfl
      have here : (∃ other ∈ known, e.1 = .text other) ↔ known.contains name = true := by
        rw [named, List.contains_iff_mem]
        constructor
        · rintro ⟨other, member, same⟩
          cases same
          exact member
        · exact fun member => ⟨name, member, rfl⟩
      have own : ∀ cause : Misuse,
          ¬ ((∀ other, e.1 ≠ .text other) ∧ cause = .notText e.1.toValue.kind) :=
        fun cause foreign => foreign.1 name named
      rw [passed, ok_bind, here]
      obtain ⟨names, found, none_iff, whole⟩ | ⟨cause, failed, others, first⟩ := ih
      · left
        rw [found]
        cases h : known.contains name with
        | true => exact ⟨names, rfl, by simpa using none_iff, fun cause => by simp [whole, own]⟩
        | false =>
          exact ⟨name :: names, rfl, by simp, fun cause => by simp [whole, own]⟩
      · right
        rw [failed]
        refine ⟨cause, ?_, fun both => others both.2, fun other => ?_⟩
        · cases known.contains name <;> rfl
        · rw [or_iff_right (own other), first other]
          exact and_iff_right ⟨name, named⟩
    · right
      have foreign : ∀ name, e.1 ≠ .text name := fun name same => text ⟨name, same⟩
      rw [unknownName_of_ne_text foreign]
      refine ⟨_, rfl, fun both => ?_, fun other => ?_⟩
      · obtain ⟨name, -, same⟩ := both.1
        exact foreign name same
      · rw [or_iff_left fun both => text both.1]
        exact and_iff_right foreign

theorem unknownKeys_cases (known : List String) (entries : List (Node × Node)) :
    (∃ names, unknownKeys known entries = .ok names ∧ (names = [] ↔ HasOnly known entries) ∧
      ∀ cause, ¬ HasForeignKey entries cause) ∨
    ∃ cause, unknownKeys known entries = .error cause ∧ ¬ HasOnly known entries ∧
      ∀ other, HasForeignKey entries other ↔ other = cause := by
  have sorted : unknownKeys known entries =
      (entries.map Prod.fst).filterMapM (unknownName known) >>=
        fun names => .ok (names.mergeSort (· ≤ ·)) := rfl
  rw [sorted]
  obtain ⟨names, found, none_iff, whole⟩ | ⟨cause, failed, others, first⟩ :=
    unknownName_cases known entries
  · refine .inl ⟨names.mergeSort (· ≤ ·), by rw [found]; rfl, ?_, whole⟩
    rw [← none_iff, ← List.length_eq_zero_iff, List.length_mergeSort, List.length_eq_zero_iff]
  · exact .inr ⟨cause, by rw [failed]; rfl, others, first⟩

theorem unknownKeys_eq_nil_iff {known : List String} {entries : List (Node × Node)} :
    unknownKeys known entries = .ok [] ↔ HasOnly known entries := by
  obtain ⟨names, found, none_iff, -⟩ | ⟨cause, failed, others, -⟩ := unknownKeys_cases known entries
  · rw [found, ← none_iff, Except.ok.injEq]
  · rw [failed]
    exact iff_of_false nofun others

/-- A mapping is read on if it has none but known keys; a key that is no text breaks the reading
off. -/
theorem ends_keys {known : List String} {entries : List (Node × Node)}
    {step : List String → Except Failure β} {accepted : Prop} {broken : Misuse → Prop}
    (refused : ∀ name names, ∃ fault, step (name :: names) = .error (.settings fault))
    (next : Ends (step []) accepted broken) :
    Ends ((liftM (unknownKeys known entries) : Except Failure (List String)) >>= step)
      (HasOnly known entries ∧ accepted)
      fun cause => HasForeignKey entries cause ∨ HasOnly known entries ∧ broken cause := by
  obtain ⟨names, found, none_iff, whole⟩ | ⟨cause, failed, others, first⟩ :=
    unknownKeys_cases known entries
  · rw [found, liftM_ok, ok_bind]
    cases names with
    | nil =>
      have only := none_iff.1 rfl
      refine next.congr (and_iff_right only) fun cause => ?_
      rw [or_iff_right (whole cause)]
      exact and_iff_right only
    | cons name names =>
      have others : ¬ HasOnly known entries := fun only => nomatch none_iff.2 only
      obtain ⟨fault, refused⟩ := refused name names
      rw [refused]
      exact ends_fault fault (fun both => others both.1) fun cause broken =>
        broken.elim (whole cause) fun both => others both.1
  · rw [failed]
    refine ends_misuse (fun both => others both.1) fun other => ?_
    rw [or_iff_left fun both => others both.1]
    exact first other

/-! ### Sections -/

/-- What stands under the key of a rule, if anything does, is accepted. -/
def Rule.Allows (r : Rule) (entries : List (Node × Node)) : Prop :=
  ∀ v, entry entries r.name = some v → r.Accepts v

/-- What stands under the key of a rule breaks the reading off. -/
def Rule.Stops (r : Rule) (entries : List (Node × Node)) (cause : Misuse) : Prop :=
  ∃ v, entry entries r.name = some v ∧ r.Breaks v cause

/-- What stands under the keys of rules is accepted. -/
def AllAllow (rules : List Rule) (entries : List (Node × Node)) : Prop :=
  ∀ r ∈ rules, r.Allows entries

/-- The first rule that does not allow what stands under its key stops there. -/
def FirstStops (rules : List Rule) (entries : List (Node × Node)) (cause : Misuse) : Prop :=
  Reaches (fun r : Rule => r.Allows entries) (fun r => r.Stops entries cause) rules

/-- A section is empty, or it has none but known keys and what stands under them is accepted. -/
def Accepts (rules : List Rule) (n : Node) : Prop :=
  n = .scalar .null ∨ ∃ entries, n = .mapping entries ∧ HasOnly (rules.map Rule.name) entries ∧
    AllAllow rules entries

/-- A section breaks the reading off if it has a key that is no text, or none but known keys and a
rule stops there. -/
def Breaks (rules : List Rule) (n : Node) (cause : Misuse) : Prop :=
  ∃ entries, n = .mapping entries ∧ (HasForeignKey entries cause ∨
    HasOnly (rules.map Rule.name) entries ∧ FirstStops rules entries cause)

/-- A section as a rule for the key that it stands under. -/
def ofSection (name : String) (rules : List Rule) : Rule := ⟨name, Accepts rules, Breaks rules⟩

variable {r : Rule} {rules : List Rule} {entries : List (Node × Node)}

/-- Rules are read one after the other. -/
theorem Ends.cons {x : Except Failure α} {f : α → Except Failure β}
    (first : Ends x (r.Allows entries) (r.Stops entries))
    (next : ∀ a, Ends (f a) (AllAllow rules entries) (FirstStops rules entries)) :
    Ends (x >>= f) (AllAllow (r :: rules) entries) (FirstStops (r :: rules) entries) :=
  (first.bind fun a _ => next a).congr List.forall_mem_cons fun _ => reaches_cons_iff

theorem ends_nil (b : β) : Ends (.ok b) (AllAllow [] entries) (FirstStops [] entries) :=
  ends_ok b (List.forall_mem_nil _) fun _ => not_reaches_nil

theorem Ends.singleton {x : Except Failure β} (ends : Ends x (r.Allows entries) (r.Stops entries)) :
    Ends x (AllAllow [r] entries) (FirstStops [r] entries) :=
  ends.congr List.forall_mem_singleton fun _ => reaches_cons_iff.trans
    (or_iff_left fun both => not_reaches_nil both.2)

/-- A setting that may be absent. -/
theorem ends_readOr {read : Node → Except Failure β} (governs : r.Governs read) (default : β) :
    Ends (readOr entries r.name default read) (r.Allows entries) (r.Stops entries) := by
  unfold readOr
  cases found : entry entries r.name with
  | none =>
    exact ends_ok default (fun v there => nomatch found.symm.trans there)
      fun cause ⟨v, there, _⟩ => nomatch found.symm.trans there
  | some v =>
    refine (governs v).congr ⟨fun allows => allows v found, fun accepts w there => ?_⟩
      fun cause => ⟨fun ⟨w, there, breaks⟩ => ?_, fun breaks => ⟨v, found, breaks⟩⟩
    · cases found.symm.trans there
      exact accepts
    · cases found.symm.trans there
      exact breaks

/-- A section that may be absent, which is read as null then. -/
theorem ends_getD {name : String} {read : Node → Except Failure β}
    (governs : (ofSection name rules).Governs read) :
    Ends (read ((entry entries name).getD default)) ((ofSection name rules).Allows entries)
      ((ofSection name rules).Stops entries) := by
  obtain ⟨d, empty⟩ : ∃ d, read (.scalar .null) = .ok d :=
    (governs (.scalar .null)).ok_iff.2 (.inl rfl)
  have same : read ((entry entries name).getD default) = readOr entries name d read := by
    unfold readOr
    cases entry entries name with
    | none => exact empty
    | some v => rfl
  rw [same]
  exact ends_readOr governs d

theorem accepts_mapping_iff :
    Accepts rules (.mapping entries) ↔
      HasOnly (rules.map Rule.name) entries ∧ AllAllow rules entries := by
  constructor
  · rintro (⟨⟨⟩⟩ | ⟨_, ⟨⟩, accepted⟩)
    exact accepted
  · exact fun accepted => .inr ⟨entries, rfl, accepted⟩

theorem breaks_mapping_iff {cause : Misuse} :
    Breaks rules (.mapping entries) cause ↔ HasForeignKey entries cause ∨
      HasOnly (rules.map Rule.name) entries ∧ FirstStops rules entries cause := by
  constructor
  · rintro ⟨_, ⟨⟩, broken⟩
    exact broken
  · exact fun broken => ⟨entries, rfl, broken⟩

/-- Reading a section whose rules are read in turn: null is accepted, and of other nodes mappings
alone are looked into. -/
theorem governs_of_mapping {name : String} {read : Node → Except Failure β}
    (empty : ∃ b, read (.scalar .null) = .ok b)
    (others : ∀ n, n ≠ .scalar .null → (∀ entries, n ≠ .mapping entries) →
      ∃ fault, read n = .error (.settings fault))
    (mapping : ∀ entries, Ends (read (.mapping entries))
      (HasOnly (rules.map Rule.name) entries ∧ AllAllow rules entries)
      fun cause => HasForeignKey entries cause ∨
        HasOnly (rules.map Rule.name) entries ∧ FirstStops rules entries cause) :
    (ofSection name rules).Governs read := by
  intro n
  by_cases isNull : n = .scalar .null
  · obtain ⟨b, empty⟩ := empty
    rw [isNull, empty]
    exact ends_ok b (.inl rfl) fun cause ⟨_, same, _⟩ => nomatch same
  · by_cases isMapping : ∃ entries, n = .mapping entries
    · obtain ⟨entries, rfl⟩ := isMapping
      exact (mapping entries).congr accepts_mapping_iff fun _ => breaks_mapping_iff
    · obtain ⟨fault, refused⟩ := others n isNull fun entries same => isMapping ⟨entries, same⟩
      rw [refused]
      exact ends_fault fault
        (fun accepted => accepted.elim isNull fun ⟨entries, same, _⟩ => isMapping ⟨entries, same⟩)
        fun cause ⟨entries, same, _⟩ => isMapping ⟨entries, same⟩

theorem hasOnly_congr {known known' : List String} (same : ∀ key, key ∈ known ↔ key ∈ known') :
    HasOnly known entries ↔ HasOnly known' entries := by
  unfold HasOnly
  simp only [same]

/-- Reading a section by its entries. -/
theorem governs_sectionEntries {name title : String} {known : List String}
    {read : List (Node × Node) → Except Failure β}
    (same : ∀ key, key ∈ known ↔ key ∈ rules.map Rule.name) (empty : ∃ b, read [] = .ok b)
    (each : ∀ entries, Ends (read entries) (AllAllow rules entries) (FirstStops rules entries)) :
    (ofSection name rules).Governs fun n => sectionEntries title known n >>= read := by
  refine governs_of_mapping empty (fun n isNull isMapping => ?_) fun entries => ?_
  · refine ⟨.sectionNotMapping title, ?_⟩
    have refused : sectionEntries title known n =
        .error (.settings (.sectionNotMapping title)) := by
      unfold sectionEntries
      split
      · exact absurd rfl isNull
      · exact absurd rfl (isMapping _)
      · rfl
    rw [refused]
    rfl
  · have steps : sectionEntries title known (.mapping entries) >>= read =
        (liftM (unknownKeys known entries) : Except Failure (List String)) >>= fun unknown =>
          if unknown = [] then read entries
          else .error (.settings (.unknownKeys title unknown)) := by
      unfold sectionEntries
      dsimp only
      cases unknownKeys known entries with
      | error cause => rfl
      | ok names => cases names <;> rfl
    rw [steps, ← hasOnly_congr same]
    exact ends_keys (fun name names => ⟨_, if_neg (List.cons_ne_nil name names)⟩) (each entries)

end Settings

end Joinery
