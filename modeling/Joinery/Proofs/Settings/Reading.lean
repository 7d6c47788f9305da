import Joinery.Proofs.Settings.Levels
import Joinery.Proofs.Settings.Rules

/-!
# What becomes of a settings document

A document is accepted if it and its sections are empty or have none but known keys, with an
accepted node under each; the settings that are read then lay what it gives over the defaults, and
written out they are read back as they are. Other documents are refused in words, or break the
reading off: a key that is no text, or an integer in a refused setting that is too long to be
quoted.
-/
namespace Joinery

namespace Settings

variable {α β : Type} {entries : List (Node × Node)}

/-! ### The rules of settings -/

/-- One of some words, given as a text. -/
def IsLabel (label : α → String) (n : Node) : Prop := ∃ a, n = .text (label a)

/-- A number that is no truth value. -/
def IsNumber (n : Node) : Prop := ∃ x : Number, n = .scalar (.ofNumber x)

def IsInteger (n : Node) : Prop := ∃ i, n = .scalar (.int i)

/-- A text whose upper case is the word of a level. -/
def IsLevel (n : Node) : Prop :=
  ∃ word, n = .text word ∧ ∃ level : LogLevel, Text.upper word = level.label

/-- The settings of joints, in the order in which they are checked. -/
def jointRules : List Rule :=
  [setting "align" (IsLabel Alignment.label), setting "type" (IsLabel JointKind.label),
    setting "thickness_mm" IsNumber, setting "finger_count" IsInteger]

/-- The settings of logs; any node may stand for a file. -/
def logRules : List Rule := [setting "level" IsLevel, setting "file" fun _ => True]

/-- The sections of a document. -/
def sections : List Rule := [ofSection jointsName jointRules, ofSection loggingName logRules]

theorem mem_alignments (a : Alignment) : a ∈ Alignment.all := by cases a <;> decide

theorem mem_jointKinds (k : JointKind) : k ∈ JointKind.all := by cases k <;> decide

theorem mem_levels (level : LogLevel) : level ∈ LogLevel.all := by cases level <;> decide

theorem oneOf_of_not_isLabel {title : String} {all : List α} {label : α → String} {n : Node}
    (other : ¬ IsLabel label n) :
    oneOf title all label n = refuse n (.notOneOf title (all.map label)) := by
  unfold oneOf
  dsimp only
  split
  · next b found =>
    exfalso
    split at found
    · next word =>
      have same : label b = word := by simpa using List.find?_some found
      exact other ⟨b, congrArg Node.text same.symm⟩
    · cases found
  · rfl

theorem exists_oneOf {title : String} {all : List α} {label : α → String}
    (complete : ∀ a, a ∈ all) (a : α) : ∃ b, oneOf title all label (.text (label a)) = .ok b := by
  obtain ⟨b, found⟩ : ∃ b, (all.find? fun b => label b = label a) = some b :=
    Option.isSome_iff_exists.1 (List.find?_isSome.2 ⟨a, complete a, by simp⟩)
  refine ⟨b, ?_⟩
  unfold oneOf
  simp only [Node.text, found]

theorem governs_oneOf {name title : String} {all : List α} {label : α → String}
    (complete : ∀ a, a ∈ all) : (setting name (IsLabel label)).Governs (oneOf title all label) :=
  governs_setting (fun _ ⟨a, same⟩ => same ▸ exists_oneOf complete a) fun _ other =>
    ⟨_, oneOf_of_not_isLabel other⟩

theorem governs_numberOf {name title : String} :
    (setting name IsNumber).Governs (numberOf title) := by
  refine governs_setting (fun n ⟨x, same⟩ => ⟨x, ?_⟩) fun n other => ⟨.notNumber title, ?_⟩
  · subst same
    cases x <;> rfl
  · unfold numberOf
    split
    · next i => exact absurd ⟨.int i, rfl⟩ other
    · next x => exact absurd ⟨.float x, rfl⟩ other
    · rfl

theorem governs_integerOf {name title : String} :
    (setting name IsInteger).Governs (integerOf title) := by
  refine governs_setting (fun n ⟨i, same⟩ => ⟨i, ?_⟩) fun n other => ⟨.notInteger title, ?_⟩
  · subst same
    rfl
  · unfold integerOf
    split
    · next i => exact absurd ⟨i, rfl⟩ other
    · rfl

theorem isLevel_iff {n : Node} :
    IsLevel n ↔ ∃ level : LogLevel, Text.upper n.shown = level.label := by
  constructor
  · rintro ⟨word, rfl, named⟩
    exact named
  · rintro ⟨level, same⟩
    by_cases text : ∃ word, n = .text word
    · obtain ⟨word, rfl⟩ := text
      exact ⟨word, rfl, level, same⟩
    · -- what is shown of other nodes has a mark in it that no word of a level has, or is an odd word
      obtain mark | odd := Node.shown_of_ne_text fun word same => text ⟨word, same⟩
      · exact absurd same (LogLevel.upper_ne_label mark level)
      · exact absurd same (LogLevel.upper_oddWord_ne_label odd level)

theorem governs_readLevel {name : String} : (setting name IsLevel).Governs readLevel := by
  refine governs_setting (fun n level => ?_) fun n other => ?_
  · obtain ⟨word, rfl, level, same⟩ := level
    have written : readLevel (.text word) =
        oneOf "logging.level" LogLevel.all LogLevel.label (.text (Text.upper word)) := rfl
    rw [written, same]
    exact exists_oneOf mem_levels level
  · unfold readLevel
    split
    · next writable =>
      have unnamed : ¬ IsLabel LogLevel.label (.text (Text.upper n.shown)) := by
        rintro ⟨level, same⟩
        refine other (isLevel_iff.2 ⟨level, ?_⟩)
        injection same with same
        injection same
      refine ⟨fun _ => .notOneOf "logging.level" (LogLevel.all.map LogLevel.label)
        (Node.text (Text.upper n.shown)).quoted, ?_⟩
      rw [oneOf_of_not_isLabel unnamed, refuse, refuse, writable]
      rfl
    · next long =>
      refine ⟨fun _ => .notMapping, ?_⟩
      rw [refuse, if_neg long]

theorem governs_readJoints : (ofSection jointsName jointRules).Governs readJoints := by
  refine governs_sectionEntries (fun key => ?_) ⟨{}, rfl⟩ fun entries => ?_
  · simp only [jointRules, setting, List.map_cons, List.map_nil, List.mem_cons, List.not_mem_nil]
    tauto
  · exact Ends.cons (ends_readOr (governs_oneOf mem_alignments) _) fun align =>
      Ends.cons (ends_readOr (governs_oneOf mem_jointKinds) _) fun kind =>
        Ends.cons (ends_readOr governs_numberOf _) fun thickness =>
          Ends.cons (ends_readOr governs_integerOf _) fun count => ends_nil _

/-- Reading the section of logs. -/
theorem governs_logs (joints : JointDefaults) :
    (ofSection loggingName logRules).Governs fun n =>
      sectionEntries loggingName ["level", "file"] n >>= fun logging =>
        readOr logging "level" .info readLevel >>= fun level =>
          (.ok ⟨joints, level, (entry logging "file").getD default⟩ : Except Failure Settings) := by
  refine governs_sectionEntries (fun key => Iff.rfl) ⟨_, rfl⟩ fun entries => ?_
  refine Ends.cons (ends_readOr governs_readLevel _) fun level => Ends.singleton ?_
  exact ends_ok _ (fun _ _ => trivial) fun cause ⟨v, _, breaks⟩ => breaks.1 trivial

theorem governs_ofNode (name : String) : (ofSection name sections).Governs ofNode := by
  refine governs_of_mapping ⟨{}, rfl⟩ (fun n isNull isMapping => ?_) fun entries => ?_
  · refine ⟨.notMapping, ?_⟩
    unfold ofNode
    split
    · exact absurd rfl isNull
    · exact absurd rfl (isMapping _)
    · rfl
  · exact ends_keys (fun name names => ⟨_, rfl⟩) <|
      Ends.cons (ends_getD governs_readJoints) fun joints =>
        Ends.singleton (ends_getD (governs_logs joints))

/-! ### What a document gives -/

theorem entry_text_cons (key name : String) (n : Node) (rest : List (Node × Node)) :
    entry ((.text key, n) :: rest) name = if key = name then some n else entry rest name := by
  have same : (Node.text key).sameKey (.text name) = (key == name) := by
    simp [Node.sameKey, Node.text, Value.same, Value.equalsBy]
  unfold entry
  rw [List.find?_cons, same]
  by_cases h : key = name
  · simp [h]
  · rw [beq_false_of_ne h, if_neg h]

theorem entry_eq_none {known : List String} {name : String} (only : HasOnly known entries)
    (unknown : name ∉ known) : entry entries name = none := by
  unfold entry
  rw [Option.map_eq_none_iff, List.find?_eq_none]
  rintro e member same
  obtain ⟨key, inside, text⟩ := only e member
  rw [text] at same
  simp only [Node.sameKey, Node.text, Value.same, Value.equalsBy, beq_iff_eq] at same
  exact unknown (same ▸ inside)

/-- The entries of a section, of which null has none. -/
def entriesOf : Node → List (Node × Node)
  | .mapping entries => entries
  | _ => []

theorem sectionEntries_of_hasOnly {title : String} {known : List String}
    (only : HasOnly known entries) :
    sectionEntries title known (.mapping entries) = .ok entries := by
  unfold sectionEntries
  dsimp only
  rw [unknownKeys_eq_nil_iff.2 only]
  rfl

theorem eq_entriesOf {title : String} {known : List String} {n : Node}
    (success : sectionEntries title known n = .ok entries) :
    entries = entriesOf n ∧ HasOnly known entries := by
  unfold sectionEntries at success
  split at success
  · cases success
    exact ⟨rfl, List.forall_mem_nil _⟩
  · next found =>
    obtain ⟨unknown, found, success⟩ := bind_eq_ok_iff.1 success
    split at success
    · cases success
      exact ⟨rfl, unknownKeys_eq_nil_iff.1 (liftM_eq_ok_iff.1 found)⟩
    · cases success
  · cases success

/-- What a document holds under a key of a section. -/
def given (n : Node) (part name : String) : Option Node :=
  entry (entriesOf ((entry (entriesOf n) part).getD default)) name

/-- A node under a key as it is written back: a level in upper case. -/
def written (name : String) (n : Node) : Node :=
  if name = "level" then .text (Text.upper n.shown) else n

/-- Written out, settings hold what a document gives, and defaults where it gives nothing. -/
def Overlays (n : Node) (s : Settings) : Prop :=
  ∀ part name, given s.toNode part name =
    ((given n part name).map (written name)).or (given (toNode {}) part name)

theorem refuse_ne_ok (n : Node) (fault : String → Fault) (b : β) : refuse n fault ≠ .ok b := by
  unfold refuse
  split <;> nofun

theorem eq_label_of_oneOf {title : String} {all : List α} {label : α → String} {n : Node} {a : α}
    (success : oneOf title all label n = .ok a) : n = .text (label a) := by
  unfold oneOf at success
  dsimp only at success
  split at success
  · next found =>
    cases success
    split at found
    · next word =>
      have same : label a = word := by simpa using List.find?_some found
      exact congrArg Node.text same.symm
    · cases found
  · exact absurd success (refuse_ne_ok n _ a)

theorem eq_number_of_numberOf {title : String} {n : Node} {x : Number}
    (success : numberOf title n = .ok x) : n = .scalar (.ofNumber x) := by
  unfold numberOf at success
  split at success
  · cases success
    rfl
  · cases success
    rfl
  · exact absurd success (refuse_ne_ok n _ x)

theorem eq_int_of_integerOf {title : String} {n : Node} {i : Int}
    (success : integerOf title n = .ok i) : n = .scalar (.int i) := by
  unfold integerOf at success
  split at success
  · cases success
    rfl
  · exact absurd success (refuse_ne_ok n _ i)

theorem eq_label_of_readLevel {n : Node} {level : LogLevel} (success : readLevel n = .ok level) :
    written "level" n = .text level.label := by
  unfold readLevel at success
  split at success
  · exact eq_label_of_oneOf success
  · cases success

/-- A setting that was read is written as it was given, or it is the default. -/
theorem overlay_readOr {name : String} {read : Node → Except Failure β} (write : β → Node)
    {d b : β} (back : ∀ v b, read v = .ok b → written name v = write b)
    (success : readOr entries name d read = .ok b) :
    some (write b) = ((entry entries name).map (written name)).or (some (write d)) := by
  unfold readOr at success
  split at success
  · next v found =>
    rw [found, Option.map_some, back v b success, Option.some_or]
  · next absent =>
    cases success
    rw [absent, Option.map_none, Option.none_or]

/-- The section of joints, written out. -/
def jointEntries (d : JointDefaults) : List (Node × Node) :=
  [(.text "thickness_mm", .scalar (.ofNumber d.thickness)),
    (.text "finger_count", .scalar (.int d.fingerCount)), (.text "align", .text d.align.label),
    (.text "type", .text d.kind.label)]

/-- The section of logs, written out. -/
def logEntries (s : Settings) : List (Node × Node) :=
  [(.text "level", .text s.level.label), (.text "file", s.file)]

theorem given_toNode (s : Settings) (part name : String) :
    given s.toNode part name =
      if jointsName = part then entry (jointEntries s.joints) name
      else if loggingName = part then entry s.logEntries name
      else none := by
  have top : entry (entriesOf s.toNode) part =
      if jointsName = part then some (.mapping (jointEntries s.joints))
      else if loggingName = part then some (.mapping s.logEntries)
      else none := by
    rw [toNode, entriesOf, entry_text_cons, entry_text_cons]
    rfl
  unfold given
  rw [top]
  split_ifs <;> rfl

/-- The steps in which a mapping is read. -/
theorem ofNode_mapping_eq_ok_iff {s : Settings} :
    ofNode (.mapping entries) = .ok s ↔ HasOnly [jointsName, loggingName] entries ∧
      readJoints ((entry entries jointsName).getD default) = .ok s.joints ∧
      ∃ logs, sectionEntries loggingName ["level", "file"]
          ((entry entries loggingName).getD default) = .ok logs ∧
        readOr logs "level" .info readLevel = .ok s.level ∧
        s.file = (entry logs "file").getD default := by
  rw [← unknownKeys_eq_nil_iff]
  constructor
  · intro success
    obtain ⟨unknown, found, success⟩ := bind_eq_ok_iff.1 success
    split at success
    · obtain ⟨joints, hjoints, success⟩ := bind_eq_ok_iff.1 success
      obtain ⟨logs, hlogs, success⟩ := bind_eq_ok_iff.1 success
      obtain ⟨level, hlevel, success⟩ := bind_eq_ok_iff.1 success
      cases success
      exact ⟨liftM_eq_ok_iff.1 found, hjoints, logs, hlogs, hlevel, rfl⟩
    · cases success
  · rintro ⟨found, hjoints, logs, hlogs, hlevel, hfile⟩
    refine bind_eq_ok_iff.2 ⟨[], liftM_eq_ok_iff.2 found, bind_eq_ok_iff.2 ⟨_, hjoints, ?_⟩⟩
    refine bind_eq_ok_iff.2 ⟨logs, hlogs, bind_eq_ok_iff.2 ⟨_, hlevel, ?_⟩⟩
    rw [← hfile]
    rfl

theorem readJoints_eq_ok_iff {n : Node} {d : JointDefaults} :
    readJoints n = .ok d ↔ ∃ entries,
      sectionEntries jointsName ["thickness_mm", "finger_count", "align", "type"] n =
        .ok entries ∧
      readOr entries "align" .left (oneOf "joinery.align" Alignment.all Alignment.label) =
        .ok d.align ∧
      readOr entries "type" .finger (oneOf "joinery.type" JointKind.all JointKind.label) =
        .ok d.kind ∧
      readOr entries "thickness_mm" (.float 3) (numberOf "joinery.thickness_mm") =
        .ok d.thickness ∧
      readOr entries "finger_count" 6 (integerOf "joinery.finger_count") = .ok d.fingerCount := by
  constructor
  · intro success
    obtain ⟨entries, hentries, success⟩ := bind_eq_ok_iff.1 success
    obtain ⟨align, halign, success⟩ := bind_eq_ok_iff.1 success
    obtain ⟨kind, hkind, success⟩ := bind_eq_ok_iff.1 success
    obtain ⟨thickness, hthickness, success⟩ := bind_eq_ok_iff.1 success
    obtain ⟨count, hcount, success⟩ := bind_eq_ok_iff.1 success
    cases success
    exact ⟨entries, hentries, halign, hkind, hthickness, hcount⟩
  · rintro ⟨entries, hentries, halign, hkind, hthickness, hcount⟩
    refine bind_eq_ok_iff.2 ⟨entries, hentries, bind_eq_ok_iff.2 ⟨_, halign, ?_⟩⟩
    refine bind_eq_ok_iff.2 ⟨_, hkind, bind_eq_ok_iff.2 ⟨_, hthickness, ?_⟩⟩
    exact bind_eq_ok_iff.2 ⟨_, hcount, rfl⟩

theorem oneOf_label {title : String} {all : List α} {label : α → String}
    (complete : ∀ a, a ∈ all) (injective : Function.Injective label) (a : α) :
    oneOf title all label (.text (label a)) = .ok a := by
  obtain ⟨b, success⟩ := exists_oneOf complete a
  have same := eq_label_of_oneOf success
  injection same with same
  injection same with same
  rw [success, injective same]

theorem readOr_eq_ok {name : String} {read : Node → Except Failure β} {d b : β} {v : Node}
    (found : entry entries name = some v) (success : read v = .ok b) :
    readOr entries name d read = .ok b := by
  unfold readOr
  rw [found]
  exact success

theorem toNode_eq (s : Settings) :
    s.toNode = .mapping [(.text jointsName, .mapping (jointEntries s.joints)),
      (.text loggingName, .mapping s.logEntries)] :=
  rfl

theorem readLevel_label (level : LogLevel) : readLevel (.text level.label) = .ok level := by
  have same : Text.upper level.label = level.label := by cases level <;> decide +kernel
  have injective : Function.Injective LogLevel.label := by
    intro a b
    cases a <;> cases b <;> decide
  have written : readLevel (.text level.label) =
      oneOf "logging.level" LogLevel.all LogLevel.label (.text (Text.upper level.label)) := rfl
  rw [written, same, oneOf_label mem_levels injective]

/-- Settings that are written out are read back as they are. -/
theorem ofNode_toNode (s : Settings) : ofNode s.toNode = .ok s := by
  have joints : readJoints (.mapping (jointEntries s.joints)) = .ok s.joints := by
    have alignments : Function.Injective Alignment.label := by
      intro a b
      cases a <;> cases b <;> decide
    have kinds : Function.Injective JointKind.label := by
      intro a b
      cases a <;> cases b <;> decide
    refine readJoints_eq_ok_iff.2 ⟨jointEntries s.joints,
      sectionEntries_of_hasOnly (by simp [HasOnly, jointEntries]), ?_, ?_, ?_, ?_⟩
    · refine readOr_eq_ok ?_ (oneOf_label mem_alignments alignments s.joints.align)
      simp [jointEntries, entry_text_cons]
    · refine readOr_eq_ok ?_ (oneOf_label mem_jointKinds kinds s.joints.kind)
      simp [jointEntries, entry_text_cons]
    · refine readOr_eq_ok (v := .scalar (.ofNumber s.joints.thickness)) ?_ ?_
      · simp [jointEntries, entry_text_cons]
      · cases s.joints.thickness <;> rfl
    · refine readOr_eq_ok (v := .scalar (.int s.joints.fingerCount)) ?_ rfl
      simp [jointEntries, entry_text_cons]
  rw [toNode_eq, ofNode_mapping_eq_ok_iff]
  refine ⟨by simp [HasOnly], ?_, s.logEntries, ?_, ?_, ?_⟩
  · rw [entry_text_cons, if_pos rfl, Option.getD_some, joints]
  · rw [entry_text_cons, if_neg (by decide), entry_text_cons, if_pos rfl, Option.getD_some]
    exact sectionEntries_of_hasOnly (by simp [HasOnly, logEntries])
  · refine readOr_eq_ok ?_ (readLevel_label s.level)
    simp [logEntries, entry_text_cons]
  · simp [logEntries, entry_text_cons]

/-- What is written of a section lies over its defaults, as far as its known keys show. -/
theorem overlay_of_known {known : List String} {given full defaults : List (Node × Node)}
    (givenOnly : HasOnly known given) (fullOnly : HasOnly known full)
    (defaultsOnly : HasOnly known defaults)
    (each : ∀ name ∈ known, entry full name =
      ((entry given name).map (written name)).or (entry defaults name)) (name : String) :
    entry full name = ((entry given name).map (written name)).or (entry defaults name) := by
  by_cases inside : name ∈ known
  · exact each name inside
  · rw [entry_eq_none fullOnly inside, entry_eq_none givenOnly inside,
      entry_eq_none defaultsOnly inside]
    rfl

theorem hasOnly_jointEntries (d : JointDefaults) :
    HasOnly ["thickness_mm", "finger_count", "align", "type"] (jointEntries d) := by
  simp [HasOnly, jointEntries]

theorem hasOnly_logEntries (s : Settings) : HasOnly ["level", "file"] s.logEntries := by
  simp [HasOnly, logEntries]

theorem overlay_of_readJoints {n : Node} {d : JointDefaults} (success : readJoints n = .ok d)
    (name : String) :
    entry (jointEntries d) name =
      ((entry (entriesOf n) name).map (written name)).or (entry (jointEntries {}) name) := by
  obtain ⟨fields, hfields, halign, hkind, hthickness, hcount⟩ := readJoints_eq_ok_iff.1 success
  obtain ⟨rfl, only⟩ := eq_entriesOf hfields
  refine overlay_of_known only (hasOnly_jointEntries d) (hasOnly_jointEntries {}) ?_ name
  have thickness (d : JointDefaults) :
      entry (jointEntries d) "thickness_mm" = some (.scalar (.ofNumber d.thickness)) := by
    simp [jointEntries, entry_text_cons]
  have count (d : JointDefaults) :
      entry (jointEntries d) "finger_count" = some (.scalar (.int d.fingerCount)) := by
    simp [jointEntries, entry_text_cons]
  have align (d : JointDefaults) :
      entry (jointEntries d) "align" = some (.text d.align.label) := by
    simp [jointEntries, entry_text_cons]
  have kind (d : JointDefaults) : entry (jointEntries d) "type" = some (.text d.kind.label) := by
    simp [jointEntries, entry_text_cons]
  simp only [List.forall_mem_cons, thickness, count, align, kind]
  exact ⟨overlay_readOr (fun x => .scalar (.ofNumber x))
      (fun v x read => eq_number_of_numberOf read) hthickness,
    overlay_readOr (fun i => .scalar (.int i)) (fun v i read => eq_int_of_integerOf read)
      hcount,
    overlay_readOr (fun a => .text (Alignment.label a))
      (fun v a read => eq_label_of_oneOf read) halign,
    overlay_readOr (fun k => .text (JointKind.label k))
      (fun v k read => eq_label_of_oneOf read) hkind,
    List.forall_mem_nil _⟩

theorem overlay_of_logs {n : Node} {s : Settings} {logs : List (Node × Node)}
    (hlogs : sectionEntries loggingName ["level", "file"] n = .ok logs)
    (hlevel : readOr logs "level" .info readLevel = .ok s.level)
    (hfile : s.file = (entry logs "file").getD default) (name : String) :
    entry s.logEntries name =
      ((entry (entriesOf n) name).map (written name)).or (entry (logEntries {}) name) := by
  obtain ⟨rfl, only⟩ := eq_entriesOf hlogs
  refine overlay_of_known only (hasOnly_logEntries s) (hasOnly_logEntries {}) ?_ name
  have level (s : Settings) : entry s.logEntries "level" = some (.text s.level.label) := by
    simp [logEntries, entry_text_cons]
  have file (s : Settings) : entry s.logEntries "file" = some s.file := by
    simp [logEntries, entry_text_cons]
  simp only [List.forall_mem_cons, level, file]
  refine ⟨overlay_readOr (fun l => .text (LogLevel.label l))
    (fun v l read => eq_label_of_readLevel read) hlevel, ?_, List.forall_mem_nil _⟩
  rw [hfile]
  cases entry (entriesOf n) "file" <;> rfl

/-- Only null and mappings are read. -/
theorem eq_null_or_mapping {n : Node} {s : Settings} (success : ofNode n = .ok s) :
    n = .scalar .null ∧ s = {} ∨ ∃ entries, n = .mapping entries := by
  unfold ofNode at success
  split at success
  · cases success
    exact .inl ⟨rfl, rfl⟩
  · exact .inr ⟨_, rfl⟩
  · cases success

/-- What is read of a document are the settings that lay what it gives over the defaults. -/
theorem overlays_of_ofNode {n : Node} {s : Settings} (success : ofNode n = .ok s) :
    Overlays n s := by
  obtain ⟨rfl, rfl⟩ | ⟨entries, rfl⟩ := eq_null_or_mapping success
  · exact fun _ _ => rfl
  · obtain ⟨only, hjoints, logs, hlogs, hlevel, hfile⟩ := ofNode_mapping_eq_ok_iff.1 success
    intro part name
    rw [given_toNode, given_toNode]
    by_cases isJoints : jointsName = part
    · rw [if_pos isJoints, if_pos isJoints, ← isJoints]
      exact overlay_of_readJoints hjoints name
    · rw [if_neg isJoints, if_neg isJoints]
      by_cases isLogging : loggingName = part
      · rw [if_pos isLogging, if_pos isLogging, ← isLogging]
        exact overlay_of_logs hlogs hlevel hfile name
      · have unknown : part ∉ [jointsName, loggingName] := by
          simp [Ne.symm isJoints, Ne.symm isLogging]
        have absent : entry (entriesOf (.mapping entries)) part = none :=
          entry_eq_none only unknown
        rw [if_neg isLogging, if_neg isLogging, given, absent]
        rfl

/-! ### What becomes of a document -/

/-- A document that is accepted gives settings, which lay it over the defaults and are read back as
they are when they are written out; one that breaks the reading off gives a misuse; and every other
one is refused in words. -/
theorem ofNode_answers_as_ruled (n : Node) :
    ((∃ s, ofNode n = .ok s ∧ Overlays n s ∧ ofNode s.toNode = .ok s) ↔ Accepts sections n) ∧
      (∀ cause, ofNode n = .error (.misuse cause) ↔ Breaks sections n cause) ∧
      ((∃ fault, ofNode n = .error (.settings fault)) ↔
        ¬ Accepts sections n ∧ ∀ cause, ¬ Breaks sections n cause) := by
  have ends : Ends (ofNode n) (Accepts sections n) (Breaks sections n) :=
    governs_ofNode "" n
  refine ⟨?_, ends.misuse_iff, ?_⟩
  · rw [← ends.ok_iff]
    constructor
    · rintro ⟨s, success, -⟩
      exact ⟨s, success⟩
    · rintro ⟨s, success⟩
      exact ⟨s, success, overlays_of_ofNode success, ofNode_toNode s⟩
  · rw [← ends.ok_iff]
    constructor
    · rintro ⟨fault, refused⟩
      refine ⟨?_, fun cause breaks => ?_⟩
      · rintro ⟨s, success⟩
        cases refused.symm.trans success
      · cases refused.symm.trans ((ends.misuse_iff cause).2 breaks)
    · rintro ⟨fails, whole⟩
      cases outcome : ofNode n with
      | ok s => exact absurd ⟨s, outcome⟩ fails
      | error failure =>
        obtain ⟨cause, rfl⟩ | ⟨fault, rfl⟩ := ends.worded failure outcome
        · exact absurd ((ends.misuse_iff cause).1 outcome) (whole cause)
        · exact ⟨fault, rfl⟩

/-- A document with a section under an integer gives no settings and is not refused in words. -/
theorem not_forall_ofNode_answers : ¬ ∀ n : Node, (∃ s, ofNode n = .ok s) ∨
    ∃ fault, ofNode n = .error (.settings fault) := by
  intro answers
  have broken : ofNode (.mapping [(.scalar (.int 1), .scalar (.int 2))]) =
      .error (.misuse (.notText .int)) := rfl
  obtain ⟨s, success⟩ | ⟨fault, refused⟩ := answers _
  · cases broken.symm.trans success
  · cases broken.symm.trans refused

end Settings

end Joinery
