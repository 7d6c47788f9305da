import Joinery.Proofs.CommandLine.Shapes
import Joinery.Proofs.Design.Numbering

/-!
# Loading designs

A design is loaded, or the failure is reported, unless the first part of the document that is not
accepted is one of those for which a failure is not reported. Adding shapes and storing joints is
always reported.
-/
namespace Joinery

open CommandLine

/-! ### Outcomes and edits that are reported -/

namespace CommandLine

theorem escapes_map_iff {α β : Type} {f : α → β} {x : Except Failure α} :
    Escapes (x.map f) ↔ Escapes x := by
  cases x with
  | error failure =>
    have stopped : (Except.error failure).map f = .error failure := rfl
    rw [stopped, Escapes, Escapes, failsWith_error_iff, failsWith_error_iff]
  | ok a => exact iff_of_false (not_failsWith_ok (f a)) (not_failsWith_ok a)

end CommandLine

namespace Outcome

variable {α β : Type}

theorem escapes_bind_iff {x : Outcome α} {f : α → Outcome β} :
    Escapes (x >>= f).result ↔
      Escapes x.result ∨ ∃ a, x.result = .ok a ∧ Escapes (f a).result := by
  have unfolded : x >>= f = Outcome.bind x f := rfl
  rw [unfolded]
  refine Iff.trans ?_ (failsWith_bind_iff (x := x.result) (f := fun a => (f a).result))
  unfold Outcome.bind
  cases x.result <;> exact Iff.rfl

theorem escapes_liftM_misuse_iff {x : Except Misuse α} :
    Escapes (liftM x : Outcome α).result ↔ Slips x := by
  rw [← CommandLine.escapes_liftM_iff]
  cases x <;> exact Iff.rfl

end Outcome

namespace Edit

variable {α β : Type} {d : Design}

/-- An edit of a design ends with a failure that loading does not report. -/
def EscapesAt (e : Edit α) (d : Design) : Prop := Escapes (e d).1.result

theorem escapesAt_bind_iff {first : Edit α} {next : α → Edit β} :
    (first >>= next).EscapesAt d ↔
      first.EscapesAt d ∨ ∃ a d', first.Gives d a d' ∧ (next a).EscapesAt d' := by
  unfold EscapesAt
  cases result : (first d).1.result with
  | error failure =>
    rw [bind_apply_of_error result]
    change FailsWith _ (.error failure) ↔ FailsWith _ (.error failure) ∨ _
    rw [failsWith_error_iff, failsWith_error_iff]
    refine (or_iff_left ?_).symm
    rintro ⟨a, d', ⟨success, -⟩, -⟩
    cases result.symm.trans success
  | ok a =>
    rw [bind_apply_of_ok result]
    refine ⟨fun h => .inr ⟨a, _, ⟨result, rfl⟩, h⟩, ?_⟩
    rintro (h | ⟨a', d', ⟨success, rfl⟩, h⟩)
    · exact absurd h (not_failsWith_ok a)
    · cases result.symm.trans success
      exact h

theorem not_escapesAt_bind {first : Edit α} {next : α → Edit β} (start : ¬ first.EscapesAt d)
    (later : ∀ a d', first.Gives d a d' → ¬ (next a).EscapesAt d') :
    ¬ (first >>= next).EscapesAt d := by
  rw [escapesAt_bind_iff]
  rintro (h | ⟨a, d', given, h⟩)
  · exact start h
  · exact later a d' given h

theorem escapesAt_design_bind_iff {next : Design → Edit β} :
    (design >>= next).EscapesAt d ↔ (next d).EscapesAt d := by
  rw [escapesAt_bind_iff]
  refine (or_iff_right (not_failsWith_ok d)).trans ⟨?_, fun h => ⟨d, d, ⟨rfl, rfl⟩, h⟩⟩
  rintro ⟨found, d', given, h⟩
  obtain ⟨rfl, rfl⟩ := gives_design_iff.1 given
  exact h

theorem escapesAt_liftM_iff {x : Except Failure α} :
    (liftM x : Edit α).EscapesAt d ↔ Escapes x := Iff.rfl

theorem escapesAt_liftM_misuse_iff {x : Except Misuse α} :
    (liftM x : Edit α).EscapesAt d ↔ Slips x := by
  rw [← CommandLine.escapes_liftM_iff]
  cases x <;> exact Iff.rfl

end Edit

namespace ShapeRegistry

theorem slips_highest_iff (word : String) (n : Nat) (ids : List Value) :
    Slips (highest word n ids) ↔ False := by
  have text (id : Value) : Slips id.asText ↔ False := by
    cases id with
    | text s => exact slips_ok_iff s
    | null | bool | int | float | list | object =>
      exact failsWith_error_iff.trans (iff_of_false nofun fun h => h)
  have number (id : String) : Slips (numberOf? word id) ↔ False := by
    refine iff_of_false ?_ fun h => h
    unfold numberOf?
    generalize (after? (word.toList ++ ['-']) id.toList).getD [] = digits
    dsimp only
    generalize (if digits.getLast? = some '\n' then digits.dropLast else digits) = digits
    split
    · exact not_failsWith_ok _
    · split
      · exact not_failsWith_ok _
      · split
        · rintro ⟨_, ⟨⟩, ⟨⟩⟩
        · exact not_failsWith_ok _
  induction ids generalizing n with
  | nil => exact slips_ok_iff n
  | cons id rest ih =>
    refine (slips_bind_iff fun m => ih m).trans ?_
    rw [and_false, or_false, Slips, failsWith_bind_iff]
    refine iff_of_false ?_ fun h => h
    rintro (h | ⟨s, -, h⟩)
    · exact (text id).1 h
    · exact (number s).1 (((slips_bind_iff fun k => slips_ok_iff _).1 h).resolve_right (·.2))

theorem slips_idOr_iff (r : ShapeRegistry) {s : Shape} (plain : s.extras = Table.empty)
    (ids : List Value) : Slips (r.idOr s.type s.id (.list ids)).1 ↔ False := by
  have typed : s.type = .text s.figure.kind.label := by
    unfold Shape.type
    rw [plain]
    rfl
  refine iff_of_false ?_ fun h => h
  unfold idOr
  split
  · exact not_failsWith_ok _
  · rw [typed, newId_eq]
    have counting := slips_highest_iff s.figure.kind.label
      ((r.counters.find? s.figure.kind.label).getD 0) ids
    unfold counted
    split
    · next cause failed =>
      rw [failed, slips_error_iff] at counting
      exact fun h => counting.1 ((slips_error_iff cause).1 h)
    · unfold idFor
      dsimp only
      split
      · rintro ⟨_, ⟨⟩, ⟨⟩⟩
      · exact not_failsWith_ok _

end ShapeRegistry

namespace JointStore

theorem exists_ofValue_of_keyOf? {v key : Value} (hkey : keyOf? v = some key) :
    ∃ j, Joint.ofValue v = .ok j := by
  cases v with
  | object fields => exact ⟨_, rfl⟩
  | null | bool | int | float | text | list => cases hkey

theorem slips_loadFrom_iff (s : JointStore) (items : List Value) :
    Slips (s.loadFrom items).result ↔ False := by
  induction items generalizing s with
  | nil => exact slips_ok_iff ()
  | cons v rest ih =>
    unfold loadFrom
    split
    · exact ih s
    · next key hkey =>
      have stored : Slips (Joint.ofValue v >>= s.put key) ↔ False := by
        obtain ⟨j, made⟩ := exists_ofValue_of_keyOf? hkey
        rw [made, ok_bind]
        refine (slips_bind_iff fun c => slips_ok_iff _).trans ?_
        rw [and_false, or_false, Catalogue.slips_insert_iff]
      split
      · next s' _ => exact ih s'
      · next cause failed =>
        rw [failed, slips_error_iff] at stored
        rwa [slips_error_iff]

theorem slips_load_iff (s : JointStore) (entries : Value) :
    Slips (s.load entries).result ↔ False := by
  unfold load
  split
  · next items _ => exact slips_loadFrom_iff s.clear items
  · next cause failed =>
    have items := Value.slips_itemsOrNone_iff entries
    rw [failed, slips_error_iff] at items
    rwa [slips_error_iff]

end JointStore

namespace Design

open Edit

variable {d d' : Design}

theorem not_escapesAt_addShape {s : Shape} (plain : s.extras = Table.empty) :
    ¬ (addShape s).EscapesAt d := by
  unfold addShape
  rw [escapesAt_design_bind_iff]
  have named := ShapeRegistry.slips_idOr_iff d.registry plain d.shapes.keys
  cases asked : d.registry.idOr s.type s.id d.ids with
  | mk given registry =>
    have given_iff : Slips given ↔ False := by
      rw [← named]
      exact iff_of_eq (congrArg Slips (congrArg Prod.fst asked).symm)
    refine not_escapesAt_bind (not_failsWith_ok _) fun _ d₁ _ => ?_
    refine not_escapesAt_bind (fun h => given_iff.1 (escapesAt_liftM_misuse_iff.1 h))
      fun id d₂ _ => ?_
    refine not_escapesAt_bind (fun h => (Catalogue.slips_contains_iff d.shapes id).1
      (escapesAt_liftM_misuse_iff.1 h)) fun present d₃ _ => ?_
    cases present with
    | true => rintro ⟨_, ⟨⟩, ⟨⟩⟩
    | false =>
      refine not_escapesAt_bind (fun h => (Catalogue.slips_insert_iff d.shapes id { s with id := id }).1
        (escapesAt_liftM_misuse_iff.1 h)) fun shapes d₄ _ => ?_
      exact not_escapesAt_bind (not_failsWith_ok _) fun _ d₅ _ => not_failsWith_ok _

theorem not_escapesAt_loadJoints (entries : Value) : ¬ (loadJoints entries).EscapesAt d := by
  unfold loadJoints
  rw [escapesAt_design_bind_iff]
  refine not_escapesAt_bind (not_failsWith_ok _) fun _ d₁ _ => ?_
  refine not_escapesAt_bind (not_failsWith_ok _) fun _ d₂ _ h => ?_
  exact (JointStore.slips_load_iff _ _).1 (escapesAt_liftM_misuse_iff.1 h)

theorem isBuiltin_of_addShape {s s' : Shape} (builtin : d.registry.IsBuiltin)
    (given : (addShape s).Gives d s' d') : d'.registry.IsBuiltin := by
  obtain ⟨id, registry, shapes, numbered, -, -, -, rfl⟩ := gives_addShape_iff.1 given
  have kept := builtin.idOr s.type s.id d.ids
  rwa [numbered] at kept

/-- Adding the next shape of a document is not reported just when the shape is not. -/
theorem escapesAt_addNext_iff (builtin : d.registry.IsBuiltin) (v : Value) :
    (do
      let _ ← addShape (← (← Edit.design).registry.ofValue v)
      pure (ForInStep.yield PUnit.unit) : Edit (ForInStep PUnit)).EscapesAt d ↔
      Shape.Breaks v := by
  rw [escapesAt_design_bind_iff, escapesAt_bind_iff, escapesAt_liftM_iff,
    ofValue_of_isBuiltin builtin, Shape.escapes_ofValue_iff]
  refine or_iff_left ?_
  rintro ⟨s, d', given, h⟩
  have plain := plain_of_ofValue (gives_liftM_iff.1 given).1
  exact absurd h
    (not_escapesAt_bind (not_escapesAt_addShape plain) fun _ _ _ => not_failsWith_ok _)

/-- Adding shapes is not reported just when a shape is not that is met behind others which were
added. -/
theorem escapesAt_forIn_iff {items : List Value} (builtin : d.registry.IsBuiltin) :
    (forIn items PUnit.unit fun v _ => do
      let _ ← addShape (← (← Edit.design).registry.ofValue v)
      pure (ForInStep.yield PUnit.unit) : Edit PUnit).EscapesAt d ↔ ∃ before item after d',
      items = before ++ item :: after ∧ (addShapes before).Gives d () d' ∧ Shape.Breaks item := by
  induction items generalizing d with
  | nil =>
    refine iff_of_false (not_failsWith_ok _) ?_
    rintro ⟨before, item, after, d', split, -⟩
    simp at split
  | cons v rest ih =>
    rw [List.forIn_cons, escapesAt_bind_iff, escapesAt_addNext_iff builtin]
    constructor
    · rintro (breaks | ⟨step, d₁, given, h⟩)
      · exact ⟨[], v, rest, d, rfl, gives_pure_iff.2 ⟨rfl, rfl⟩, breaks⟩
      · obtain ⟨rfl, s, s', made, added⟩ := gives_addNext_iff.1 given
        obtain ⟨before, item, after, d', rfl, behind, breaks⟩ :=
          (ih (isBuiltin_of_addShape builtin added)).1 h
        exact ⟨v :: before, item, after, d', rfl,
          gives_addShapes_cons_iff.2 ⟨s, s', _, made, added, behind⟩, breaks⟩
    · rintro ⟨before, item, after, d', split, given, breaks⟩
      cases before with
      | nil =>
        cases split
        exact .inl breaks
      | cons head before =>
        cases split
        obtain ⟨s, s', d₁, made, added, behind⟩ := gives_addShapes_cons_iff.1 given
        refine .inr ⟨.yield PUnit.unit, d₁, gives_addNext_iff.2 ⟨rfl, s, s', made, added⟩, ?_⟩
        exact (ih (isBuiltin_of_addShape builtin added)).2
          ⟨before, item, after, d', rfl, behind, breaks⟩

theorem escapesAt_fill_iff {items : List Value} {joints : Value} (builtin : d.registry.IsBuiltin) :
    (fill items joints).EscapesAt d ↔ ∃ before item after d',
      items = before ++ item :: after ∧ (addShapes before).Gives d () d' ∧ Shape.Breaks item := by
  unfold fill
  rw [escapesAt_bind_iff, escapesAt_forIn_iff builtin]
  refine or_iff_left ?_
  rintro ⟨_, d₁, -, h⟩
  exact absurd h
    (not_escapesAt_bind (not_escapesAt_loadJoints joints) fun _ _ _ => not_failsWith_ok _)

/-! ### Documents -/

/-- The first part of a document that is not accepted is a parameter or a shape for which the
failure is not reported. Parameters are read before shapes. -/
def Breaks (settings : Settings) (v : Value) : Prop :=
  ∃ fields items listed, v = .object fields ∧
    (fields.lookup "shapes").getD (.list []) = .list items ∧
    ((fields.lookup "parameters").getD .null).itemsOrNone = .ok listed ∧
    (Reaches (fun v => ∃ p, Parameter.ofValue v = .ok p) Parameter.Breaks listed ∨
      ∃ ps store before item after d, listed.mapM Parameter.ofValue = .ok ps ∧
        ParameterStore.ofList ps = .ok store ∧ items = before ++ item :: after ∧
        (addShapes before).Gives { empty settings with parameters := store } () d ∧
        Shape.Breaks item)

theorem not_escapes_add (store : ParameterStore) (p : Parameter) : ¬ Escapes (store.add p) := by
  unfold ParameterStore.add
  rw [Escapes, failsWith_bind_iff]
  rintro (h | ⟨present, -, h⟩)
  · exact (Catalogue.slips_contains_iff _ _).1 (escapes_liftM_iff.1 h)
  cases present with
  | true =>
    obtain ⟨_, ⟨⟩, ⟨⟩⟩ := h
  | false =>
    refine (Catalogue.slips_insert_iff store.parameters p.id p).1 (escapes_liftM_iff.1 ?_)
    refine (failsWith_bind_iff.1 h).resolve_right ?_
    rintro ⟨c, -, h⟩
    exact not_failsWith_ok _ h

theorem not_escapes_ofList (ps : List Parameter) : ¬ Escapes (ParameterStore.ofList ps) := by
  unfold ParameterStore.ofList
  generalize ParameterStore.empty = store
  induction ps generalizing store with
  | nil => exact not_failsWith_ok _
  | cons p rest ih =>
    rw [List.foldlM_cons, Escapes, failsWith_bind_iff]
    rintro (h | ⟨store', -, h⟩)
    · exact not_escapes_add store p h
    · exact ih store' h

/-- Storing the parameters of a document is not reported just when a parameter is not. -/
theorem escapes_parameters_iff (listed : List Value) :
    Escapes (listed.mapM Parameter.ofValue >>= ParameterStore.ofList) ↔
      Reaches (fun v => ∃ p, Parameter.ofValue v = .ok p) Parameter.Breaks listed := by
  rw [Escapes, failsWith_bind_iff, failsWith_mapM_iff]
  refine (or_iff_left ?_).trans (reaches_congr (fun _ => Iff.rfl) Parameter.escapes_ofValue_iff)
  rintro ⟨ps, -, h⟩
  exact not_escapes_ofList ps h

theorem escapes_ofValue_iff (settings : Settings) (v : Value) :
    Escapes (ofValue settings v).result ↔ Breaks settings v := by
  unfold ofValue Breaks
  split
  · next fields =>
    split
    · next items hitems =>
      rw [Outcome.escapes_bind_iff, Outcome.escapes_liftM_misuse_iff, Value.slips_itemsOrNone_iff,
        false_or]
      refine ⟨?_, ?_⟩
      · rintro ⟨listed, hlisted, h⟩
        refine ⟨fields, items, listed, rfl, hitems, Outcome.liftM_misuse_eq_ok_iff.1 hlisted, ?_⟩
        obtain h | ⟨store, hstore, h⟩ := Outcome.escapes_bind_iff.1 h
        · exact .inl ((escapes_parameters_iff listed).1 h)
        · obtain ⟨ps, hps, made⟩ := bind_eq_ok_iff.1 hstore
          obtain ⟨before, item, after, d, split, added, breaks⟩ :=
            (escapesAt_fill_iff (d := { empty settings with parameters := store }) ⟨rfl, rfl⟩).1
              (escapes_map_iff.1 h)
          exact .inr ⟨ps, store, before, item, after, d, hps, made, split, added, breaks⟩
      · rintro ⟨_, items', listed, ⟨⟩, hitems', hlisted, h⟩
        cases hitems.symm.trans hitems'
        refine ⟨listed, Outcome.liftM_misuse_eq_ok_iff.2 hlisted, Outcome.escapes_bind_iff.2 ?_⟩
        obtain h | ⟨ps, store, before, item, after, d, hps, made, split, added, breaks⟩ := h
        · exact .inl ((escapes_parameters_iff listed).2 h)
        · refine .inr ⟨store, bind_eq_ok_iff.2 ⟨ps, hps, made⟩, escapes_map_iff.2 ?_⟩
          exact (escapesAt_fill_iff ⟨rfl, rfl⟩).2 ⟨before, item, after, d, split, added, breaks⟩
    · next other =>
      refine iff_of_false ?_ ?_
      · rintro ⟨_, ⟨⟩, ⟨⟩⟩
      · rintro ⟨_, items, _, ⟨⟩, hitems, -⟩
        exact other items hitems
  · next other =>
    refine iff_of_false ?_ ?_
    · rintro ⟨_, ⟨⟩, ⟨⟩⟩
    · rintro ⟨fields, _, _, rfl, -⟩
      exact other fields rfl

end Design

/-! ### Commands -/

namespace CommandLine

variable {files : Files} {settings : Settings} {path : String} {v : Value} {command : Command}
  {next : Design → Report}

/-- A command opens the design at a path and goes on with it. -/
inductive Opens : Command → String → (Design → Report) → Prop
  | check (path : String) : Opens (.check path) path check
  | teeth (path : String) (shape : Option Value) (asJson : Bool) :
    Opens (.teeth path shape asJson) path (teeth shape asJson)

theorem Opens.perform_eq (opens : Opens command path next) :
    perform files settings command = withDesign files settings path next := by
  cases opens <;> rfl

/-- What a command does with a document goes by what loading it gives. -/
theorem withDesign_of_document (read : readDocument files path = .ok v) :
    withDesign files settings path next =
      Report.after (logLines (Design.ofValue settings v).notices)
        (match (Design.ofValue settings v).result with
        | .ok d => next d
        | .error failure =>
          if isReported failure then .refusal s!"cannot load {path}: {failure.message}"
          else .failed failure) := by
  unfold withDesign
  rw [read]
  have loaded : (liftM (.ok v : Except Failure Value) >>= Design.ofValue settings : Outcome Design) =
      Design.ofValue settings v := by
    have unfolded : (liftM (.ok v : Except Failure Value) >>= Design.ofValue settings :
        Outcome Design) = ⟨(Design.ofValue settings v).result,
          [] ++ (Design.ofValue settings v).notices⟩ := rfl
    rw [unfolded, List.nil_append]
  dsimp only
  generalize (liftM (.ok v : Except Failure Value) >>= Design.ofValue settings :
    Outcome Design) = found at loaded ⊢
  subst loaded
  rfl

/-- A document is loaded, or the failure is one that is reported, unless it holds something that
breaks loading. The commands that open designs go on with the design, say that it cannot be loaded
and end with a status of one, or end with the failure itself. -/
theorem loading_reported_iff (settings : Settings) (v : Value) :
    ((∃ d, (Design.ofValue settings v).result = .ok d) ∨
      (∃ failure, (Design.ofValue settings v).result = .error failure ∧
        isReported failure = true) ↔ ¬ Design.Breaks settings v) ∧
    ∀ (files : Files) {path : String} {command : Command} {next : Design → Report},
      Opens command path next → readDocument files path = .ok v →
      (¬ Design.Breaks settings v →
        (∃ d, (Design.ofValue settings v).result = .ok d ∧ perform files settings command =
          Report.after (logLines (Design.ofValue settings v).notices) (next d)) ∨
        ∃ failure, (Design.ofValue settings v).result = .error failure ∧
          perform files settings command =
            Report.after (logLines (Design.ofValue settings v).notices)
              (.refusal s!"cannot load {path}: {failure.message}")) ∧
      (Design.Breaks settings v → ∃ failure, (Design.ofValue settings v).result = .error failure ∧
        perform files settings command =
          Report.after (logLines (Design.ofValue settings v).notices) (.failed failure)) := by
  rw [← Design.escapes_ofValue_iff]
  refine ⟨?_, fun files {path command next} opens read => ?_⟩
  · cases (Design.ofValue settings v).result with
    | ok d => exact iff_of_true (.inl ⟨d, rfl⟩) (not_failsWith_ok d)
    | error failure => simp [Escapes, failsWith_error_iff]
  · rw [opens.perform_eq, withDesign_of_document read]
    cases (Design.ofValue settings v).result with
    | ok d => exact ⟨fun _ => .inl ⟨d, rfl, rfl⟩, fun h => absurd h (not_failsWith_ok d)⟩
    | error failure =>
      rw [Escapes, failsWith_error_iff]
      dsimp only
      refine ⟨fun reported => .inr ⟨failure, rfl, ?_⟩, fun unreported => ⟨failure, rfl, ?_⟩⟩
      · rw [if_pos (Bool.not_eq_false _ ▸ reported)]
      · rw [if_neg (Bool.eq_false_iff.1 unreported)]

/-- A document that is a list cannot be loaded, which is reported. -/
theorem loading_reported_iff_list :
    Opens (.check "d.json") "d.json" check ∧
      readDocument (.ofList [("d.json", "[]")]) "d.json" = .ok (.list []) ∧
      ¬ Design.Breaks {} (.list []) ∧
      ∃ failure : Failure, perform (.ofList [("d.json", "[]")]) {} (.check "d.json") =
        Report.after (logLines (Design.ofValue {} (.list [])).notices)
          (.refusal s!"cannot load d.json: {failure.message}") := by
  have whole : ¬ Design.Breaks {} (.list []) := by
    rintro ⟨_, _, _, ⟨⟩, -⟩
  refine ⟨.check "d.json", rfl, whole, ?_⟩
  obtain ⟨d, loaded, -⟩ | ⟨failure, -, refused⟩ :=
    ((loading_reported_iff {} (.list [])).2 (.ofList [("d.json", "[]")]) (.check "d.json") rfl).1
      whole
  · cases loaded
  · exact ⟨failure, refused⟩

/-- A document with a number in place of a parameter is neither loaded nor is the failure
reported. -/
theorem not_forall_loading_reported :
    ¬ ∀ (settings : Settings) (v : Value),
      (∃ d, (Design.ofValue settings v).result = .ok d) ∨
        ∃ failure, (Design.ofValue settings v).result = .error failure ∧
          isReported failure = true := by
  intro loads
  have unreported : (Design.ofValue {} (.object [("parameters", .list [.int 5])])).result =
      .error (.misuse (.notObject .int)) := rfl
  obtain ⟨d, loaded⟩ | ⟨failure, failed, reported⟩ :=
    loads {} (.object [("parameters", .list [.int 5])])
  · cases unreported.symm.trans loaded
  · cases unreported.symm.trans failed
    cases reported

end CommandLine

end Joinery
