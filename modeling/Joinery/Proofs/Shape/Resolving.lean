import Joinery.Proofs.Shape.Reloading

/-!
# Resolving what was read back

A shape that was read back has defaults in the place of the values that its bindings hide. Resolving
never looks at those: every bound property is given a new value, so the resolved shape, the notices
and the failure are the same as before. Nor does it look at the steps of parameters.
-/
namespace Joinery

namespace Figure

theorem exists_withProperty? {f : Figure} {name : String} (member : name ∈ bindable f.kind)
    (v : Value) : ∃ g, f.withProperty? name v = some g ∧ g.kind = f.kind := by
  cases f with
  | rectangle | polygon =>
    simp only [kind, bindable, List.mem_cons, List.not_mem_nil, or_false] at member
    obtain rfl | rfl | rfl | rfl := member <;> exact ⟨_, rfl, rfl⟩
  | path =>
    simp only [kind, bindable, List.mem_cons, List.not_mem_nil, or_false] at member
    obtain rfl | rfl := member <;> exact ⟨_, rfl, rfl⟩
  | blank => cases member

/-- Giving a property a value makes it the same whether a default stood there or not. -/
theorem withProperty?_exposed {f : Figure} {before after : String → Bool} {name : String}
    (member : name ∈ bindable f.kind) (given : after name = false)
    (others : ∀ other, other ≠ name → before other = after other) (v : Value) :
    (f.exposed before).withProperty? name v =
      (f.withProperty? name v).map fun g => g.exposed after := by
  cases f with
  | rectangle | polygon =>
    simp only [kind, bindable, List.mem_cons, List.not_mem_nil, or_false] at member
    obtain rfl | rfl | rfl | rfl := member <;> simp [withProperty?, exposed, shown, others, given]
  | path =>
    simp only [kind, bindable, List.mem_cons, List.not_mem_nil, or_false] at member
    obtain rfl | rfl := member <;> simp [withProperty?, exposed, shown, others, given]
  | blank => cases member

theorem lookup_exposed {f : Figure} {hidden : String → Bool} {name : String}
    (member : name ∈ bindable f.kind) (unhidden : hidden name = false) :
    (f.exposed hidden).attributes.lookup name = f.attributes.lookup name := by
  cases f with
  | rectangle | polygon =>
    simp only [kind, bindable, List.mem_cons, List.not_mem_nil, or_false] at member
    obtain rfl | rfl | rfl | rfl := member <;>
      simp [attributes, properties, exposed, shown, unhidden, List.lookup_cons]
  | path =>
    simp only [kind, bindable, List.mem_cons, List.not_mem_nil, or_false] at member
    obtain rfl | rfl := member <;>
      simp [attributes, properties, exposed, shown, unhidden, List.lookup_cons]
  | blank => rfl

theorem exposed_congr {f : Figure} {hidden hidden' : String → Bool}
    (same : ∀ name ∈ bindable f.kind, hidden name = hidden' name) :
    f.exposed hidden = f.exposed hidden' := by
  cases f with
  | rectangle | polygon | path =>
    simp only [kind, bindable, List.forall_mem_cons] at same
    simp [exposed, shown, same]
  | blank => rfl

theorem exposed_nothing (f : Figure) : (f.exposed fun _ => false) = f := by
  cases f <;> rfl

end Figure

namespace Bindings

theorem find?_update_of_ne (bs : Bindings) {name other : String} (different : other ≠ name)
    (b : Binding) : (bs.update (.text name) b).find? (.text other) = bs.find? (.text other) := by
  cases bs with
  | other v => rfl
  | table bound =>
    have apart : Value.Key.text other ≠ .text name := fun h => different (Value.Key.text.inj h)
    have same := bound.at?_modify_of_ne apart fun _ => b
    unfold find? get? update Catalogue.find?
    dsimp only [Value.key]
    rw [ok_bind, ok_bind, same]

end Bindings

namespace Shape

theorem ne_of_mem_bindable (kind : FigureKind) :
    ∀ name ∈ Figure.bindable kind, name ≠ "id" ∧ name ≠ "bindings" := by
  cases kind <;> decide

theorem withAttribute_of_mem {s : Shape} {g : Figure} {name : String} {v : Value}
    (member : name ∈ Figure.bindable s.figure.kind)
    (changed : s.figure.withProperty? name v = some g) :
    s.withAttribute name v = { s with figure := g } := by
  obtain ⟨notId, notBindings⟩ := ne_of_mem_bindable _ name member
  unfold withAttribute
  rw [if_neg notId, if_neg notBindings, changed]

theorem read_withHidden {s : Shape} {hidden : String → Bool} {name : String}
    (member : name ∈ Figure.bindable s.figure.kind) (unhidden : hidden name = false) :
    (s.withHidden hidden).read (.text name) = s.read (.text name) := by
  unfold read withHidden
  dsimp only [Value.asText]
  rw [ok_bind, ok_bind]
  rw [Figure.lookup_exposed member unhidden]

/-- A property that is given a value need not be hidden any more. -/
theorem withAttribute_withHidden (hidden : String → Bool) {r : Shape} {name : String}
    {rest : List String} (member : name ∈ Figure.bindable r.figure.kind) (fresh : name ∉ rest)
    (v : Value) : ∃ g : Figure, g.kind = r.figure.kind ∧
      r.withAttribute name v = { r with figure := g } ∧
      (r.withHidden fun other => hidden other && (name :: rest).contains other).withAttribute
        name v = ({ r with figure := g } : Shape).withHidden fun other =>
          hidden other && rest.contains other := by
  obtain ⟨g, changed, hkind⟩ := Figure.exists_withProperty? member v
  refine ⟨g, hkind, withAttribute_of_mem member changed, withAttribute_of_mem ?_ ?_⟩
  · rwa [withHidden, Figure.kind_exposed]
  · refine (Figure.withProperty?_exposed member ?_ (fun other different => ?_) v).trans
      (congrArg _ changed)
    · simp [fresh]
    · simp [different]

/-- While properties are resolved, defaults may stand in the resolved shape in the place of hidden
values whose names are still to come: bound properties are given values, and of the others none is
hidden. -/
theorem resolveProperties_withHidden (env : Environment) (hidden : String → Bool)
    {names : List String} (nodup : names.Nodup) {s r : Shape}
    (alike : r.figure.kind = s.figure.kind)
    (known : ∀ name ∈ names, name ∈ Figure.bindable s.figure.kind)
    (unbound : ∀ name ∈ names, s.bindings.find? (.text name) = .ok none → hidden name = false) :
    (resolveProperties env (names.map .text) (s.withHidden hidden)
        (r.withHidden fun name => hidden name && names.contains name)).1 =
      (resolveProperties env (names.map .text) s r).1 := by
  induction names generalizing s r with
  | nil =>
    have nothing : (fun name => hidden name && ([] : List String).contains name) =
        fun _ => false := by
      funext name
      exact Bool.and_false _
    rw [nothing]
    unfold withHidden
    rw [Figure.exposed_nothing]
    rfl
  | cons name rest ih =>
    obtain ⟨fresh, later⟩ := List.nodup_cons.1 nodup
    obtain ⟨first, others⟩ := List.forall_mem_cons.1 known
    obtain ⟨firstUnbound, othersUnbound⟩ := List.forall_mem_cons.1 unbound
    have given := withAttribute_withHidden hidden (r := r) (by rwa [alike]) fresh
    have bound : (s.withHidden hidden).bindings = s.bindings := rfl
    have shown : (Value.text name).shown = name := rfl
    rw [List.map_cons, resolveProperties, resolveProperties, bound, shown]
    cases found : s.bindings.find? (.text name) with
    | error cause => rfl
    | ok entry =>
      cases entry with
      | none =>
        dsimp only
        rw [read_withHidden first (firstUnbound found)]
        cases s.read (.text name) with
        | error cause => rfl
        | ok v =>
          obtain ⟨g, hkind, given, givenHidden⟩ := given v
          dsimp only
          rw [given, givenHidden]
          exact ih later (hkind.trans alike) others othersUnbound
      | some b =>
        -- The value comes from the binding alone; the traces that it leaves are under its own name.
        dsimp only
        cases (b.resolve env).outcome.result with
        | error failure => rfl
        | ok v =>
          obtain ⟨g, hkind, given, givenHidden⟩ := given v
          dsimp only
          rw [given, givenHidden]
          let traced := s.bindings.update (.text name) (b.resolve env).binding
          have stillUnbound : ∀ other ∈ rest, traced.find? (.text other) = .ok none →
              hidden other = false := by
            intro other member
            have different : other ≠ name := by
              rintro rfl
              exact fresh member
            rw [Bindings.find?_update_of_ne _ different]
            exact othersUnbound other member
          have same := ih (s := { s with bindings := traced }) (r := { r with figure := g }) later
            (hkind.trans alike) others stillUnbound
          exact congrArg (fun later : Outcome Shape =>
            (⟨later.result, (b.resolve env).outcome.notices ++ later.notices⟩ : Outcome Shape)) same

theorem foreign_not_created {v value : Value} :
    BindingRegistry.builtin.create v ≠ .ok (.foreign value) := by
  intro success
  obtain ⟨w, written, -⟩ := Binding.written_back success rfl
  cases written

/-- In a shape that was read, what is not bound is not hidden. -/
theorem IsRead.hides_eq_false {s : Shape} (read : s.IsRead) {name : String}
    (unbound : s.bindings.find? (.text name) = .ok none) : s.hides name = false := by
  obtain ⟨c, table, -, each⟩ := read.bound
  rw [table] at unbound
  unfold hides
  rw [table]
  refine (Table.contains_eq_false_iff _ _).2 fun member => ?_
  obtain ⟨⟨_, shown, b⟩, hentry, rfl⟩ := List.mem_map.1 member
  obtain ⟨_, -, -, v, made⟩ := each (shown, b) (List.mem_map.2 ⟨_, hentry, rfl⟩)
  have found : c.at? (.text name) = some b :=
    congrArg (Option.map Prod.snd) ((Table.find?_eq_some_iff _ _ _).2 hentry)
  obtain ⟨bound, hbound, unbound⟩ := bind_eq_ok_iff.1 unbound
  obtain ⟨_, hkey, hfound⟩ := bind_eq_ok_iff.1 hbound
  cases hkey
  cases hfound
  rw [found] at unbound
  split at unbound
  · next foreign =>
    cases foreign
    exact foreign_not_created made
  · cases unbound

theorem resolvable_of_plain {s : Shape} (plain : s.extras = Table.empty) :
    s.resolvable = .ok ((Figure.bindable s.figure.kind).map .text) := by
  unfold resolvable
  rw [perform_of_plain plain, perform_of_plain plain, bindable_of_plain plain]
  rfl

theorem nodup_bindable (kind : FigureKind) : (Figure.bindable kind).Nodup := by
  cases kind <;> decide

/-- A shape that was read back resolves as the shape that was written. -/
theorem IsRead.resolve_reloaded {s : Shape} (read : s.IsRead) (env : Environment) :
    (s.reloaded.resolve env).outcome = (s.resolve env).outcome := by
  have same := resolveProperties_withHidden env s.hides (nodup_bindable s.figure.kind)
    (s := s) (r := s) rfl (fun _ member => member) fun _ _ => read.hides_eq_false
  have exposed : s.withHidden (fun name => s.hides name &&
      (Figure.bindable s.figure.kind).contains name) = s.reloaded := by
    refine congrArg (fun figure => { s with figure := figure }) (Figure.exposed_congr ?_)
    intro name member
    rw [List.contains_iff_mem.2 member, Bool.and_true]
  rw [exposed] at same
  have kind : s.reloaded.figure.kind = s.figure.kind := Figure.kind_exposed _ _
  have names : s.perform "resolve" >>= (fun _ => s.resolvable) =
      .ok ((Figure.bindable s.figure.kind).map .text) := by
    rw [perform_of_plain read.plain, resolvable_of_plain read.plain]
    rfl
  have namesReloaded : s.reloaded.perform "resolve" >>= (fun _ => s.reloaded.resolvable) =
      .ok ((Figure.bindable s.figure.kind).map .text) := by
    have plain := (isRead_reloaded read).plain
    rw [perform_of_plain plain, resolvable_of_plain plain, kind]
    rfl
  unfold resolve
  rw [names, namesReloaded]
  exact same

/-! ### Other environments -/

/-- Shapes resolve the same where all bindings do. -/
theorem resolveProperties_congr {env env' : Environment} (same : ∀ b : Binding,
    b.resolve env' = b.resolve env) (names : List Value) (s r : Shape) :
    resolveProperties env' names s r = resolveProperties env names s r := by
  induction names generalizing s r with
  | nil => rfl
  | cons name rest ih =>
    rw [resolveProperties, resolveProperties]
    simp only [same, ih]

theorem resolve_congr {env env' : Environment} (same : ∀ b : Binding,
    b.resolve env' = b.resolve env) (s : Shape) : s.resolve env' = s.resolve env := by
  unfold resolve
  simp only [resolveProperties_congr same]

end Shape

end Joinery
