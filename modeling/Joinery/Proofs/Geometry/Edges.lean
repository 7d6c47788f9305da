import Joinery.Shape.Basic
import Joinery.Proofs.Fails
import Joinery.Proofs.Geometry.Convex
import Joinery.Proofs.Joint.Keys

/-!
# Edges along outlines

The edges of an outline lead from each point to the next one and are numbered in this order, the
edge that closes the outline last. The outlines of a shape are numbered as well, so each edge of a
shape stands before all that follow it. With what is known of keys this makes the key of an edge its
own, among the edges of its shape and of all others.
-/
namespace Joinery

variable {α : Type}

namespace Edge

/-- Where an edge belongs: its shape, its path and its place on the path. -/
def place (e : Edge α) : Value × Value × Value := (e.shape, e.path, e.index)

/-- The edges are edges of one shape, and the first one is counted before the second: on an earlier
path, or earlier on the same one. -/
def Precedes (e f : Edge α) : Prop :=
  e.shape = f.shape ∧ ∃ path index path' index' : Int,
    (e.path = .int path ∧ e.index = .int index) ∧ (f.path = .int path' ∧ f.index = .int index') ∧
      (path < path' ∨ path = path' ∧ index < index')

theorem key_of_place {e : Edge α} (p : Spot) (h : e.place = (p.owner, .int p.path, .int p.index)) :
    e.key = p.key := by
  obtain ⟨start, stop, shape, path, index, closed⟩ := e
  obtain ⟨rfl, rfl, rfl⟩ : shape = p.owner ∧ path = .int p.path ∧ index = .int p.index := by
    simpa [place] using h
  exact p.key_edge start stop closed

/-- Edges that are counted one before the other have different keys. -/
theorem Precedes.key_ne {e f : Edge α} (before : e.Precedes f) (id : Option ShapeId)
    (owner : e.shape = (Spot.mk id 0 0).owner) : e.key ≠ f.key := by
  obtain ⟨same, path, index, path', index', ⟨he, hi⟩, ⟨hf, hj⟩, order⟩ := before
  rw [key_of_place ⟨id, path, index⟩ (by simp [place, he, hi, owner, Spot.owner]),
    key_of_place ⟨id, path', index'⟩ (by simp [place, hf, hj, ← same, owner, Spot.owner])]
  intro alike
  obtain ⟨-, rfl, rfl⟩ := Spot.mk.inj (Spot.key_injective alike)
  omega

end Edge

/-- The edges of a shape are those of its outlines, and an id that is empty counts as none. -/
theorem Shape.exists_outlines {s : Shape} {edges : List (Edge Value)}
    (success : s.edges = .ok edges) :
    ∃ own, s.outlines = .ok own ∧ edges = Path.edgesOf (s.id.orElse .null) own := by
  unfold Shape.edges at success
  obtain ⟨-, -, performed⟩ := bind_eq_ok_iff.1 success
  obtain ⟨own, drawn, listed⟩ := bind_eq_ok_iff.1 performed
  cases listed
  exact ⟨own, drawn, rfl⟩

namespace Path

/-- How many edges an outline has. -/
def edgeCount (outline : Path α) : Nat :=
  if outline.points.length < 2 then 0
  else if outline.closed.isTruthy then outline.points.length
  else outline.points.length - 1

/-! ### The edges of one outline -/

theorem segments_place (shape path closed : Value) (index : Int) (points : List (Point α)) :
    (segments shape path closed index points).map Edge.place =
      (List.range (points.length - 1)).map fun i => (shape, path, .int (index + (i : Int))) := by
  fun_induction segments with
  | case1 index p q rest ih =>
    have shifted : ∀ i : Nat, index + 1 + (i : Int) = index + ((i + 1 : Nat) : Int) := by omega
    simp only [List.map_cons, ih, List.length_cons, Nat.add_sub_cancel, shifted]
    rw [List.range_succ_eq_map, List.map_cons, List.map_map]
    simp [Edge.place, Function.comp_def]
  | case2 points index short =>
    cases points with
    | nil => rfl
    | cons p rest =>
      cases rest with
      | nil => rfl
      | cons q rest => exact absurd rfl (short p q rest)

theorem closing_place (shape path : Value) {points : List (Point α)} (several : points ≠ []) :
    (closing shape path points).map Edge.place =
      [(shape, path, .int ((points.length - 1 : Nat) : Int))] := by
  have positive := List.length_pos_iff.2 several
  have cast : ((points.length - 1 : Nat) : Int) = (points.length : Int) - 1 := by omega
  unfold closing
  rw [List.getLast?_eq_getLast_of_ne_nil several, List.head?_eq_some_head several, cast]
  rfl

/-- The edges of an outline are numbered in their order. -/
theorem edges_place (outline : Path α) (path shape : Value) :
    (outline.edges path shape).map Edge.place =
      (List.range outline.edgeCount).map fun i => (shape, path, .int (i : Int)) := by
  unfold edges edgeCount
  split
  · rfl
  next several =>
    rw [List.map_append, segments_place]
    simp only [zero_add]
    split
    · have nonempty : outline.points ≠ [] := by rintro empty; simp [empty] at several
      have length : outline.points.length = outline.points.length - 1 + 1 := by omega
      rw [closing_place shape path nonempty]
      conv_rhs => rw [length, List.range_succ, List.map_append]
      rfl
    · simp

theorem length_edges (outline : Path α) (path shape : Value) :
    (outline.edges path shape).length = outline.edgeCount := by
  simpa using congrArg List.length (edges_place outline path shape)

theorem place_of_getElem? {outline : Path α} {path shape : Value} {i : Nat} {e : Edge α}
    (h : (outline.edges path shape)[i]? = some e) : e.place = (shape, path, .int (i : Int)) := by
  have place : ((outline.edges path shape).map Edge.place)[i]? = some e.place := by
    rw [List.getElem?_map, h]
    rfl
  rw [edges_place, List.getElem?_map, Option.map_eq_some_iff] at place
  obtain ⟨j, found, same⟩ := place
  obtain ⟨bound, number⟩ := List.getElem?_eq_some_iff.1 found
  rw [List.getElem_range] at number
  rw [← same, number]

/-- An edge leads from the point of its number to the next one, after the last of which comes the
first again. -/
theorem edges_ends {outline : Path α} {path shape : Value} {i : Nat} {e : Edge α}
    (h : (outline.edges path shape)[i]? = some e) :
    outline.points[i]? = some e.start ∧
      outline.points[(i + 1) % outline.points.length]? = some e.stop := by
  have bound : i < outline.edgeCount := by
    rw [← length_edges outline path shape]
    exact (List.getElem?_eq_some_iff.1 h).1
  have several : 2 ≤ outline.points.length := by
    by_contra few
    simp [edgeCount, Nat.lt_of_not_le few] at bound
  have hends : ((outline.edges path shape).map ends)[i]? = some (e.start, e.stop) := by
    rw [List.getElem?_map, h]
    rfl
  cases closes : outline.closed.isTruthy with
  | false =>
    have next : i + 1 < outline.points.length := by
      simp only [edgeCount, closes, Bool.false_eq_true, if_false] at bound
      split at bound <;> omega
    have onward : (outline.edges path shape).map ends =
        outline.points.zip outline.points.tail := by
      unfold edges
      rw [if_neg (Nat.not_lt.2 several), closes, if_neg Bool.false_ne_true, List.append_nil,
        segments_ends]
    rw [onward, List.getElem?_zip_eq_some, List.getElem?_tail] at hends
    rwa [Nat.mod_eq_of_lt next]
  | true =>
    have around : (outline.edges path shape).map ends =
        outline.points.zip (outline.points.rotate 1) :=
      closed_edges_ends closes several path shape
    rw [around, List.getElem?_zip_eq_some] at hends
    refine ⟨hends.1, ?_⟩
    rw [← hends.2, List.getElem?_rotate (List.getElem?_eq_some_iff.1 hends.1).1]

/-- What the edges of an outline have to be: so many as it asks for, numbered in their order, and
leading along its points. -/
structure LeadsAlong (outline : Path α) (edges : List (Edge α)) : Prop where
  few : outline.points.length < 2 → edges = []
  opened : 2 ≤ outline.points.length → outline.closed.isTruthy = false →
    edges.length = outline.points.length - 1
  closed : 2 ≤ outline.points.length → outline.closed.isTruthy = true →
    edges.length = outline.points.length
  numbered : edges.map Edge.index = (List.range edges.length).map fun i => .int (i : Int)
  fits : ∀ (i : Nat) (e : Edge α), edges[i]? = some e →
    outline.points[i]? = some e.start ∧
      outline.points[(i + 1) % outline.points.length]? = some e.stop
  linked : edges.IsChain fun e next => e.stop = next.start
  returns : outline.closed.isTruthy = true →
    ∀ e ∈ edges.getLast?, outline.points.head? = some e.stop

theorem edges_leadsAlong (outline : Path α) (path shape : Value) :
    outline.LeadsAlong (outline.edges path shape) where
  few short := by
    unfold edges
    rw [if_pos short]
  opened several isOpen := by
    rw [length_edges, edgeCount, if_neg (Nat.not_lt.2 several), isOpen, if_neg Bool.false_ne_true]
  closed several closes := by
    rw [length_edges, edgeCount, if_neg (Nat.not_lt.2 several), if_pos closes]
  numbered := by
    rw [length_edges]
    simpa [Function.comp_def, Edge.place] using
      congrArg (List.map fun place : Value × Value × Value => place.2.2)
        (edges_place outline path shape)
  fits _ _ := edges_ends
  linked := by
    refine List.isChain_iff_getElem.2 fun i bound => ?_
    have here := edges_ends (List.getElem?_eq_getElem (Nat.lt_of_succ_lt bound))
    have next := edges_ends (List.getElem?_eq_getElem bound)
    -- the next edge starts at a point of the outline, so the count does not go round before it
    have inside := (List.getElem?_eq_some_iff.1 next.1).1
    rw [Nat.mod_eq_of_lt inside, next.1] at here
    exact (Option.some.inj here.2).symm
  returns closes e last := by
    rw [List.getLast?_eq_getElem?] at last
    have around := edges_ends last
    rw [length_edges, edgeCount, if_pos closes] at around
    split at around
    next short => simp [edges, short] at last
    next several =>
      rw [Nat.sub_add_cancel (by omega), Nat.mod_self] at around
      rw [List.head?_eq_getElem?]
      exact around.2

/-! ### The edges of all outlines of a shape -/

theorem edgesFrom_eq (shape : Value) (path : Nat) (outlines : List (Path α)) :
    edgesFrom shape path outlines =
      (outlines.zipIdx path).flatMap fun numbered => numbered.1.edges (.int numbered.2) shape := by
  induction outlines generalizing path with
  | nil => rfl
  | cons outline rest ih =>
    have next : (path : Int) + 1 = ((path + 1 : Nat) : Int) := by omega
    rw [edgesFrom, next, ih, List.zipIdx_cons, List.flatMap_cons]

theorem place_of_mem_edges {outline : Path α} {path shape : Value} {e : Edge α}
    (member : e ∈ outline.edges path shape) :
    ∃ i : Nat, e.place = (shape, path, .int (i : Int)) := by
  obtain ⟨i, h⟩ := List.mem_iff_getElem?.1 member
  exact ⟨i, place_of_getElem? h⟩

theorem place_of_mem_edgesFrom {shape : Value} {path : Nat} {outlines : List (Path α)} {e : Edge α}
    (member : e ∈ edgesFrom shape path outlines) :
    ∃ k i : Nat, path ≤ k ∧ e.place = (shape, .int (k : Int), .int (i : Int)) := by
  rw [edgesFrom_eq] at member
  obtain ⟨numbered, among, member⟩ := List.mem_flatMap.1 member
  obtain ⟨i, place⟩ := place_of_mem_edges member
  exact ⟨numbered.2, i, List.le_snd_of_mem_zipIdx among, place⟩

/-- The edges of a shape carry its id and are counted by paths and places. -/
theorem place_of_mem_edgesOf {shape : Value} {outlines : List (Path α)} {e : Edge α}
    (member : e ∈ edgesOf shape outlines) :
    ∃ k i : Nat, e.place = (shape, .int (k : Int), .int (i : Int)) := by
  have counted : e ∈ edgesFrom shape (0 : Nat) outlines := member
  obtain ⟨k, i, -, place⟩ := place_of_mem_edgesFrom counted
  exact ⟨k, i, place⟩

theorem pairwise_edges (outline : Path α) (path : Int) (shape : Value) :
    (outline.edges (.int path) shape).Pairwise Edge.Precedes := by
  have counted : ((outline.edges (.int path) shape).map Edge.place).Pairwise
      fun p q => ∃ i j : Nat, p = (shape, .int path, .int (i : Int)) ∧
        q = (shape, .int path, .int (j : Int)) ∧ i < j := by
    rw [edges_place, List.pairwise_map]
    exact List.pairwise_lt_range.imp fun {i j} less => ⟨i, j, rfl, rfl, less⟩
  refine (List.pairwise_map.1 counted).imp fun {e f} order => ?_
  obtain ⟨i, j, he, hf, less⟩ := order
  simp only [Edge.place, Prod.mk.injEq] at he hf
  exact ⟨he.1.trans hf.1.symm, path, i, path, j, he.2, hf.2, .inr ⟨rfl, by omega⟩⟩

/-- Each edge of a shape is counted before all that follow it. -/
theorem pairwise_edgesFrom (shape : Value) (path : Nat) (outlines : List (Path α)) :
    (edgesFrom shape path outlines).Pairwise Edge.Precedes := by
  induction outlines generalizing path with
  | nil => exact .nil
  | cons outline rest ih =>
    have next : (path : Int) + 1 = ((path + 1 : Nat) : Int) := by omega
    rw [edgesFrom, next]
    refine List.pairwise_append.2 ⟨pairwise_edges outline path shape, ih (path + 1), ?_⟩
    intro e he f hf
    obtain ⟨i, place⟩ := place_of_mem_edges he
    obtain ⟨k, j, later, place'⟩ := place_of_mem_edgesFrom hf
    simp only [Edge.place, Prod.mk.injEq] at place place'
    exact ⟨place.1.trans place'.1.symm, path, i, k, j, place.2, place'.2, .inl (by omega)⟩

theorem pairwise_edgesOf (shape : Value) (outlines : List (Path α)) :
    (edgesOf shape outlines).Pairwise Edge.Precedes :=
  pairwise_edgesFrom shape 0 outlines

/-! ### Keys -/

/-- The id that a text gives to a shape; the empty text gives none. -/
def shapeId? (id : String) : Option ShapeId := if h : id ≠ "" then some ⟨id, h⟩ else none

theorem owner_shapeId? (id : String) (path index : Int) :
    (Spot.mk (shapeId? id) path index).owner = (Value.text id).orElse .null := by
  unfold shapeId? Spot.owner Value.orElse Value.isTruthy
  by_cases h : id = "" <;> simp [h]

theorem shapeId?_injective {id other : String} (h : shapeId? id = shapeId? other) : id = other := by
  unfold shapeId? at h
  split at h <;> split at h <;> simp_all

/-- The key of an edge of a shape is that of the spot that the id, the path and the place make. -/
theorem key_of_mem_edgesOf {id : String} {outlines : List (Path α)} {e : Edge α}
    (member : e ∈ edgesOf ((Value.text id).orElse .null) outlines) :
    ∃ p : Spot, p.shape = shapeId? id ∧ e.key = p.key := by
  obtain ⟨k, i, place⟩ := place_of_mem_edgesOf member
  refine ⟨⟨shapeId? id, k, i⟩, rfl, Edge.key_of_place _ ?_⟩
  rw [place, owner_shapeId?]

theorem nodup_keys (id : String) (outlines : List (Path α)) :
    ((edgesOf ((Value.text id).orElse .null) outlines).map Edge.key).Nodup := by
  refine List.pairwise_map.2 ((pairwise_edgesOf _ outlines).imp_of_mem ?_)
  intro e f he _ before
  obtain ⟨k, i, place⟩ := place_of_mem_edgesOf he
  refine before.key_ne (shapeId? id) ?_
  rw [owner_shapeId?]
  exact congrArg Prod.fst place

/-- The key of an edge of an outline that belongs to a shape with an id. -/
theorem key_of_getElem? {id : String} (nonempty : id ≠ "") {outline : Path α} {path : Nat} {i : Nat}
    {e : Edge α} (h : (outline.edges (.int path) (.text id))[i]? = some e) :
    e.key = s!"{id}:{path}:{i}" := by
  rw [Edge.key_of_place ⟨some ⟨id, nonempty⟩, path, i⟩ (place_of_getElem? h)]
  simp only [Spot.key, Spot.localKey, ← String.append_assoc]
  rfl

/-- The edges of a shape with an id lead along its outlines, one outline after the other, and have
the keys that the id, the number of the outline and the number of the edge make; no two of them have
the same key, and none has the key of an edge of a shape with another id. -/
theorem edgesOf_leadAlong {id : String} (nonempty : id ≠ "") (outlines : List (Path α)) :
    (edgesOf (.text id) outlines = outlines.zipIdx.flatMap fun numbered =>
      numbered.1.edges (.int numbered.2) (.text id)) ∧
    (∀ (outline : Path α) (path : Nat),
      outline.LeadsAlong (outline.edges (.int path) (.text id)) ∧
      ∀ (i : Nat) (e : Edge α), (outline.edges (.int path) (.text id))[i]? = some e →
        e.key = s!"{id}:{path}:{i}") ∧
    ((edgesOf (.text id) outlines).map Edge.key).Nodup ∧
    (∀ other : String, other ≠ id → ∀ others : List (Path α),
      ((edgesOf (.text id) outlines).map Edge.key).Disjoint
        ((edgesOf ((Value.text other).orElse .null) others).map Edge.key)) ∧
    ∀ s : Shape, s.id = .text id → ∀ edges, s.edges = .ok edges →
      ∃ own, s.outlines = .ok own ∧ edges = edgesOf (.text id) own := by
  have owner : (Value.text id).orElse .null = .text id := by
    simp [Value.orElse, Value.isTruthy, nonempty]
  have nodup := nodup_keys id outlines
  rw [owner] at nodup
  refine ⟨edgesFrom_eq (.text id) 0 outlines,
    fun outline path => ⟨edges_leadsAlong outline _ _, fun i e => key_of_getElem? nonempty⟩, nodup,
    ?_, ?_⟩
  · intro other different others key here there
    obtain ⟨e, he, rfl⟩ := List.mem_map.1 here
    obtain ⟨f, hf, same⟩ := List.mem_map.1 there
    rw [← owner] at he
    obtain ⟨p, hp, key⟩ := key_of_mem_edgesOf he
    obtain ⟨q, hq, key'⟩ := key_of_mem_edgesOf hf
    obtain rfl : p = q := Spot.key_injective (by rw [← key, ← key', same])
    exact different (shapeId?_injective (hq.symm.trans hp))
  · intro s hid edges success
    obtain ⟨own, drawn, rfl⟩ := Shape.exists_outlines success
    exact ⟨own, drawn, by rw [hid, owner]⟩

/-- Ids with colons: an open outline on the shape `a` and a closed one on the shape `a:0`. -/
theorem edgesOf_leadAlong_colon :
    let points : List (Point Int) := [⟨0, 0⟩, ⟨4, 0⟩, ⟨4, 3⟩]
    ((edgesOf (.text "a") [⟨points, .bool false⟩, ⟨points, .bool true⟩]).map Edge.key).Nodup ∧
    ((edgesOf (.text "a") [⟨points, .bool false⟩, ⟨points, .bool true⟩]).map Edge.key).Disjoint
      ((edgesOf ((Value.text "a:0").orElse .null) [⟨points, .bool true⟩]).map Edge.key) :=
  have holds := edgesOf_leadAlong (show "a" ≠ "" by decide)
    [⟨[⟨0, 0⟩, ⟨4, 0⟩, ⟨4, 3⟩], .bool false⟩, ⟨[⟨0, 0⟩, ⟨4, 0⟩, (⟨4, 3⟩ : Point Int)], .bool true⟩]
  ⟨holds.2.2.1, holds.2.2.2.1 "a:0" (by decide) _⟩

end Path

end Joinery
