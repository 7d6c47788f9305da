import Joinery.Joint.Store
import Joinery.Proofs.Parameter.Reloading

/-!
# Joints written and read back

The joints that were read from a document are written so that the same joints are read back, under
the same keys and in the same order.
-/
namespace Joinery

/-- A joint as documents give it: it has a type and an alignment. -/
structure Joint.IsRead (j : Joint) : Prop where
  typed : j.type.isTruthy = true
  aligned : j.align.isTruthy = true

namespace JointStore

/-- A store as documents give it: the joints have keys, and were read. -/
structure IsRead (s : JointStore) : Prop where
  grown : Catalogue.Grown s.joints.spine
  entries : ∀ item ∈ s.joints.entries, item.1.isTruthy = true ∧ item.2.IsRead

theorem isRead_clear (s : JointStore) : s.clear.IsRead := ⟨.nil, nofun⟩

theorem isRead_entry {v key : Value} {j : Joint} (hkey : keyOf? v = some key)
    (success : Joint.ofValue v = .ok j) : key.isTruthy = true ∧ j.IsRead := by
  unfold keyOf? at hkey
  split at hkey
  · next fields =>
    dsimp only at hkey
    split at hkey
    · next truthy =>
      cases hkey
      obtain ⟨hkey, htype⟩ := (Bool.and_eq_true _ _).mp truthy
      obtain ⟨type, found, success⟩ := bind_eq_ok_iff.1 success
      cases found
      obtain ⟨thickness, -, success⟩ := bind_eq_ok_iff.1 success
      obtain ⟨fingerCount, -, success⟩ := bind_eq_ok_iff.1 success
      obtain ⟨align, -, success⟩ := bind_eq_ok_iff.1 success
      cases success
      refine ⟨hkey, htype, ?_⟩
      unfold Value.orElse
      split
      · assumption
      · rfl
    · cases hkey
  · cases hkey

theorem IsRead.put {s s' : JointStore} {key : Value} {j : Joint} (read : s.IsRead)
    (hkey : key.isTruthy = true) (hj : j.IsRead) (success : s.put key j = .ok s') : s'.IsRead := by
  obtain ⟨c, inserted, success⟩ := bind_eq_ok_iff.1 success
  cases success
  refine ⟨read.grown.insert inserted, fun item member => ?_⟩
  obtain before | ⟨new, shown | ⟨old, before⟩⟩ := Catalogue.mem_entries_insert inserted member
  · exact read.entries item before
  · exact ⟨by rw [shown]; exact hkey, by rw [new]; exact hj⟩
  · exact ⟨(read.entries _ before).1, by rw [new]; exact hj⟩

theorem IsRead.loadFrom {s : JointStore} {items : List Value} (read : s.IsRead)
    (success : (s.loadFrom items).result = .ok ()) : (s.loadFrom items).store.IsRead := by
  induction items generalizing s with
  | nil => exact read
  | cons v rest ih =>
    cases hkey : keyOf? v with
    | none =>
      rw [JointStore.loadFrom, hkey] at success ⊢
      exact ih read success
    | some key =>
      cases hput : Joint.ofValue v >>= s.put key with
      | error cause =>
        rw [JointStore.loadFrom, hkey] at success
        dsimp only at success
        rw [hput] at success
        cases success
      | ok s' =>
        rw [JointStore.loadFrom, hkey] at success ⊢
        dsimp only at success ⊢
        rw [hput] at success ⊢
        obtain ⟨j, hj, put⟩ := bind_eq_ok_iff.1 hput
        obtain ⟨keyed, entered⟩ := isRead_entry hkey hj
        exact ih (read.put keyed entered put) success

/-- The store that a document gives, when it is read without failure. -/
theorem isRead_load {s : JointStore} {entries : Value}
    (success : (s.load entries).result = .ok ()) : (s.load entries).store.IsRead := by
  unfold load at success ⊢
  split at success
  · next items hitems =>
    exact s.isRead_clear.loadFrom success
  · cases success

/-- A joint is written so that its key and the joint itself are read back. -/
theorem entry_back {key : Value} {j : Joint} (hkey : key.isTruthy = true) (read : j.IsRead) :
    keyOf? (entry key j) = some key ∧ Joint.ofValue (entry key j) = .ok j := by
  obtain ⟨type, thickness, fingerCount, align⟩ := j
  have aligned : align.orElse (.text "left") = align := Value.orElse_of_isTruthy read.aligned
  have fields : entry key ⟨type, thickness, fingerCount, align⟩ = .object [("key", key),
      ("type", type), ("thicknessMm", thickness), ("fingerCount", fingerCount),
      ("align", align)] := by
    unfold entry
    rw [Value.isNull_of_isTruthy hkey]
    simp [Joint.toFields, Joint.aligned, aligned]
  rw [fields]
  constructor
  · have both : (key.isTruthy && type.isTruthy) = true := by
      rw [hkey, read.typed]
      rfl
    exact if_pos both
  · refine bind_eq_ok_iff.2 ⟨type, rfl, ?_⟩
    refine bind_eq_ok_iff.2 ⟨thickness, rfl, ?_⟩
    refine bind_eq_ok_iff.2 ⟨fingerCount, rfl, ?_⟩
    refine bind_eq_ok_iff.2 ⟨align, rfl, ?_⟩
    rw [aligned]
    rfl

/-- The joints are read back from what is written of them, whatever was there. -/
theorem IsRead.load_toValue {s : JointStore} (read : s.IsRead) (other : JointStore) :
    other.load s.toValue = ⟨{ other with joints := s.joints }, [], .ok ()⟩ := by
  let behind (c : Catalogue Joint) : JointStore := { other with joints := c }
  let completes (c : Catalogue Joint) (rest : List (Value × Joint)) : Prop :=
    JointStore.loadFrom (behind c) (rest.map fun item => entry item.1 item.2) =
      ⟨behind s.joints, [], .ok ()⟩
  have filled : completes .empty s.joints.entries := by
    refine read.grown.fill (motive := completes) rfl
      fun c c' key j rest member absent inserted later => ?_
    obtain ⟨hkey, hj⟩ := read.entries _ member
    obtain ⟨keyed, made⟩ := entry_back hkey hj
    have put : (Joint.ofValue (entry key j) >>= (behind c).put key) = .ok (behind c') := by
      rw [made]
      exact bind_eq_ok_iff.2 ⟨j, rfl, bind_eq_ok_iff.2 ⟨c', inserted, rfl⟩⟩
    dsimp only [completes]
    rw [List.map_cons, JointStore.loadFrom, keyed]
    dsimp only
    rw [put]
    exact later
  unfold load toValue
  rw [Value.itemsOrNone_list]
  exact filled

end JointStore

end Joinery
