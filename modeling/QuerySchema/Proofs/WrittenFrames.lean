import QuerySchema.Json.Writer
import QuerySchema.Proofs.PointerReading

/-!
A JSON value with a place in it, and the text around that place.

A `Frame` is a value with one place left open, which is reached through members of objects; filling
it puts a value there. What is written for a filled frame is what is written for the value in the
place, between two texts that only depend on the frame: they are the same for every value, and the
first of them ends with the name of the member that the place is.

What is proved:
  1. `put_between`, `exists_put_eq`: a write under one key leaves the others where they stand.
  2. `descend_fill`: the value in the place is found by going down the path of the frame.
  3. `written_fill`: the text of a filled frame.
-/

namespace QuerySchema

namespace Keyed

variable {κ α : Type} [DecidableEq κ]

/-- The value that is written under a key has a place of its own, which does not depend on it. -/
theorem exists_put_eq (m : Keyed κ α) (key : κ) : ∃ front back, key ∉ keys front ∧
    ∀ value, m.put key value = front ++ (key, value) :: back := by
  induction m with
  | nil => exact ⟨[], [], List.not_mem_nil, fun value => rfl⟩
  | cons p rest ih =>
    obtain ⟨k, v⟩ := p
    by_cases hk : k = key
    · exact ⟨[], rest, List.not_mem_nil, fun value => by simp [put, hk]⟩
    · obtain ⟨front, back, hnew, hput⟩ := ih
      refine ⟨(k, v) :: front, back, ?_, fun value => by simp [put, hk, hput]⟩
      rw [keys_cons, List.mem_cons, not_or]
      exact ⟨fun he => hk he.symm, hnew⟩

/-- A write under another key leaves a key where it stands. -/
theorem put_between (front back : Keyed κ α) {key other : κ} (hne : other ≠ key)
    (hnew : key ∉ keys front) (written : α) : ∃ front' back', key ∉ keys front' ∧
      ∀ value, (front ++ (key, value) :: back).put other written =
        front' ++ (key, value) :: back' := by
  induction front with
  | nil => exact ⟨[], back.put other written, List.not_mem_nil, fun value => by
      simp [put, hne.symm]⟩
  | cons p rest ih =>
    obtain ⟨k, v⟩ := p
    rw [keys_cons, List.mem_cons, not_or] at hnew
    by_cases hk : k = other
    · refine ⟨(other, written) :: rest, back, ?_, fun value => by simp [put, hk]⟩
      rw [keys_cons, List.mem_cons, not_or]
      exact ⟨fun he => hne he.symm, hnew.2⟩
    · obtain ⟨front', back', hnew', hput⟩ := ih hnew.2
      refine ⟨(k, v) :: front', back', ?_, fun value => by simp [put, hk, hput]⟩
      rw [keys_cons, List.mem_cons, not_or]
      exact ⟨hnew.1, hnew'⟩

theorem get?_between {front : Keyed κ α} {key : κ} (hnew : key ∉ keys front) (value : α)
    (back : Keyed κ α) : get? (front ++ (key, value) :: back) key = some value := by
  induction front with
  | nil => simp [get?]
  | cons p rest ih =>
    rw [keys_cons, List.mem_cons, not_or] at hnew
    have hne : p.1 ≠ key := fun he => hnew.1 he.symm
    simp [get?, hne, ih hnew.2]

end Keyed

namespace Json

/-- A JSON value with a place in it. The place is the value itself, or it is in a member of an
object whose name is not that of an earlier member. -/
inductive Frame where
  | hole
  | member (front : Keyed String Json) (name : String) (hnew : name ∉ front.keys) (inner : Frame)
    (back : Keyed String Json)

namespace Frame

/-- The frame with a value in its place. -/
def fill : Frame → Json → Json
  | hole, value => value
  | member front name _ inner back, value => .object (front ++ (name, inner.fill value) :: back)

/-- The names of the members that the place is in, outermost first. -/
def path : Frame → List String
  | hole => []
  | member _ name _ inner _ => name :: inner.path

/-- How many objects the place is in. -/
def depth : Frame → Nat
  | hole => 0
  | member _ _ _ inner _ => inner.depth + 1

/-- What is written right in front of the place: the name of the member that it is. -/
def caption (frame : Frame) : List Char :=
  (frame.path.getLast?.map fun name => stringText name ++ [':', ' ']).getD []

theorem descend_fill (frame : Frame) (value : Json) :
    descend frame.path (frame.fill value) = some value := by
  induction frame with
  | hole => rfl
  | member front name hnew inner back ih =>
    show (Keyed.get? (front ++ (name, inner.fill value) :: back) name).bind _ = _
    rw [Keyed.get?_between hnew]
    exact ih

end Frame

/-! ## The text around a place -/

theorem writtenMembers_append (style : Style) (level : Nat) (members more : Keyed String Json) :
    writtenMembers style level (members ++ more) =
      writtenMembers style level members ++ writtenMembers style level more := by
  induction members with
  | nil => rfl
  | cons p rest ih =>
    obtain ⟨name, value⟩ := p
    simp only [List.cons_append, writtenMembers, ih, List.append_assoc]

/-- What is written around one member of an object. -/
theorem written_member (style : Style) (level : Nat) (front : Keyed String Json) (name : String)
    (back : Keyed String Json) : ∃ before after, ∀ value,
      written style level (.object (front ++ (name, value) :: back)) =
        before ++ (stringText name ++ [':', ' '] ++ written style (level + 1) value) ++ after := by
  cases front with
  | nil =>
    refine ⟨'\x7b' :: style.lineBreak (level + 1),
      writtenMembers style (level + 1) back ++ style.lineBreak level ++ ['\x7d'], fun value => ?_⟩
    simp [written]
  | cons p rest =>
    obtain ⟨first, found⟩ := p
    refine ⟨'\x7b' :: (style.lineBreak (level + 1) ++ stringText first ++ [':', ' '] ++
        written style (level + 1) found ++ writtenMembers style (level + 1) rest ++
        style.separator ++ style.lineBreak (level + 1)),
      writtenMembers style (level + 1) back ++ style.lineBreak level ++ ['\x7d'], fun value => ?_⟩
    simp [written, writtenMembers_append, writtenMembers]

/-- The text of a filled frame is that of the value in its place behind its caption, between two
texts that are the same for every value. -/
theorem Frame.written_fill (frame : Frame) (style : Style) (level : Nat) :
    ∃ before after, ∀ value, written style level (frame.fill value) =
      before ++ (frame.caption ++ written style (level + frame.depth) value) ++ after := by
  induction frame generalizing level with
  | hole => exact ⟨[], [], fun value => by simp [fill, caption, path, depth]⟩
  | member front name hnew inner back ih =>
    obtain ⟨before, after, hmember⟩ := written_member style level front name back
    cases inner with
    | hole => exact ⟨before, after, fun value => by simp [fill, hmember, caption, path, depth]⟩
    | member front' name' hnew' inner back' =>
      -- the place is further inside, so its caption is that of the inner frame
      obtain ⟨before', after', hinner⟩ := ih (level + 1)
      refine ⟨before ++ (stringText name ++ [':', ' ']) ++ before', after' ++ after,
        fun value => ?_⟩
      rw [fill, hmember, hinner]
      simp only [caption, path, List.getLast?_cons_cons, depth, Nat.add_assoc, Nat.add_comm 1,
        List.append_assoc]

end Json

end QuerySchema
