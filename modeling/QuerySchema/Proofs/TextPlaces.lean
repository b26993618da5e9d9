import QuerySchema.Proofs.PointerReading

/-!
Replacing texts at some places of a JSON value.

A place is the list of keys that leads to it from the root. `Json.rewriteAt` puts another text for
each text that stands at one of the places that are asked for; arrays and all other values stay as
they are. `restart` is such a replacement: it gives a text another beginning.

What is proved:
  1. `descend_rewriteAt`: what is found at a place is what was found there before, rewritten from
     there on.
  2. `rewriteAt_of_never`: where no place is asked for, nothing changes.
  3. `restart_pointer`: a pointer that is restarted is the pointer from the other start.
-/

namespace QuerySchema.Json

variable {f : String → String} {spots : List String → Bool}

mutual
/-- A value with another text for each text at a place that is asked for. -/
def rewriteAt (f : String → String) (spots : List String → Bool) : Json → Json
  | .string text => .string (if spots [] then f text else text)
  | .object members => .object (rewriteMembers f spots members)
  | value => value
/-- The members of an object, each rewritten from its key on. -/
def rewriteMembers (f : String → String) (spots : List String → Bool) :
    List (String × Json) → List (String × Json)
  | [] => []
  | (name, value) :: rest =>
    (name, rewriteAt f (fun place => spots (name :: place)) value) :: rewriteMembers f spots rest
end

theorem rewriteMembers_eq_map (members : List (String × Json)) :
    rewriteMembers f spots members =
      members.map fun p => (p.1, rewriteAt f (fun place => spots (p.1 :: place)) p.2) := by
  induction members with
  | nil => rfl
  | cons p rest ih => rw [rewriteMembers, ih, List.map_cons]

theorem member?_rewriteAt (name : String) (value : Json) :
    (rewriteAt f spots value).member? name =
      (value.member? name).map (rewriteAt f fun place => spots (name :: place)) := by
  cases value with
  | object members =>
    rw [rewriteAt, member?, member?]
    induction members with
    | nil => rfl
    | cons p rest ih =>
      obtain ⟨key, found⟩ := p
      rw [rewriteMembers, Keyed.get?, Keyed.get?]
      by_cases hk : key = name
      · rw [if_pos hk, if_pos hk, hk, Option.map_some]
      · rw [if_neg hk, if_neg hk]
        exact ih
  | null => rfl
  | bool value => rfl
  | int value => rfl
  | float value => rfl
  | string text => rfl
  | array items => rfl

/-- What is found at a place is what was found there before, rewritten from there on. -/
theorem descend_rewriteAt (path : List String) (value : Json) :
    (rewriteAt f spots value).descend path =
      (value.descend path).map (rewriteAt f fun place => spots (path ++ place)) := by
  induction path generalizing value spots with
  | nil => rfl
  | cons name path ih =>
    rw [descend, descend, member?_rewriteAt]
    cases value.member? name with
    | none => rfl
    | some found => exact ih found

mutual
/-- Where no place is asked for, nothing changes. -/
theorem rewriteAt_of_never {spots : List String → Bool} (h : ∀ place, spots place = false) :
    ∀ value, rewriteAt f spots value = value
  | .string text => by rw [rewriteAt, h []]; rfl
  | .object members => by rw [rewriteAt, rewriteMembers_of_never h members]
  | .null => rfl
  | .bool _ => rfl
  | .int _ => rfl
  | .float _ => rfl
  | .array _ => rfl
theorem rewriteMembers_of_never {spots : List String → Bool} (h : ∀ place, spots place = false) :
    ∀ members, rewriteMembers f spots members = members
  | [] => rfl
  | (name, value) :: rest => by
    rw [rewriteMembers, rewriteMembers_of_never h rest,
      rewriteAt_of_never (fun place => h (name :: place)) value]
end

/-! ## Other beginnings -/

/-- A text with another beginning, if it has the one that is to be replaced. -/
def restart (old new text : String) : String :=
  if old.toList.isPrefixOf text.toList then
    String.ofList (new.toList ++ text.toList.drop old.toList.length)
  else text

/-- A pointer that is restarted is the pointer from the other start. -/
theorem restart_pointer (old new : String) (tokens : List String) :
    restart old new (pointer old tokens) = pointer new tokens := by
  have hprefix : old.toList.isPrefixOf (pointer old tokens).toList = true := by
    rw [toList_pointer, List.isPrefixOf_iff_prefix]
    exact List.prefix_append _ _
  have hchars : new.toList ++ (pointer old tokens).toList.drop old.toList.length =
      (pointer new tokens).toList := by
    rw [toList_pointer, toList_pointer, List.drop_left]
  rw [restart, if_pos hprefix, hchars, String.ofList_toList]

end QuerySchema.Json
