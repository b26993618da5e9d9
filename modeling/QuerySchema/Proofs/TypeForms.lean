import QuerySchema.Proofs.RegistrationHistory
import QuerySchema.Proofs.ScalarInfluence

/-!
When two types have the same schema.

The schema of a type is that of the name at its core, inside as many arrays as the type has lists;
whatever excludes null leaves no trace in it. A mapped scalar may itself be mapped to arrays or
objects, but its schema says nothing of their items or members, and a reference is nothing but a
pointer. So the lists can be counted in the schema, and the core can be read off what is inside.

What is proved:
  1. `typeMembers_eq_listed`: the schema of a type, by its lists and the name at its core.
  2. `typeMembers_withNull`: what excludes null can be left out, wherever it stands.
  3. `listed_inj`: arrays around the schema of a name determine their number and what is said of the
     name, even when the order of members is disregarded.
  4. `typeMembers_eq_iff`: two types have the same schema just when they have as many lists and the
     same core.
-/

namespace QuerySchema

/-! ## Values without an order of members -/

/-- Two values are the same but for the order in which the members of objects stand. -/
inductive Json.SameUpToOrder : Json → Json → Prop where
  | refl (value : Json) : SameUpToOrder value value
  | array {items others : List Json} (h : List.Forall₂ SameUpToOrder items others) :
    SameUpToOrder (.array items) (.array others)
  | object {members others : Keyed String Json}
    (h : ∀ key, Option.Rel SameUpToOrder (Keyed.get? members key) (Keyed.get? others key)) :
    SameUpToOrder (.object members) (.object others)

namespace Json.SameUpToOrder

theorem string_inj {text other : String} (h : SameUpToOrder (.string text) (.string other)) :
    text = other := by
  cases h
  rfl

/-- The values under a name are the same, or there are none. -/
theorem get? {members others : Keyed String Json}
    (h : SameUpToOrder (.object members) (.object others)) (key : String) :
    Option.Rel SameUpToOrder (Keyed.get? members key) (Keyed.get? others key) := by
  cases h with
  | refl =>
    cases Keyed.get? members key with
    | none => exact .none
    | some value => exact .some (.refl value)
  | object h => exact h key

end Json.SameUpToOrder

/-! ## The form of a type -/

namespace GraphQL

/-- The number of lists in a type. -/
def TypeRef.listDepth : TypeRef → Nat
  | .list item => item.listDepth + 1
  | .nonNull inner => inner.listDepth
  | .named _ | .flawed _ => 0

/-- A type with null allowed everywhere. -/
def TypeRef.withNull : TypeRef → TypeRef
  | .list item => .list item.withNull
  | .nonNull inner => inner.withNull
  | type => type

end GraphQL

namespace Schema

open GraphQL

variable {scalars : Scalars}

/-- Arrays in arrays, and in the innermost of them what has the given members. -/
def listed : Nat → Keyed String Json → Keyed String Json
  | 0, members => members
  | depth + 1, members => [("type", .string "array"), ("items", .object (listed depth members))]

/-- The schema of a type is that of the name at its core, inside an array for each list. -/
theorem typeMembers_eq_listed {type : TypeRef} {name : String} (h : type.coreName? = some name) :
    typeMembers scalars type = .ok (listed type.listDepth (namedMembers scalars name)) := by
  induction type with
  | named label =>
    cases label with
    | text text =>
      obtain rfl := Option.some.inj h
      exact typeMembers_text scalars text
    | truth value => cases h
    | nothing => cases h
  | list item ih =>
    rw [typeMembers, ih h]
    rfl
  | nonNull inner ih => exact ih h
  | flawed flaw => cases h

/-- What excludes null can be left out, wherever it stands. -/
theorem typeMembers_withNull (scalars : Scalars) (type : TypeRef) :
    typeMembers scalars type.withNull = typeMembers scalars type := by
  induction type with
  | named label => rfl
  | list item ih => rw [TypeRef.withNull, typeMembers, typeMembers, ih]
  | nonNull inner ih => exact ih
  | flawed flaw => rfl

theorem typeMembers_congr {type other : TypeRef} (h : type.withNull = other.withNull) :
    typeMembers scalars type = typeMembers scalars other := by
  rw [← typeMembers_withNull, h, typeMembers_withNull]

/-! ## What can be read off a schema -/

/-- Two names stand for the same values: both are mapped to one JSON type, or neither is mapped and
they are one name. -/
def SameCore (scalars : Scalars) (name other : String) : Prop :=
  (∃ type, scalars.get? name = some type ∧ scalars.get? other = some type) ∨
    (scalars.get? name = none ∧ scalars.get? other = none ∧ name = other)

theorem namedMembers_congr {name other : String} (h : SameCore scalars name other) :
    namedMembers scalars name = namedMembers scalars other := by
  rcases h with ⟨type, hname, hother⟩ | ⟨-, -, rfl⟩
  · rw [namedMembers, namedMembers, hname, hother]
  · rfl

/-- The schema of a name is that of no array with items. -/
theorem namedMembers_items (scalars : Scalars) (name : String) :
    Keyed.get? (namedMembers scalars name) "items" = none := by
  unfold namedMembers
  split <;> simp [Keyed.get?]

/-- What is said of a name shows what it stands for. -/
theorem sameCore_of_namedMembers {name other : String}
    (h : (Json.object (namedMembers scalars name)).SameUpToOrder
      (.object (namedMembers scalars other))) : SameCore scalars name other := by
  have htype := h.get? "type"
  have href := h.get? "$ref"
  unfold SameCore
  unfold namedMembers at htype href
  cases hname : scalars.get? name with
  | some type =>
    cases hother : scalars.get? other with
    | some type' =>
      simp only [hname, hother, Keyed.get?, if_true, Option.rel_some_some] at htype
      have hread := congrArg Primitive.ofText? htype.string_inj
      rw [Primitive.ofText?_text, Primitive.ofText?_text] at hread
      exact .inl ⟨type, rfl, hread.symm⟩
    | none => simp [hname, hother, Keyed.get?] at htype
  | none =>
    cases hother : scalars.get? other with
    | some type => simp [hname, hother, Keyed.get?] at htype
    | none =>
      simp only [hname, hother, Keyed.get?, if_true, Option.rel_some_some] at href
      have htokens := Json.pointer_injective _ href.string_inj
      exact .inr ⟨rfl, rfl, (List.cons.inj htokens).1⟩

/-- Arrays around the schema of a name can be counted, and what is said of the name can be read. -/
theorem listed_inj {name other : String} {depth depth' : Nat}
    (h : (Json.object (listed depth (namedMembers scalars name))).SameUpToOrder
      (.object (listed depth' (namedMembers scalars other)))) :
    depth = depth' ∧ SameCore scalars name other := by
  induction depth generalizing depth' with
  | zero =>
    cases depth' with
    | zero => exact ⟨rfl, sameCore_of_namedMembers h⟩
    | succ depth' =>
      have hitems := h.get? "items"
      rw [listed, namedMembers_items] at hitems
      cases hitems
  | succ depth ih =>
    have hitems := h.get? "items"
    cases depth' with
    | zero =>
      rw [listed, listed, namedMembers_items] at hitems
      cases hitems
    | succ depth' =>
      have hinner : (Json.object (listed depth (namedMembers scalars name))).SameUpToOrder
          (.object (listed depth' (namedMembers scalars other))) := by
        simpa [listed, Keyed.get?] using hitems
      obtain ⟨rfl, hcore⟩ := ih hinner
      exact ⟨rfl, hcore⟩

/-! ## Equal schemas -/

/-- Every type with a name at its core has a schema. Two of them have the same one just when they
have as many lists and their names stand for the same values, and no less is needed when the order
of members is disregarded. What excludes null plays no part: wherever it is added or left out, the
schema stays the same. -/
theorem typeMembers_eq_iff (scalars : Scalars) {type other : TypeRef} {name otherName : String}
    (hname : type.coreName? = some name) (hother : other.coreName? = some otherName) :
    ∃ members others, typeMembers scalars type = .ok members ∧
      typeMembers scalars other = .ok others ∧
      (members = others ↔ type.listDepth = other.listDepth ∧ SameCore scalars name otherName) ∧
      ((Json.object members).SameUpToOrder (.object others) ↔ members = others) ∧
      ∀ variant : TypeRef, variant.withNull = type.withNull →
        typeMembers scalars variant = .ok members := by
  have hmembers : typeMembers scalars type =
      .ok (listed type.listDepth (namedMembers scalars name)) := typeMembers_eq_listed hname
  have hlisted : type.listDepth = other.listDepth ∧ SameCore scalars name otherName →
      listed type.listDepth (namedMembers scalars name) =
        listed other.listDepth (namedMembers scalars otherName) :=
    fun ⟨hdepth, hcore⟩ => by rw [hdepth, namedMembers_congr hcore]
  refine ⟨_, _, hmembers, typeMembers_eq_listed hother, ⟨fun he => ?_, hlisted⟩,
    ⟨fun hsame => hlisted (listed_inj hsame), fun he => he ▸ .refl _⟩,
    fun variant hvariant => (typeMembers_congr hvariant).trans hmembers⟩
  exact listed_inj (he ▸ .refl _)

/-- Scalars of which two are mapped to arrays. -/
def arrayScalars : Scalars := ⟨[("Row", .array), ("Column", .array)]⟩

/-- Rows and columns look the same, with or without null, but neither looks like a list of rows. A
name with a slash keeps apart from that with the slash escaped. -/
theorem typeMembers_eq_iff_arrayScalars :
    ∃ row : Keyed String Json,
      typeMembers arrayScalars (.named "Row") = .ok row ∧
      typeMembers arrayScalars (.nonNull (.named "Column")) = .ok row ∧
      typeMembers arrayScalars (.list (.named "Row")) ≠ .ok row ∧
      typeMembers arrayScalars (.named "a/b") ≠ typeMembers arrayScalars (.named "a~1b") := by
  have hnamed (name : String) : TypeRef.coreName? (.named name) = some name := rfl
  have hnonNull : TypeRef.coreName? (.nonNull (.named "Column")) = some "Column" := rfl
  have hrows : TypeRef.coreName? (.list (.named "Row")) = some "Row" := rfl
  obtain ⟨row, column, hrow, hcolumn, hsame, -, -⟩ :=
    typeMembers_eq_iff arrayScalars (hnamed "Row") hnonNull
  obtain ⟨_, list, hrow', hlist, hapart, -, -⟩ :=
    typeMembers_eq_iff arrayScalars (hnamed "Row") hrows
  obtain ⟨slashed, escaped, hslashed, hescaped, hnames, -, -⟩ :=
    typeMembers_eq_iff arrayScalars (hnamed "a/b") (hnamed "a~1b")
  obtain rfl := Except.ok.inj (hrow.symm.trans hrow')
  obtain rfl := hsame.mpr ⟨rfl, .inl ⟨.array, rfl, rfl⟩⟩
  refine ⟨row, hrow, hcolumn, fun he => ?_, fun he => ?_⟩
  · rw [hlist] at he
    exact absurd (hapart.mp (Except.ok.inj he).symm).1 (by decide)
  · rw [hslashed, hescaped] at he
    rcases (hnames.mp (Except.ok.inj he)).2 with ⟨type, hmapped, -⟩ | ⟨-, -, hname⟩
    · cases hmapped
    · exact absurd hname (by decide)

end Schema

end QuerySchema
