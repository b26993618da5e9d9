import QuerySchema.Draft06.Check

/-!
Which values a schema accepts.

`accepts` is the meaning of a schema, for the keywords that a generated document uses: a type, the
properties of an object, the names that have to be there, and what other members have to be. A truth
value accepts everything or nothing, and any other keyword, such as a default, says nothing. A
reference stands alone; what it means is a parameter, and `evaluate` gives it its meaning by looking
the pointer up in a document, for as many references in a row as its budget allows.

What is proved:
  1. `keywordsFit_type`, `keywordsFit_properties`, `keywordsFit_required`,
     `keywordsFit_additionalProperties`: a schema is read keyword by keyword.
  2. `membersFit_iff`: every member is held against the property of its name.
  3. `closedParts_iff`: an object schema without other members accepts exactly the objects whose
     members all fit the property of their name.
-/

namespace QuerySchema.Draft06

open Schema

/-- Whether a value is of a type. A number without a fraction counts as an integer. -/
def hasType : Primitive → Json → Bool
  | .array, .array _ => true
  | .boolean, .bool _ => true
  | .integer, value => isInteger value
  | .null, .null => true
  | .number, value => isNumber value
  | .object, .object _ => true
  | .string, .string _ => true
  | _, _ => false

/-- Whether a value is of the type of a name. -/
def hasTypeNamed (value : Json) : Json → Bool
  | .string word => ((Primitive.ofText? word).map fun type => hasType type value).getD false
  | _ => false

/-- Whether a value is of a type, or of one of several types. -/
def typeFits (types value : Json) : Bool :=
  match types with
  | .array names => names.any (hasTypeNamed value)
  | name => hasTypeNamed value name

/-- Whether an object has the members that have to be there. -/
def requiredFits (names value : Json) : Bool :=
  match names, value with
  | .array items, .object members => (textsOf items).all fun name => Keyed.contains members name
  | _, _ => true

/-- Whether every member of an object that has no property of its own passes a test. -/
def othersFit (known : List String) (test : Json → Bool) : Json → Bool
  | .object members => members.all fun member => known.contains member.1 || test member.2
  | _ => true

/-- The names of the properties that an object schema has. -/
def propertyNames (keywords : Keyed String Json) : List String :=
  match keywords.get? "properties" with
  | some (.object properties) => Keyed.keys properties
  | _ => []

/-- The pointer of a reference. -/
def pointer? (keywords : Keyed String Json) : Option String :=
  match keywords.get? "$ref" with
  | some (.string pointer) => some pointer
  | _ => none

mutual

/-- Whether a schema accepts a value, where references have a given meaning. -/
def accepts (follow : String → Json → Bool) : (schema value : Json) → Bool
  | .bool verdict, _ => verdict
  | .object keywords, value =>
    match pointer? keywords with
    -- what stands beside a reference is ignored
    | some pointer => follow pointer value
    | none => keywordsFit follow (propertyNames keywords) keywords value
  | _, _ => false

/-- Whether a value fits the keywords of a schema that has properties of known names. -/
def keywordsFit (follow : String → Json → Bool) (known : List String) :
    List (String × Json) → Json → Bool
  | [], _ => true
  | (word, argument) :: rest, value =>
    (if word = "type" then typeFits argument value
      else if word = "required" then requiredFits argument value
      else if word = "properties" then propertiesFit follow argument value
      else if word = "additionalProperties" then othersFit known (accepts follow argument) value
      else true) && keywordsFit follow known rest value

/-- Whether the members of a value fit the properties in an object. -/
def propertiesFit (follow : String → Json → Bool) : Json → Json → Bool
  | .object properties, value => membersFit follow properties value
  | _, _ => true

/-- Whether the members of a value fit the properties of a list. -/
def membersFit (follow : String → Json → Bool) : List (String × Json) → Json → Bool
  | [], _ => true
  | (name, schema) :: rest, value =>
    ((value.member? name).map (accepts follow schema)).getD true && membersFit follow rest value

end

/-- Whether a schema accepts a value, where references are looked up and a given number of them is
followed in a row. -/
def evaluate (lookup : String → Option Json) : (budget : Nat) → (schema value : Json) → Bool
  | 0 => accepts fun _ _ => false
  | budget + 1 => accepts fun pointer value =>
    ((lookup pointer).map fun schema => evaluate lookup budget schema value).getD false

variable {follow : String → Json → Bool} {known : List String} {value : Json}

/-- Evaluating means accepting under some meaning of references. -/
theorem evaluate_eq_accepts (lookup : String → Option Json) (budget : Nat) :
    ∃ follow, evaluate lookup budget = accepts follow := by
  cases budget with
  | zero => exact ⟨_, rfl⟩
  | succ budget => exact ⟨_, rfl⟩

/-! ## Keyword by keyword -/

theorem keywordsFit_nil : keywordsFit follow known [] value = true := by rw [keywordsFit]

/-- The keywords are gone through one by one. -/
theorem keywordsFit_cons (word : String) (argument : Json) (rest : List (String × Json)) :
    keywordsFit follow known ((word, argument) :: rest) value =
      ((if word = "type" then typeFits argument value
        else if word = "required" then requiredFits argument value
        else if word = "properties" then propertiesFit follow argument value
        else if word = "additionalProperties" then othersFit known (accepts follow argument) value
        else true) && keywordsFit follow known rest value) := by
  rw [keywordsFit]

theorem keywordsFit_type (argument : Json) (rest : List (String × Json)) :
    keywordsFit follow known (("type", argument) :: rest) value =
      (typeFits argument value && keywordsFit follow known rest value) := by
  rw [keywordsFit_cons, if_pos rfl]

theorem keywordsFit_required (argument : Json) (rest : List (String × Json)) :
    keywordsFit follow known (("required", argument) :: rest) value =
      (requiredFits argument value && keywordsFit follow known rest value) := by
  rw [keywordsFit_cons, if_neg (by decide), if_pos rfl]

theorem keywordsFit_properties (properties rest : List (String × Json)) :
    keywordsFit follow known (("properties", .object properties) :: rest) value =
      (membersFit follow properties value && keywordsFit follow known rest value) := by
  rw [keywordsFit_cons, if_neg (by decide), if_neg (by decide), if_pos rfl, propertiesFit]

theorem keywordsFit_additionalProperties (argument : Json) (rest : List (String × Json)) :
    keywordsFit follow known (("additionalProperties", argument) :: rest) value =
      (othersFit known (accepts follow argument) value && keywordsFit follow known rest value) := by
  rw [keywordsFit_cons, if_neg (by decide), if_neg (by decide), if_neg (by decide), if_pos rfl]

theorem keywordsFit_default (argument : Json) (rest : List (String × Json)) :
    keywordsFit follow known (("default", argument) :: rest) value =
      keywordsFit follow known rest value := by
  rw [keywordsFit_cons, if_neg (by decide), if_neg (by decide), if_neg (by decide), if_neg (by decide),
    Bool.true_and]

theorem accepts_reference (pointer : String) :
    accepts follow (.object [("$ref", .string pointer)]) value = follow pointer value := by
  rw [accepts]
  rfl

theorem accepts_empty : accepts follow (.object []) value = true := by
  rw [accepts]
  exact keywordsFit_nil

theorem accepts_false : accepts follow (.bool false) value = false := by rw [accepts]

/-! ## Closed objects -/

/-- Every member is held against the property of its name. -/
theorem membersFit_iff (properties members : List (String × Json)) :
    membersFit follow properties (.object members) = true ↔
      ∀ p ∈ properties, ∀ found, Keyed.get? members p.1 = some found →
        accepts follow p.2 found = true := by
  induction properties with
  | nil =>
    rw [membersFit]
    exact ⟨fun _ p hp => absurd hp List.not_mem_nil, fun _ => rfl⟩
  | cons p rest ih =>
    obtain ⟨name, schema⟩ := p
    rw [membersFit, Bool.and_eq_true, ih, List.forall_mem_cons, Json.member?]
    refine and_congr ?_ Iff.rfl
    cases Keyed.get? members name with
    | none => exact ⟨fun _ _ h => (nomatch h), fun _ => rfl⟩
    | some found => exact ⟨fun h _ he => Option.some.inj he ▸ h, fun h => h found rfl⟩

theorem typeFits_object : typeFits (.string "object") value = true ↔
    ∃ members, value = .object members := by
  cases value with
  | object members => exact ⟨fun _ => ⟨members, rfl⟩, fun _ => rfl⟩
  | null => exact ⟨fun h => (nomatch h), fun ⟨_, h⟩ => (nomatch h)⟩
  | bool _ => exact ⟨fun h => (nomatch h), fun ⟨_, h⟩ => (nomatch h)⟩
  | int _ => exact ⟨fun h => (nomatch h), fun ⟨_, h⟩ => (nomatch h)⟩
  | float _ => exact ⟨fun h => (nomatch h), fun ⟨_, h⟩ => (nomatch h)⟩
  | string _ => exact ⟨fun h => (nomatch h), fun ⟨_, h⟩ => (nomatch h)⟩
  | array _ => exact ⟨fun h => (nomatch h), fun ⟨_, h⟩ => (nomatch h)⟩

theorem othersFit_false (members : List (String × Json)) :
    othersFit known (accepts follow (.bool false)) (.object members) = true ↔
      ∀ key ∈ Keyed.keys members, key ∈ known := by
  rw [othersFit, List.all_eq_true, Keyed.keys, List.forall_mem_map]
  refine forall₂_congr fun member _ => ?_
  rw [accepts_false, Bool.or_false, List.contains_iff_mem]

theorem requiredFits_iff (required : List String) (members : List (String × Json)) :
    requiredFits (.array (required.map .string)) (.object members) = true ↔
      ∀ key ∈ required, key ∈ Keyed.keys members := by
  have htexts : textsOf (required.map .string) = required := by
    rw [textsOf, List.filterMap_map]
    exact List.filterMap_some
  rw [requiredFits, htexts, List.all_eq_true]
  exact forall₂_congr fun key _ => Keyed.contains_iff_mem_keys members key

/-- A value is an object without other members than some properties, fits them and has those that
are required. -/
def IsClosedObject (follow : String → Json → Bool) (properties : Keyed String Json)
    (required : List String) (value : Json) : Prop :=
  ∃ members : Keyed String Json, value = .object members ∧
    (∀ key ∈ members.keys, key ∈ properties.keys) ∧ (∀ key ∈ required, key ∈ members.keys) ∧
    ∀ p ∈ properties, ∀ found, members.get? p.1 = some found → accepts follow p.2 found = true

/-- The keywords of a closed object say that a value is one. -/
theorem closedParts_iff {properties : Keyed String Json} {required : List String} :
    typeFits (.string "object") value = true ∧
      othersFit properties.keys (accepts follow (.bool false)) value = true ∧
      requiredFits (.array (required.map .string)) value = true ∧
      membersFit follow properties value = true ↔ IsClosedObject follow properties required value := by
  rw [typeFits_object]
  constructor
  · rintro ⟨⟨members, rfl⟩, hothers, hrequired, hmembers⟩
    exact ⟨members, rfl, (othersFit_false members).mp hothers,
      (requiredFits_iff required members).mp hrequired,
      (membersFit_iff properties members).mp hmembers⟩
  · rintro ⟨members, rfl, hothers, hrequired, hmembers⟩
    exact ⟨⟨members, rfl⟩, (othersFit_false members).mpr hothers,
      (requiredFits_iff required members).mpr hrequired,
      (membersFit_iff properties members).mpr hmembers⟩

/-- A member is held against the schema that the reference of its property leads to. -/
example : evaluate (fun _ => some (.object [("type", .string "string")])) 1
    (.object [("properties", .object [("id", .object [("$ref", .string "#/id")])])])
    (.object [("id", .int 3)]) = false := by cbv

end QuerySchema.Draft06
