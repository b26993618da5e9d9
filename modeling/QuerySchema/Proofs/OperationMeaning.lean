import QuerySchema.Proofs.ArgumentReferences
import QuerySchema.Proofs.PassedArguments
import QuerySchema.Proofs.SchemaEvaluation

/-!
What the entry of an operation means.

The entry accepts the values that fit the operation. What fits is said here of the tree alone, by
going through it: an object with a member for the variables and one for what is selected, each of
which may be missing. When a variable is declared again, its last named declaration counts; when a
field is selected again, its last selection; when an argument is passed again, the last time that it
is bound to a variable. Fragments and literals ask for nothing and allow nothing.

What is proved:
  1. `accepts_inputsSchema`, `accepts_passedObject`, `accepts_fieldObject`, `accepts_selectedObject`,
     `accepts_operationObject`: every object schema of an entry is closed.
  2. `passedSchema_accepts`, `addSelections_extends`: what the arguments of a field and the
     selections of a set ask of a value, by induction on the list and into what a field selects.
  3. `entry_accepts_iff`: in its document, the entry of an operation accepts exactly the values that
     fit the operation.
-/

namespace QuerySchema.GraphQL

/-- The names of the fields that a selection set selects itself. -/
def fieldNames : List Selection → List Label
  | [] => []
  | .field _ name _ _ _ :: rest => name :: fieldNames rest
  | .fragmentSpread _ _ :: rest => fieldNames rest
  | .inlineFragment _ _ _ :: rest => fieldNames rest
  | .flawed _ :: rest => fieldNames rest

end QuerySchema.GraphQL

namespace QuerySchema.Schema

open Draft06 GraphQL

/-! ## What fits an operation -/

/-- The type that is registered for a name. -/
def registered? (scalars : Scalars) : Label → Option Primitive
  | .text name => scalars.get? name
  | _ => none

/-- A value is of the type that is registered for a name, if one is. -/
def TypeAdmits (scalars : Scalars) (typeName : Label) (value : Json) : Prop :=
  ∀ type, registered? scalars typeName = some type → hasType type value = true

/-- A value may be passed for a variable. -/
def VariableAdmits (scalars : Scalars) (declarations : List VariableDefinition)
    (variableName : Label) (value : Json) : Prop :=
  ∀ typeName, declaredType? declarations (variableKey variableName) = some typeName →
    TypeAdmits scalars typeName value

/-- A value fits the variables of an operation. -/
def VariablesFit (scalars : Scalars) : Option (List VariableDefinition) → Json → Prop
  | none, _ => True
  | some declarations, value => declarations ≠ [] ∧ ∃ members : Keyed String Json,
      value = .object members ∧
      (∀ key ∈ members.keys, ∃ d ∈ declarations,
        variableKey d.name = key ∧ d.type.typeName?.isSome = true) ∧
      (∀ key, IsDemanded declarations key → key ∈ members.keys) ∧
      ∀ key typeName, declaredType? declarations key = some typeName →
        ∀ found, members.get? key = some found → TypeAdmits scalars typeName found

/-- An object has at most two members, each of which fits. -/
def TwoPartsFit (first second : String) (firstFits secondFits : Json → Prop) (value : Json) : Prop :=
  ∃ members : Keyed String Json, value = .object members ∧
    (∀ key ∈ members.keys, key = first ∨ key = second) ∧
    (∀ found, members.get? first = some found → firstFits found) ∧
    ∀ found, members.get? second = some found → secondFits found

variable (admits : Label → Json → Prop)

/-- A value fits the arguments of a field. -/
def ArgumentsFit (arguments : List Argument) (value : Json) : Prop :=
  arguments ≠ [] → ∃ members : Keyed String Json, value = .object members ∧
    (∀ key ∈ members.keys, ∃ argument ∈ arguments,
      argument.name.key = key ∧ argument.variable?.isSome = true) ∧
    ∀ name variableName, lastBinding? arguments name = some variableName →
      ∀ found, members.get? name.key = some found → admits variableName found

/-- A value fits a field, given what fits its selection set if it has one. -/
def FieldFits (arguments : List Argument) (selected : Option (Json → Prop)) (value : Json) : Prop :=
  selected.isNone = true ∧ arguments = [] ∨
    TwoPartsFit "selections" "arguments" (fun found => ∀ fits, selected = some fits → fits found)
      (ArgumentsFit admits arguments) value

/-- An object has no members but those of some fields, and they fit together. -/
def FieldsFit (names : List Label) (fit : Keyed String Json → Prop) (value : Json) : Prop :=
  ∃ members : Keyed String Json, value = .object members ∧
    (∀ key ∈ members.keys, ∃ name ∈ names, name.key = key) ∧ fit members

/-- The members of an object fit the fields of a selection set. A field that is selected again later
asks for nothing. -/
def MembersFit : List Selection → Keyed String Json → Prop
  | [], _ => True
  | .field _ name arguments _ none :: rest, members =>
    (name ∉ fieldNames rest → ∀ found, members.get? name.key = some found →
      FieldFits admits arguments none found) ∧ MembersFit rest members
  | .field _ name arguments _ (some inner) :: rest, members =>
    (name ∉ fieldNames rest → ∀ found, members.get? name.key = some found →
      FieldFits admits arguments (some (FieldsFit (fieldNames inner) (MembersFit inner))) found) ∧
      MembersFit rest members
  | .fragmentSpread _ _ :: rest, members => MembersFit rest members
  | .inlineFragment _ _ _ :: rest, members => MembersFit rest members
  | .flawed _ :: rest, members => MembersFit rest members

/-- A value fits a selection set. -/
def SelectionsFit (selections : List Selection) (value : Json) : Prop :=
  FieldsFit (fieldNames selections) (MembersFit admits selections) value

/-- A value fits an operation. -/
def OperationFits (scalars : Scalars) (operation : Operation) (value : Json) : Prop :=
  TwoPartsFit "variables" "selections" (VariablesFit scalars operation.declarations)
    (SelectionsFit (VariableAdmits scalars (operation.declarations.getD []))
      (operation.selectionSet.getD [])) value

variable {admits : Label → Json → Prop} {follow : String → Json → Bool} {value : Json}

/-! ## The object schemas of an entry -/

theorem requiredFits_nil : requiredFits (.array []) value = true := by
  cases value <;> rfl

theorem accepts_selectedObject (properties : Keyed Label Json) :
    accepts follow (selectedObject properties) value = true ↔
      IsClosedObject follow (properties.rename Label.key) [] value := by
  rw [selectedObject, labelled, accepts, ← closedParts_iff]
  show keywordsFit follow (Keyed.keys _) _ value = true ↔ _
  rw [keywordsFit_type, keywordsFit_additionalProperties, keywordsFit_properties, keywordsFit_nil,
    List.map_nil, requiredFits_nil]
  simp only [Bool.and_eq_true, and_true, true_and]

theorem accepts_passedObject (properties : Keyed Label Json) :
    accepts follow (passedObject properties) value = true ↔
      IsClosedObject follow (properties.rename Label.key) [] value := by
  rw [passedObject, labelled, accepts, ← closedParts_iff]
  show keywordsFit follow (Keyed.keys _) _ value = true ↔ _
  rw [keywordsFit_type, keywordsFit_properties, keywordsFit_required,
    keywordsFit_additionalProperties, keywordsFit_nil, List.map_nil, requiredFits_nil]
  simp only [Bool.and_eq_true, and_true, true_and]
  exact and_congr_right fun _ => and_comm

theorem accepts_inputsSchema (inputs : Inputs) :
    accepts follow inputs.schema value = true ↔
      IsClosedObject follow inputs.properties inputs.required value := by
  rw [Inputs.schema, accepts, ← closedParts_iff]
  show keywordsFit follow (Keyed.keys _) _ value = true ↔ _
  rw [keywordsFit_type, keywordsFit_properties, keywordsFit_required,
    keywordsFit_additionalProperties, keywordsFit_nil]
  simp only [Bool.and_eq_true, and_true]
  constructor
  · rintro ⟨htype, hmembers, hrequired, hothers⟩
    exact ⟨htype, hothers, hrequired, hmembers⟩
  · rintro ⟨htype, hothers, hrequired, hmembers⟩
    exact ⟨htype, hmembers, hrequired, hothers⟩

/-- An object that is closed over two properties has at most those two members. -/
theorem isClosedObject_pair {first second : String} {s t : Json} :
    IsClosedObject follow [(first, s), (second, t)] [] value ↔
      TwoPartsFit first second (fun found => accepts follow s found = true)
        (fun found => accepts follow t found = true) value := by
  unfold IsClosedObject TwoPartsFit
  simp only [Keyed.keys_cons, Keyed.keys_nil, List.mem_cons, List.not_mem_nil, or_false,
    forall_eq_or_imp, forall_eq, false_implies, implies_true, true_and]

theorem accepts_operationObject (inputs selections : Json) :
    accepts follow (operationObject inputs selections) value = true ↔
      TwoPartsFit "variables" "selections" (fun found => accepts follow inputs found = true)
        (fun found => accepts follow selections found = true) value := by
  rw [operationObject, accepts, ← isClosedObject_pair, ← closedParts_iff]
  show keywordsFit follow (Keyed.keys _) _ value = true ↔ _
  rw [keywordsFit_type, keywordsFit_additionalProperties, keywordsFit_properties, keywordsFit_nil,
    List.map_nil, requiredFits_nil]
  simp only [Bool.and_eq_true, and_true, true_and]

theorem accepts_fieldObject (selections arguments : Json) :
    accepts follow (fieldObject selections arguments) value = true ↔
      TwoPartsFit "selections" "arguments" (fun found => accepts follow selections found = true)
        (fun found => accepts follow arguments found = true) value := by
  rw [fieldObject, accepts, ← isClosedObject_pair, ← closedParts_iff]
  show keywordsFit follow (Keyed.keys _) _ value = true ↔ _
  rw [keywordsFit_type, keywordsFit_additionalProperties, keywordsFit_required,
    keywordsFit_properties, keywordsFit_nil, List.map_nil, requiredFits_nil]
  simp only [Bool.and_eq_true, and_true, true_and]

theorem twoPartsFit_congr {first second : String} {p p' q q' : Json → Prop}
    (hp : ∀ found, p found ↔ p' found) (hq : ∀ found, q found ↔ q' found) :
    TwoPartsFit first second p q value ↔ TwoPartsFit first second p' q' value := by
  simp only [TwoPartsFit, hp, hq]

/-- A member of an object is accepted under a property. -/
def IsAccepted (follow : String → Json → Bool) (members : Keyed String Json) (p : Label × Json) : Prop :=
  ∀ found, members.get? p.1.key = some found → accepts follow p.2 found = true

/-- An object that is closed over labelled properties has only members of their names. -/
theorem isClosedObject_rename (properties : Keyed Label Json) :
    IsClosedObject follow (properties.rename Label.key) [] value ↔
      FieldsFit properties.keys (fun members => ∀ p ∈ properties, IsAccepted follow members p) value := by
  unfold IsClosedObject FieldsFit IsAccepted
  have hkeys (key : String) : key ∈ Keyed.keys (properties.map fun p => (p.1.key, p.2)) ↔
      ∃ name ∈ properties.keys, name.key = key := by
    simp [Keyed.keys]
  simp only [Keyed.rename, hkeys, List.not_mem_nil, false_implies, implies_true, true_and,
    List.forall_mem_map]

/-! ## Arguments -/

/-- In a scope, references to variables and arguments without a reference mean what is admitted. -/
structure Means (scope : Scope) (follow : String → Json → Bool) (admits : Label → Json → Prop) :
    Prop where
  bound : ∀ variableName pointer, variableKey variableName ∈ scope.declared →
    variablePointer scope variableName = .ok pointer →
    ∀ value, follow pointer value = true ↔ admits variableName value
  free : ∀ variableName, variableKey variableName ∉ scope.declared →
    ∀ value, admits variableName value

variable {scope : Scope} {path : List Label} {reports : List Diagnostic}

/-- A schema accepts what is admitted for a variable. -/
def IsSchemaFor (follow : String → Json → Bool) (admits : Label → Json → Prop)
    (variableName : Label) (schema : Json) : Prop :=
  ∀ value, accepts follow schema value = true ↔ admits variableName value

/-- The schema of an argument that is bound to a variable accepts what is admitted for it. -/
theorem isSchemaFor_of_isBoundSchema (hm : Means scope follow admits) {variableName : Label}
    {schema : Json} (h : IsBoundSchema scope variableName schema) :
    IsSchemaFor follow admits variableName schema := by
  intro value
  unfold IsBoundSchema at h
  split at h
  · next hd =>
    obtain ⟨pointer, hp, rfl⟩ := h
    rw [reference, accepts_reference, hm.bound variableName pointer hd hp]
  · next hd =>
    rw [h, accepts_empty]
    exact ⟨fun _ => hm.free variableName hd value, fun _ => rfl⟩

/-- The schema of the arguments of a field accepts what fits them. -/
theorem passedSchema_accepts (hm : Means scope follow admits) {arguments : List Argument}
    {schema : Json} (h : passedSchema scope path arguments = ⟨reports, .ok schema⟩) (value : Json) :
    accepts follow schema value = true ↔ ArgumentsFit admits arguments value := by
  rcases passedSchema_eq_ok h with ⟨rfl, rfl, -⟩ | ⟨hne, properties, rfl, hbuild⟩
  · rw [accepts_empty]
    exact ⟨fun _ h => absurd rfl h, fun _ => rfl⟩
  · have hget (name : Label) : Outcome.Decided (IsSchemaFor follow admits)
        (lastBinding? arguments name) none (properties.get? name) :=
      (argumentProperties_get? hbuild name).mono fun _ _ => isSchemaFor_of_isBoundSchema hm
    have hn : properties.keys.Nodup := nodup_keys_argumentProperties hbuild
    have hkeys (key : String) : (∃ name ∈ properties.keys, name.key = key) ↔
        ∃ argument ∈ arguments, argument.name.key = key ∧ argument.variable?.isSome = true := by
      simp only [Outcome.mem_keys_iff_of_decided (hget _), lastBinding?, Outcome.lastGiven_isSome]
      constructor
      · rintro ⟨name, ⟨argument, ha, rfl, hv⟩, hk⟩
        exact ⟨argument, ha, hk, hv⟩
      · rintro ⟨argument, ha, hk, hv⟩
        exact ⟨argument.name, ⟨argument, ha, rfl, hv⟩, hk⟩
    have hvalues (members : Keyed String Json) :
        (∀ p ∈ properties, IsAccepted follow members p) ↔
          ∀ name variableName, lastBinding? arguments name = some variableName →
            ∀ found, members.get? name.key = some found → admits variableName found :=
      Outcome.forall_mem_iff_of_decided hn hget
        (fun name schema => IsAccepted follow members (name, schema))
        (fun name variableName => ∀ found, members.get? name.key = some found →
          admits variableName found)
        fun name variableName schema hschema => forall₂_congr fun found _ => hschema found
    rw [accepts_passedObject, isClosedObject_rename]
    unfold FieldsFit ArgumentsFit
    simp only [hkeys, hvalues]
    exact ⟨fun h _ => h, fun h => h hne⟩

/-! ## Selections -/

/-- The schema of a field accepts what fits it, given that of what it selects. -/
theorem fieldSchema_accepts (hm : Means scope follow admits) {arguments : List Argument}
    {sub : Option (List Selection)} {schema : Json}
    (hsub : ∀ inner r selected, sub = some inner →
      addSelections scope path [] inner = ⟨r, .ok selected⟩ →
      ∀ value, accepts follow (selectedObject selected) value = true ↔ SelectionsFit admits inner value)
    (h : fieldSchema scope path arguments sub = ⟨reports, .ok schema⟩) (value : Json) :
    accepts follow schema value = true ↔
      FieldFits admits arguments (sub.map (SelectionsFit admits)) value := by
  unfold FieldFits
  rw [Option.isNone_map]
  rcases fieldSchema_eq_ok h with ⟨rfl, rfl, rfl, -⟩ | ⟨hne, selected, passed, r₁, r₂, hs, hp, rfl, -⟩
  · rw [accepts_empty]
    exact ⟨fun _ => .inl ⟨rfl, rfl⟩, fun _ => rfl⟩
  · rw [Option.isNone_iff_eq_none, or_iff_right hne, accepts_fieldObject]
    refine twoPartsFit_congr (fun found => ?_) (passedSchema_accepts hm hp)
    cases sub with
    | none =>
      obtain ⟨-, rfl⟩ := Reported.pure_eq_ok.mp hs
      rw [accepts_empty]
      exact ⟨fun _ _ he => (nomatch he), fun _ => rfl⟩
    | some inner =>
      obtain ⟨properties, hbuild, rfl⟩ := Reported.map_eq_ok.mp hs
      rw [hsub inner r₁ properties rfl hbuild found, Option.map_some]
      exact ⟨fun h fits he => Option.some.inj he ▸ h, fun h => h _ rfl⟩

/-- Whether the members of an object are accepted under some properties, apart from those of given
names. -/
def AreAccepted (follow : String → Json → Bool) (members : Keyed String Json)
    (properties : Keyed Label Json) (except : List Label) : Prop :=
  ∀ p ∈ properties, p.1 ∉ except → IsAccepted follow members p

theorem areAccepted_put {properties : Keyed Label Json} (hn : properties.keys.Nodup)
    {members : Keyed String Json} {name : Label} {schema : Json} {later : List Label} :
    AreAccepted follow members (properties.put name schema) later ↔
      (name ∉ later → IsAccepted follow members (name, schema)) ∧
        AreAccepted follow members properties (name :: later) := by
  constructor
  · intro h
    refine ⟨h (name, schema) ((Keyed.mem_put hn).mpr (.inl ⟨rfl, rfl⟩)), fun p hp hnot => ?_⟩
    rw [List.mem_cons, not_or] at hnot
    exact h p ((Keyed.mem_put hn).mpr (.inr ⟨hnot.1, hp⟩)) hnot.2
  · rintro ⟨hname, hrest⟩ p hp hnot
    rcases (Keyed.mem_put hn).mp hp with ⟨rfl, rfl⟩ | ⟨hne, hp⟩
    · exact hname hnot
    · exact hrest p hp fun hmem => (List.mem_cons.mp hmem).elim hne hnot

theorem membersFit_field {alias? : Option (Readable Label)} {name : Label}
    {arguments : List Argument} {directives : List Directive} {sub : Option (List Selection)}
    {rest : List Selection} {members : Keyed String Json} :
    MembersFit admits (.field alias? name arguments directives sub :: rest) members ↔
      (name ∉ fieldNames rest → ∀ found, members.get? name.key = some found →
        FieldFits admits arguments (sub.map (SelectionsFit admits)) found) ∧
        MembersFit admits rest members := by
  cases sub with
  | none => rw [MembersFit, Option.map_none]
  | some inner => rw [MembersFit, Option.map_some]; rfl

/-- Properties are extended by those of a selection set: they have its names besides, and ask of the
members of an object that they fit the selections, and what those properties ask that are not
replaced. -/
structure Extends (follow : String → Json → Bool) (admits : Label → Json → Prop)
    (properties out : Keyed Label Json) (selections : List Selection) : Prop where
  keys : ∀ name, name ∈ out.keys ↔ name ∈ properties.keys ∨ name ∈ fieldNames selections
  members : ∀ members : Keyed String Json, AreAccepted follow members out [] ↔
    AreAccepted follow members properties (fieldNames selections) ∧
      MembersFit admits selections members

/-- The object schema of a selection set accepts what fits it, since nothing was selected before. -/
theorem Extends.accepts_iff {selections : List Selection} {selected : Keyed Label Json}
    (h : Extends follow admits [] selected selections) (value : Json) :
    accepts follow (selectedObject selected) value = true ↔ SelectionsFit admits selections value := by
  have hkeys (name : Label) : name ∈ selected.keys ↔ name ∈ fieldNames selections :=
    (h.keys name).trans (or_iff_right List.not_mem_nil)
  have hmembers (members : Keyed String Json) : (∀ p ∈ selected, IsAccepted follow members p) ↔
      MembersFit admits selections members := by
    have hfit := (h.members members).trans (and_iff_right fun p hp => absurd hp List.not_mem_nil)
    rw [← hfit]
    exact ⟨fun h p hp _ => h p hp, fun h p hp => h p hp List.not_mem_nil⟩
  rw [accepts_selectedObject, isClosedObject_rename]
  unfold SelectionsFit FieldsFit
  simp only [hkeys, hmembers]

/-- A selection set extends the properties that it is added to. -/
theorem addSelections_extends (hm : Means scope follow admits) {selections : List Selection}
    {properties out : Keyed Label Json} (hn : properties.keys.Nodup)
    (h : addSelections scope path properties selections = ⟨reports, .ok out⟩) :
    Extends follow admits properties out selections := by
  induction selections using selections_induction generalizing path properties out reports with
  | nil =>
    obtain ⟨-, rfl⟩ := addSelections_nil h
    refine ⟨fun name => ?_, fun members => ?_⟩
    · rw [fieldNames, or_iff_left List.not_mem_nil]
    · rw [fieldNames, MembersFit, and_true]
  | field alias? name arguments directives sub rest hsub ih =>
    obtain ⟨schema, r₁, r₂, hfield, hrest, -⟩ := addSelections_field h
    have hschema := fieldSchema_accepts hm
      (fun inner r selected hs hbuild => (hsub inner hs Keyed.nodup_keys_nil hbuild).accepts_iff) hfield
    have hlater := ih (Keyed.nodup_keys_put hn name schema) hrest
    refine ⟨fun other => ?_, fun members => ?_⟩
    · rw [hlater.keys, Keyed.mem_keys_put, fieldNames, List.mem_cons, or_right_comm, or_comm]
    · -- the property just written counts only if the name is not selected again later
      rw [hlater.members, areAccepted_put hn, membersFit_field, fieldNames]
      simp only [IsAccepted, hschema]
      rw [and_right_comm, and_comm]
  | fragmentSpread name directives rest ih =>
    obtain ⟨r, hrest, -⟩ := addSelections_fragmentSpread h
    obtain ⟨hkeys, hmembers⟩ := ih hn hrest
    refine ⟨fun other => ?_, fun members => ?_⟩
    · rw [hkeys, fieldNames]
    · rw [hmembers, fieldNames, MembersFit]
  | inlineFragment condition directives inner rest ih =>
    obtain ⟨r, hrest, -⟩ := addSelections_inlineFragment h
    obtain ⟨hkeys, hmembers⟩ := ih hn hrest
    refine ⟨fun other => ?_, fun members => ?_⟩
    · rw [hkeys, fieldNames]
    · rw [hmembers, fieldNames, MembersFit]
  | flawed flaw rest ih => exact absurd h addSelections_flawed

/-! ## Variables -/

theorem typeFits_text (type : Primitive) : typeFits (.string type.text) value = hasType type value := by
  cases type <;> rfl

theorem baseProperty_eq (scalars : Scalars) (typeName : Label) :
    baseProperty scalars typeName = ((registered? scalars typeName).map Primitive.schema).getD [] := by
  cases typeName <;> rfl

/-- The property of a variable accepts the values of the type that is registered for its type. -/
theorem accepts_of_isPropertyFor {scalars : Scalars} {typeName : Label} {property : Json}
    (h : IsPropertyFor scalars typeName property) (value : Json) :
    accepts follow property value = true ↔ TypeAdmits scalars typeName value := by
  unfold IsPropertyFor at h
  unfold TypeAdmits
  rw [baseProperty_eq] at h
  cases hr : registered? scalars typeName with
  | none =>
    rw [hr] at h
    refine ⟨fun _ type he => (nomatch he), fun _ => ?_⟩
    rcases h with rfl | ⟨literal, rfl⟩
    · exact accepts_empty
    · show accepts follow (.object [("default", literal)]) value = true
      rw [accepts]
      show keywordsFit follow [] [("default", literal)] value = true
      rw [keywordsFit_default, keywordsFit_nil]
  | some type =>
    rw [hr] at h
    have htype : accepts follow property value = hasType type value := by
      rcases h with rfl | ⟨literal, rfl⟩
      · show accepts follow (.object [("type", .string type.text)]) value = _
        rw [accepts]
        show keywordsFit follow [] [("type", .string type.text)] value = _
        rw [keywordsFit_type, keywordsFit_nil, Bool.and_true, typeFits_text]
      · show accepts follow (.object [("type", .string type.text), ("default", literal)]) value = _
        rw [accepts]
        show keywordsFit follow [] [("type", .string type.text), ("default", literal)] value = _
        rw [keywordsFit_type, keywordsFit_default, keywordsFit_nil, Bool.and_true, typeFits_text]
    rw [htype]
    exact ⟨fun h other he => Option.some.inj he ▸ h, fun h => h type rfl⟩

/-- What an operation says of its variables accepts what fits them. -/
theorem variablesPart_accepts {declarations? : Option (List VariableDefinition)} {schema : Json}
    {keys : List String} (h : variablesPart scope declarations? = ⟨reports, .ok (schema, keys)⟩)
    (value : Json) :
    accepts follow schema value = true ↔ VariablesFit scope.scalars declarations? value := by
  rcases variablesPart_eq_ok h with ⟨rfl, rfl, -⟩ | ⟨rfl, rfl, -⟩ |
    ⟨declarations, inputs, rfl, hne, hbuild, rfl, -⟩
  · exact ⟨fun _ => trivial, fun _ => accepts_empty⟩
  · rw [accepts_false]
    exact ⟨fun h => (nomatch h), fun h => absurd rfl h.1⟩
  · have hvalues (members : Keyed String Json) :
        (∀ p ∈ inputs.properties, ∀ found, members.get? p.1 = some found →
            accepts follow p.2 found = true) ↔
          ∀ key typeName, declaredType? declarations key = some typeName →
            ∀ found, members.get? key = some found → TypeAdmits scope.scalars typeName found :=
      Outcome.forall_mem_iff_of_decided (nodup_keys_inputsOf hbuild) (inputsOf_get? hbuild)
        (fun key property => ∀ found, members.get? key = some found →
          accepts follow property found = true)
        (fun key typeName => ∀ found, members.get? key = some found →
          TypeAdmits scope.scalars typeName found)
        fun key typeName property hproperty =>
          forall₂_congr fun found _ => accepts_of_isPropertyFor hproperty found
    rw [accepts_inputsSchema]
    unfold IsClosedObject VariablesFit
    simp only [mem_keys_of_inputsOf hbuild, mem_required_of_inputsOf hbuild, hvalues]
    exact ⟨fun h => ⟨hne, h⟩, fun h => h.2⟩

/-! ## The entry in its document -/

/-- What a pointer leads to in a document, along the names of its entries. -/
def SchemaDocument.lookup (document : SchemaDocument) (pointer : String) : Option Json :=
  (Json.tokens? pointer).bind document.walk

/-- A reader of pointers: one through the entries of a document, or one through the document as JSON
where all names are texts. -/
def IsReader (document : SchemaDocument) (lookup : String → Option Json) : Prop :=
  lookup = document.lookup ∨ document.HasTextNames ∧ lookup = document.toJson.resolve

theorem LeadsTo.lookup {document : SchemaDocument} {operation variableName : Label}
    {property : Json} {pointer : String}
    (h : LeadsTo document operation variableName property pointer) {lookup : String → Option Json}
    (hlookup : IsReader document lookup) : lookup pointer = some property := by
  rcases hlookup with rfl | ⟨hnames, rfl⟩
  · obtain ⟨text, -, htokens⟩ := h.tokens
    rw [SchemaDocument.lookup, htokens]
    exact h.walk _ htokens
  · exact h.resolve hnames

/-- A reference to a variable means the type of its last named declaration, when it is followed into
the variables of the operation. -/
theorem means_of_variablesPart {name : Label}
    {declarations? : Option (List VariableDefinition)} {schema : Json} {keys : List String}
    (h : variablesPart (scope.within name) declarations? = ⟨reports, .ok (schema, keys)⟩)
    (lookup : String → Option Json)
    (hlookup : ∀ variableName pointer property,
      schema.descend ["properties", variableKey variableName] = some property →
      variablePointer (selectionScope scope name keys) variableName = .ok pointer →
      lookup pointer = some property) (budget : Nat) :
    Means (selectionScope scope name keys)
      (fun pointer value =>
        ((lookup pointer).map fun found => evaluate lookup budget found value).getD false)
      (VariableAdmits scope.scalars (declarations?.getD [])) := by
  obtain ⟨follow, hfollow⟩ := evaluate_eq_accepts lookup budget
  rcases variablesPart_eq_ok h with ⟨rfl, -, rfl, -⟩ | ⟨rfl, -, rfl, -⟩ |
    ⟨declarations, inputs, rfl, -, hbuild, rfl, rfl⟩
  · exact ⟨fun _ _ hd => absurd hd List.not_mem_nil, fun _ _ _ _ ht => (nomatch ht)⟩
  · exact ⟨fun _ _ hd => absurd hd List.not_mem_nil, fun _ _ _ _ ht => (nomatch ht)⟩
  · constructor
    · intro variableName pointer hd hp value
      have hdecided := inputsOf_get? hbuild (variableKey variableName)
      obtain ⟨typeName, ht⟩ := Option.isSome_iff_exists.mp
        ((Outcome.mem_keys_iff_of_decided hdecided).mp hd)
      obtain ⟨property, hget, hproperty⟩ := hdecided.exists ht
      have hdescend : inputs.schema.descend ["properties", variableKey variableName] =
          some property := by
        rw [← hget]
        simp [Json.descend, Inputs.schema, Json.member?, Keyed.get?]
      rw [hlookup variableName pointer property hdescend hp, Option.map_some, Option.getD_some,
        hfollow, accepts_of_isPropertyFor hproperty]
      exact ⟨fun h other ho => Option.some.inj (ht.symm.trans ho) ▸ h, fun h => h typeName ht⟩
    · intro variableName hd value typeName ht
      refine absurd ?_ hd
      rw [Option.getD_some] at ht
      exact (Outcome.mem_keys_iff_of_decided (inputsOf_get? hbuild _)).mpr
        (Option.isSome_iff_exists.mpr ⟨typeName, ht⟩)

namespace Converter

variable {converter : Converter} {operation : Operation} {c : Conversion}

/-- In its document, the entry of an operation accepts exactly the values that fit the operation. -/
theorem entry_accepts_iff (h : converter.Converts operation c) :
    ∃ name schema reports,
      operationEntry converter.scope operation = ⟨reports, .ok (name, schema)⟩ ∧
      (c.document.under c.document.layout.container).get? name = some schema ∧
      ∀ lookup, IsReader c.document lookup → ∀ budget value,
        evaluate lookup (budget + 1) schema value = true ↔
          OperationFits converter.scalars operation value := by
  obtain ⟨name, schema, reports, hentry, hlayout, hget⟩ := h.entry
  rw [← hlayout] at hget
  refine ⟨name, schema, reports, hentry, hget, fun lookup hlookup budget value => ?_⟩
  obtain ⟨-, -, hschema⟩ := operationEntry_eq_ok hentry
  obtain ⟨inputs, keys, selections, r₁, r₂, hvariables, hselections, rfl, -⟩ :=
    operationSchema_eq_ok hschema
  have hm := means_of_variablesPart hvariables lookup
    (fun variableName pointer property hproperty hpointer =>
      (leadsTo_of_variablePointer hlayout hget hproperty hpointer).lookup hlookup) budget
  rw [evaluate, accepts_operationObject]
  refine twoPartsFit_congr (variablesPart_accepts hvariables) (fun found => ?_)
  cases hset : operation.selectionSet with
  | none =>
    rw [hset] at hselections
    obtain ⟨-, rfl⟩ := Reported.pure_eq_ok.mp hselections
    have hbuild : addSelections (selectionScope converter.scope name keys) [name] [] [] =
        ⟨[], .ok []⟩ := by
      rw [addSelections]
      rfl
    exact (addSelections_extends hm Keyed.nodup_keys_nil hbuild).accepts_iff found
  | some list =>
    rw [hset] at hselections
    obtain ⟨properties, hbuild, rfl⟩ := Reported.map_eq_ok.mp hselections
    exact (addSelections_extends hm Keyed.nodup_keys_nil hbuild).accepts_iff found

/-- The entry of a query accepts an empty object and no number for a variable that is an ID. -/
theorem entry_accepts_iff_slashedQuery :
    ∃ c name schema, Converts ⟨.definitions, .builtin⟩ slashedQuery c ∧
      (c.document.under c.document.layout.container).get? name = some schema ∧
      ∀ budget, evaluate c.document.lookup (budget + 1) schema (.object []) = true ∧
        evaluate c.document.lookup (budget + 1) schema
          (.object [("variables", .object [("$id", .int 1)])]) = false := by
  have hconverts : ∃ c, Converts ⟨.definitions, .builtin⟩ slashedQuery c := ⟨_, .inl rfl⟩
  obtain ⟨c, hc⟩ := hconverts
  obtain ⟨name, schema, reports, -, hget, hiff⟩ := entry_accepts_iff hc
  refine ⟨c, name, schema, hc, hget, fun budget => ⟨?_, ?_⟩⟩
  · rw [hiff _ (.inl rfl)]
    exact ⟨[], rfl, fun _ h => absurd h List.not_mem_nil, fun _ h => (nomatch h),
      fun _ h => (nomatch h)⟩
  · rw [← Bool.not_eq_true, hiff _ (.inl rfl)]
    rintro ⟨members, he, -, hvariables, -⟩
    cases he
    obtain ⟨-, inputs, he, -, -, htyped⟩ := hvariables _ rfl
    cases he
    exact nomatch htyped "$id" "ID" rfl (.int 1) rfl .string rfl

end Converter

end QuerySchema.Schema
