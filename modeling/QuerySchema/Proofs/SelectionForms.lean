import QuerySchema.Proofs.ArgumentReferences
import QuerySchema.Proofs.LastWrites

/-!
When two selection sets have the same schema.

The normal form of a selection set is all that its schema depends on: the names of its fields, each
once and in the order of first occurrence, with the form of the last field of that name. A field
that takes nothing and selects nothing is a leaf; any other has a form for what it selects, if it
selects, and one for its arguments, if it has any. Of the arguments only those count that are bound
to a variable, by the last variable that a name is bound to. Names stand in a form as they stand in
a schema.

What is proved:
  1. `FieldForm.schema_injective`: the schema of a form determines the form, by induction on the form.
  2. `addSelections_eq_forms`: building a selection set writes the schemas of its forms.
  3. `selectionSetSchema_eq_iff`: two selection sets have the same schema just when they have the same
     normal form; so nothing that the form leaves out can change the schema.
-/

namespace QuerySchema.Schema

open GraphQL

/-! ## Forms -/

/-- What becomes of an argument that is bound to a variable. -/
inductive ArgumentForm where
  /-- It refers to a variable that has a schema. -/
  | ref (variableName : String)
  /-- Its variable has no schema, so it accepts anything. -/
  | free
  deriving DecidableEq, Repr

/-- What becomes of a field: the form of what it selects, and that of its arguments. -/
inductive FieldForm where
  | leaf
  | parts (selected : Option (List (String × FieldForm)))
      (passed : Option (List (String × ArgumentForm)))
  deriving Repr

/-- The form of an argument, under its name; none for one that is not bound to a variable. -/
def argumentForm? (declared : List String) (argument : Argument) : Option (Label × ArgumentForm) :=
  match argument.value with
  | .variable name => some (argument.name,
      if declared.contains (variableKey name) then .ref name.spoken else .free)
  | _ => none

/-- The form of the arguments of a field; none when it has no arguments. -/
def argumentsForm (declared : List String) (arguments : List Argument) :
    Option (List (String × ArgumentForm)) :=
  if arguments.isEmpty then none
  else some ((Keyed.settled (arguments.filterMap (argumentForm? declared))).rename Label.key)

mutual
/-- The forms of the fields of a selection set, one after the other. -/
def fieldForms (declared : List String) : List Selection → List (Label × FieldForm)
  | [] => []
  | selection :: rest => selectionForms declared selection ++ fieldForms declared rest
/-- The form of a selection, under the name of the field; none for a fragment. -/
def selectionForms (declared : List String) : Selection → List (Label × FieldForm)
  | .field _ name arguments _ sub => [(name, fieldForm declared arguments sub)]
  | .fragmentSpread _ _ => []
  | .inlineFragment _ _ _ => []
  | .flawed _ => []
/-- The form of a field. -/
def fieldForm (declared : List String) (arguments : List Argument) :
    Option (List Selection) → FieldForm
  | none => if arguments.isEmpty then .leaf else .parts none (argumentsForm declared arguments)
  | some inner =>
    .parts (some ((Keyed.settled (fieldForms declared inner)).rename Label.key))
      (argumentsForm declared arguments)
end

/-- The normal form of a selection set, where some variables have a schema. -/
def normalForm (declared : List String) (selections : List Selection) : List (String × FieldForm) :=
  (Keyed.settled (fieldForms declared selections)).rename Label.key

/-! ## The schema of a form -/

/-- The schema of an argument, from the pointers to the variables. -/
def ArgumentForm.schema (pointer : String → String) : ArgumentForm → Json
  | .ref variableName => reference (pointer variableName)
  | .free => .object []

/-- The schema of a selection set, from its properties. -/
def selectedSchema (properties : Keyed String Json) : Json :=
  .object [("type", .string "object"), ("additionalProperties", .bool false),
    ("properties", .object properties)]

/-- The schema of the arguments of a field. -/
def passedFormSchema (pointer : String → String) : Option (List (String × ArgumentForm)) → Json
  | none => .object []
  | some forms =>
    .object [("type", .string "object"),
      ("properties", .object (forms.map fun p => (p.1, p.2.schema pointer))),
      ("required", .array []), ("additionalProperties", .bool false)]

mutual
/-- The schema of a field. -/
def FieldForm.schema (pointer : String → String) : FieldForm → Json
  | .leaf => .object []
  | .parts none passed => fieldObject (.object []) (passedFormSchema pointer passed)
  | .parts (some selected) passed =>
    fieldObject (selectedSchema (fieldSchemas pointer selected)) (passedFormSchema pointer passed)
/-- The schemas of fields under their names. -/
def fieldSchemas (pointer : String → String) : List (String × FieldForm) → List (String × Json)
  | [] => []
  | (name, form) :: rest => (name, form.schema pointer) :: fieldSchemas pointer rest
end

variable {pointer : String → String}

theorem fieldSchemas_eq_map (forms : List (String × FieldForm)) :
    fieldSchemas pointer forms = forms.map fun p => (p.1, p.2.schema pointer) := by
  induction forms with
  | nil => rfl
  | cons p rest ih => rw [fieldSchemas, ih, List.map_cons]

theorem ArgumentForm.schema_injective (hp : Function.Injective pointer) :
    Function.Injective (ArgumentForm.schema pointer) := by
  intro a b h
  cases a with
  | free =>
    cases b with
    | free => rfl
    | ref w => simp [ArgumentForm.schema, reference] at h
  | ref v =>
    cases b with
    | free => simp [ArgumentForm.schema, reference] at h
    | ref w =>
      have hpointer : pointer v = pointer w := by simpa [ArgumentForm.schema, reference] using h
      rw [hp hpointer]

/-- Schemas under names determine what they are the schemas of. -/
theorem map_schema_injective {α : Type} {schema : α → Json} (h : Function.Injective schema) :
    Function.Injective fun forms : List (String × α) => forms.map fun p => (p.1, schema p.2) := by
  intro forms others he
  refine (List.map_inj_right fun p q hpq => ?_).mp he
  obtain ⟨hname, hschema⟩ := Prod.mk.inj hpq
  exact Prod.ext hname (h hschema)

theorem passedFormSchema_injective (hp : Function.Injective pointer) :
    Function.Injective (passedFormSchema pointer) := by
  intro a b h
  cases a with
  | none =>
    cases b with
    | none => rfl
    | some forms => simp [passedFormSchema] at h
  | some forms =>
    cases b with
    | none => simp [passedFormSchema] at h
    | some others =>
      have hproperties : (forms.map fun p => (p.1, p.2.schema pointer)) =
          others.map fun p => (p.1, p.2.schema pointer) := by simpa [passedFormSchema] using h
      rw [map_schema_injective (ArgumentForm.schema_injective hp) hproperties]

theorem fieldObject_inj {selected passed selected' passed' : Json} :
    fieldObject selected passed = fieldObject selected' passed' ↔
      selected = selected' ∧ passed = passed' := by
  simp [fieldObject]

mutual
/-- The schema of a field determines its form. -/
theorem FieldForm.schema_injective (hp : Function.Injective pointer) :
    ∀ a b : FieldForm, a.schema pointer = b.schema pointer → a = b
  | .leaf, .leaf, _ => rfl
  | .leaf, .parts none _, h => by simp [FieldForm.schema, fieldObject] at h
  | .leaf, .parts (some _) _, h => by simp [FieldForm.schema, fieldObject] at h
  | .parts none _, .leaf, h => by simp [FieldForm.schema, fieldObject] at h
  | .parts (some _) _, .leaf, h => by simp [FieldForm.schema, fieldObject] at h
  | .parts none passed, .parts none others, h => by
    rw [FieldForm.schema, FieldForm.schema, fieldObject_inj] at h
    rw [passedFormSchema_injective hp h.2]
  | .parts none _, .parts (some _) _, h => by
    rw [FieldForm.schema, FieldForm.schema, fieldObject_inj] at h
    simp [selectedSchema] at h
  | .parts (some _) _, .parts none _, h => by
    rw [FieldForm.schema, FieldForm.schema, fieldObject_inj] at h
    simp [selectedSchema] at h
  | .parts (some selected) passed, .parts (some selected') others, h => by
    rw [FieldForm.schema, FieldForm.schema, fieldObject_inj] at h
    have hproperties : fieldSchemas pointer selected = fieldSchemas pointer selected' := by
      simpa [selectedSchema] using h.1
    rw [fieldSchemas_injective hp selected selected' hproperties, passedFormSchema_injective hp h.2]
/-- The schemas of fields determine their forms. -/
theorem fieldSchemas_injective (hp : Function.Injective pointer) :
    ∀ forms others : List (String × FieldForm),
      fieldSchemas pointer forms = fieldSchemas pointer others → forms = others
  | [], [], _ => rfl
  | [], _ :: _, h => by simp [fieldSchemas] at h
  | _ :: _, [], h => by simp [fieldSchemas] at h
  | (name, form) :: rest, (name', form') :: rest', h => by
    rw [fieldSchemas, fieldSchemas, List.cons.injEq, Prod.mk.injEq] at h
    rw [h.1.1, FieldForm.schema_injective hp form form' h.1.2,
      fieldSchemas_injective hp rest rest' h.2]
end

/-! ## Pointers to the variables of a scope -/

/-- The pointer to a variable of the operation that a scope is in. -/
def Scope.pointerTo (scope : Scope) (variableName : String) : String :=
  Json.pointer scope.layout.pointerStart [(scope.operation.getD .nothing).spoken, "properties",
    "variables", "properties", "$" ++ variableName]

variable {scope : Scope} {path : List Label} {reports : List Diagnostic}

theorem variablePointer_eq_pointerTo {name : Label} {found : String}
    (h : variablePointer scope name = .ok found) : found = scope.pointerTo name.spoken := by
  unfold variablePointer at h
  split at h
  · next operation ho =>
    cases h
    rw [Scope.pointerTo, ho]
    rfl
  · cases h
  · cases h

/-- The name of a variable can be read off the pointer to it, whatever characters it holds. -/
theorem Scope.pointerTo_injective (scope : Scope) : Function.Injective scope.pointerTo := by
  intro v w h
  have htokens := Json.pointer_injective _ h
  have hkey : "$" ++ v = "$" ++ w := by simpa using htokens
  exact variableMark_injective hkey

/-! ## What a selection set writes -/

/-- An argument that is bound to a variable writes the schema of its form. -/
theorem addArgument_writes {properties added : Keyed Label Json} {argument : Argument}
    (h : addArgument scope path properties argument = ⟨reports, .ok added⟩) :
    added = ((argumentForm? scope.declared argument).map fun p =>
      (p.1, p.2.schema scope.pointerTo)).toList.foldl (fun m p => m.put p.1 p.2) properties := by
  unfold argumentForm?
  rcases addArgument_eq_ok h with ⟨name, found, hv, hd, hp, rfl, -⟩ | ⟨name, hv, hd, rfl, -⟩ |
    ⟨kind, hv, -, rfl, -⟩
  · rw [hv, variablePointer_eq_pointerTo hp]
    simp [hd, ArgumentForm.schema]
  · rw [hv]
    simp [hd, ArgumentForm.schema]
  · split
    · next name hname => exact absurd hname (hv name)
    · rfl

/-- The names in a form are those in the schema. -/
theorem rename_map {α : Type} (forms : List (Label × α)) (schema : α → Json) :
    Keyed.rename Label.key (forms.map fun p => (p.1, schema p.2)) =
      (Keyed.rename Label.key forms).map fun p => (p.1, schema p.2) := by
  simp [Keyed.rename]

/-- Writing the schemas of forms comes to the schemas of the settled forms. -/
theorem rename_ofPairs {α : Type} (forms : List (Label × α)) (schema : α → Json) :
    Keyed.rename Label.key (Keyed.ofPairs (forms.map fun p => (p.1, schema p.2))) =
      (Keyed.rename Label.key (Keyed.settled forms)).map fun p => (p.1, schema p.2) := by
  rw [Keyed.ofPairs_eq_settled, Keyed.settled_map, rename_map]

theorem passedSchema_eq_form {arguments : List Argument} {schema : Json}
    (h : passedSchema scope path arguments = ⟨reports, .ok schema⟩) :
    schema = passedFormSchema scope.pointerTo (argumentsForm scope.declared arguments) := by
  rcases passedSchema_eq_ok h with ⟨rfl, rfl, -⟩ | ⟨hne, properties, rfl, hbuild⟩
  · rfl
  · have hwritten := Keyed.foldlM_writes (fun _ _ _ _ hadd => addArgument_writes hadd) hbuild
    rw [← List.map_filterMap] at hwritten
    have hforms : Keyed.rename Label.key properties =
        (Keyed.rename Label.key (Keyed.settled
          (arguments.filterMap (argumentForm? scope.declared)))).map fun p =>
            (p.1, p.2.schema scope.pointerTo) := by
      rw [hwritten]
      exact rename_ofPairs _ _
    have hsome : arguments.isEmpty = false := List.isEmpty_eq_false_iff.mpr hne
    rw [argumentsForm, hsome, passedObject, labelled, hforms]
    rfl

/-- A field has the schema of its form. -/
theorem fieldSchema_eq_form {arguments : List Argument} {sub : Option (List Selection)}
    {schema : Json}
    (hsub : ∀ selections r properties, sub = some selections →
      addSelections scope path [] selections = ⟨r, .ok properties⟩ →
      labelled properties = .object (fieldSchemas scope.pointerTo
        (normalForm scope.declared selections)))
    (h : fieldSchema scope path arguments sub = ⟨reports, .ok schema⟩) :
    schema = (fieldForm scope.declared arguments sub).schema scope.pointerTo := by
  rcases fieldSchema_eq_ok h with ⟨rfl, rfl, rfl, -⟩ | ⟨hparts, selected, passed, r₁, r₂, hs, hp, rfl, -⟩
  · rfl
  · rw [passedSchema_eq_form hp]
    cases sub with
    | none =>
      have hsome : ¬ arguments.isEmpty = true := fun he => hparts ⟨rfl, List.isEmpty_iff.mp he⟩
      obtain ⟨-, rfl⟩ := Reported.pure_eq_ok.mp hs
      rw [fieldForm, if_neg hsome, FieldForm.schema]
    | some selections =>
      obtain ⟨properties, hbuild, rfl⟩ := Reported.map_eq_ok.mp hs
      rw [fieldForm, FieldForm.schema, selectedObject, hsub selections r₁ properties rfl hbuild]
      rfl

/-- Building a selection set writes the schemas of its forms, one after the other. -/
theorem addSelections_eq_forms {selections : List Selection} {properties out : Keyed Label Json}
    (h : addSelections scope path properties selections = ⟨reports, .ok out⟩) :
    out = ((fieldForms scope.declared selections).map fun p =>
      (p.1, p.2.schema scope.pointerTo)).foldl (fun m p => m.put p.1 p.2) properties := by
  induction selections using selections_induction generalizing path properties out reports with
  | nil => exact (addSelections_nil h).2.symm
  | field alias? name arguments directives sub rest hsub ih =>
    obtain ⟨schema, r₁, r₂, hfield, hrest, -⟩ := addSelections_field h
    have hschema := fieldSchema_eq_form (fun selections r selected hs hbuild => by
      rw [labelled, hsub selections hs hbuild, fieldSchemas_eq_map]
      exact congrArg Json.object (rename_ofPairs _ _)) hfield
    rw [fieldForms, selectionForms, List.singleton_append, List.map_cons, List.foldl_cons, ← hschema]
    exact ih hrest
  | fragmentSpread name directives rest ih =>
    obtain ⟨r, hrest, -⟩ := addSelections_fragmentSpread h
    exact ih hrest
  | inlineFragment condition directives inner rest ih =>
    obtain ⟨r, hrest, -⟩ := addSelections_inlineFragment h
    exact ih hrest
  | flawed flaw rest ih => exact absurd h addSelections_flawed

/-- A selection set has the schema of its normal form. -/
theorem selectionSetSchema_eq_form {selectionSet : Option (List Selection)} {schema : Json}
    (h : selectionSetSchema scope path selectionSet = ⟨reports, .ok schema⟩) :
    schema = selectedSchema (fieldSchemas scope.pointerTo
      (normalForm scope.declared (selectionSet.getD []))) := by
  cases selectionSet with
  | none =>
    obtain ⟨-, rfl⟩ := Reported.pure_eq_ok.mp h
    rfl
  | some selections =>
    obtain ⟨properties, hbuild, rfl⟩ := Reported.map_eq_ok.mp h
    rw [addSelections_eq_forms hbuild, selectedObject, labelled, fieldSchemas_eq_map]
    exact congrArg selectedSchema (rename_ofPairs _ _)

/-! ## What a form leaves out -/

/-- An argument with null in place of a literal. -/
def plainArgument (argument : Argument) : Argument :=
  match argument.value with
  | .variable _ => argument
  | _ => { argument with value := .null }

mutual
/-- A selection set without its aliases, its directives and its fragments, and with null in place
of every literal. -/
def plainSelections : List Selection → List Selection
  | [] => []
  | selection :: rest => plainSelection selection ++ plainSelections rest
/-- What of a selection is plain: nothing of a fragment. -/
def plainSelection : Selection → List Selection
  | .field _ name arguments _ sub =>
    [.field none name (arguments.map plainArgument) [] (plainSub sub)]
  | .fragmentSpread _ _ => []
  | .inlineFragment _ _ _ => []
  | .flawed _ => []
/-- What of the selections of a field is plain. -/
def plainSub : Option (List Selection) → Option (List Selection)
  | none => none
  | some inner => some (plainSelections inner)
end

variable {declared : List String}

theorem argumentForm?_plainArgument (argument : Argument) :
    argumentForm? declared (plainArgument argument) = argumentForm? declared argument := by
  obtain ⟨name, value⟩ := argument
  cases value <;> rfl

theorem argumentsForm_plainArgument (arguments : List Argument) :
    argumentsForm declared (arguments.map plainArgument) = argumentsForm declared arguments := by
  have hform : argumentForm? declared ∘ plainArgument = argumentForm? declared :=
    funext argumentForm?_plainArgument
  rw [argumentsForm, argumentsForm, List.filterMap_map, hform, List.isEmpty_map]

theorem fieldForm_plain {arguments : List Argument} {sub : Option (List Selection)}
    (hsub : ∀ selections, sub = some selections →
      fieldForms declared (plainSelections selections) = fieldForms declared selections) :
    fieldForm declared (arguments.map plainArgument) (plainSub sub) =
      fieldForm declared arguments sub := by
  cases sub with
  | none => rw [plainSub, fieldForm, fieldForm, argumentsForm_plainArgument, List.isEmpty_map]
  | some inner => rw [plainSub, fieldForm, fieldForm, argumentsForm_plainArgument, hsub inner rfl]

/-- A selection set has the forms of what is plain in it. -/
theorem fieldForms_plainSelections (selections : List Selection) :
    fieldForms declared (plainSelections selections) = fieldForms declared selections := by
  induction selections using selections_induction with
  | nil => rfl
  | field alias? name arguments directives sub rest hsub ih =>
    rw [plainSelections, plainSelection, List.singleton_append, fieldForms, fieldForms,
      selectionForms, selectionForms, fieldForm_plain hsub, ih]
  | fragmentSpread name directives rest ih => exact ih
  | inlineFragment condition directives inner rest ih => exact ih
  | flawed flaw rest ih => exact ih

theorem normalForm_plainSelections (selections : List Selection) :
    normalForm declared (plainSelections selections) = normalForm declared selections := by
  rw [normalForm, fieldForms_plainSelections, normalForm]

/-! ## Equal schemas -/

/-- In one scope two selection sets have the same schema just when they have the same normal form.
Aliases, directives, fragments with all that is in them and the literals that arguments carry never
change the schema. -/
theorem selectionSetSchema_eq_iff (scope : Scope) {path₁ path₂ : List Label}
    {set₁ set₂ : Option (List Selection)} {reports₁ reports₂ : List Diagnostic}
    {schema₁ schema₂ : Json}
    (h₁ : selectionSetSchema scope path₁ set₁ = ⟨reports₁, .ok schema₁⟩)
    (h₂ : selectionSetSchema scope path₂ set₂ = ⟨reports₂, .ok schema₂⟩) :
    (schema₁ = schema₂ ↔
      normalForm scope.declared (set₁.getD []) = normalForm scope.declared (set₂.getD [])) ∧
    (plainSelections (set₁.getD []) = plainSelections (set₂.getD []) → schema₁ = schema₂) := by
  have hiff : schema₁ = schema₂ ↔
      normalForm scope.declared (set₁.getD []) = normalForm scope.declared (set₂.getD []) := by
    rw [selectionSetSchema_eq_form h₁, selectionSetSchema_eq_form h₂]
    constructor
    · intro h
      have hproperties : fieldSchemas scope.pointerTo (normalForm scope.declared (set₁.getD [])) =
          fieldSchemas scope.pointerTo (normalForm scope.declared (set₂.getD [])) := by
        simpa [selectedSchema] using h
      exact fieldSchemas_injective scope.pointerTo_injective _ _ hproperties
    · intro h
      rw [h]
  refine ⟨hiff, fun hplain => hiff.mpr ?_⟩
  calc normalForm scope.declared (set₁.getD [])
      = normalForm scope.declared (plainSelections (set₁.getD [])) :=
        (normalForm_plainSelections _).symm
    _ = normalForm scope.declared (plainSelections (set₂.getD [])) := by rw [hplain]
    _ = normalForm scope.declared (set₂.getD []) := normalForm_plainSelections _

/-- The scope of a query with one variable. -/
def userScope : Scope := ⟨.definitions, .builtin, some "Q", ["$id"]⟩

/-- A user under an alias, by a variable and a literal, with a fragment and a name. -/
def aliasedUser : List Selection :=
  [.field (some (.ok "me")) "user" [⟨"id", .variable "id"⟩, ⟨"limit", .int "10"⟩] []
    (some [.fragmentSpread "Details" [], .field none "name" [] [] none])]

/-- A user by a variable and another literal, with a name. -/
def plainUser : List Selection :=
  [.field none "user" [⟨"id", .variable "id"⟩, ⟨"limit", .string "all" false⟩] []
    (some [.field none "name" [] [] none])]

/-- A user by a variable without a schema. -/
def unresolvedUser : List Selection :=
  [.field none "user" [⟨"id", .variable "key"⟩, ⟨"limit", .int "10"⟩] []
    (some [.field none "name" [] [] none])]

/-- The alias, the literal and the fragment of a field do not show in its schema, while the variable
that an argument is bound to does. -/
theorem selectionSetSchema_eq_iff_users :
    ∃ reports₁ reports₂ reports₃ aliased plain unresolved,
      selectionSetSchema userScope ["Q"] (some aliasedUser) = ⟨reports₁, .ok aliased⟩ ∧
      selectionSetSchema userScope ["Q"] (some plainUser) = ⟨reports₂, .ok plain⟩ ∧
      selectionSetSchema userScope ["Q"] (some unresolvedUser) = ⟨reports₃, .ok unresolved⟩ ∧
      aliased = plain ∧ plain ≠ unresolved := by
  have ha : selectionSetSchema userScope ["Q"] (some aliasedUser) = ⟨_, .ok _⟩ := rfl
  have hp : selectionSetSchema userScope ["Q"] (some plainUser) = ⟨_, .ok _⟩ := rfl
  have hu : selectionSetSchema userScope ["Q"] (some unresolvedUser) = ⟨_, .ok _⟩ := rfl
  refine ⟨_, _, _, _, _, _, ha, hp, hu, (selectionSetSchema_eq_iff userScope ha hp).2 rfl, ?_⟩
  intro h
  have hforms := (selectionSetSchema_eq_iff userScope hp hu).1.mp h
  cases hforms

end QuerySchema.Schema
