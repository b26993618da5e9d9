import QuerySchema.Proofs.OperationSteps
import QuerySchema.Proofs.ParsedNames
import QuerySchema.Proofs.TypeSteps

/-!
When the conversion of a document fails, and with what.

A tree put together by hand can fail in many places. In a tree that follows the grammar only two
things can go wrong: an operation has no name, or the default of one of its variables is an integer
of more digits than are read. Such a tree is `Grammatical`; `Definition.fault?` says what is wrong
with a definition of it.

What is proved:
  1. `failure?_bind`, `failure?_foldlM`: steps fail as the first of them that fails.
  2. `failure?_addVariable`: a declaration fails by its default alone; arguments, selections, fields
     and enum values do not fail (`failure?_argumentsSchema`, `failure?_addSelections`,
     `failure?_typeEntry`, `failure?_enumEntry`).
  3. `failure?_entry`: the entry of a definition fails with the fault of the definition.
  4. `convertDocument_eq_error_iff`: a document fails with the first fault among the definitions
     whose entries are built.
-/

namespace QuerySchema

/-! ## Why there is no result -/

namespace Outcome

variable {ε α β ρ : Type}

/-- The reason why there is no result, if there is none. -/
def failure? : Except ε α → Option ε
  | .ok _ => none
  | .error e => some e

theorem failure?_eq_some {x : Except ε α} {e : ε} : failure? x = some e ↔ x = .error e := by
  cases x with
  | ok a => exact ⟨fun h => (nomatch h), fun h => (nomatch h)⟩
  | error e' => exact ⟨fun h => congrArg _ (Option.some.inj h), fun h => by cases h; rfl⟩

theorem failure?_map (f : α → β) (x : Except ε α) : failure? (x.map f) = failure? x := by
  cases x <;> rfl

/-- Two steps fail as the first one does, or else as the second one does after it. -/
theorem failure?_bind {x : Reported ρ ε α} {f : α → Reported ρ ε β} {after : Option ε}
    (h : ∀ a, failure? (f a).result = after) :
    failure? (x >>= f).result = (failure? x.result).or after := by
  rw [Reported.result_bind]
  cases x.result with
  | ok a => exact h a
  | error e => rfl

/-- What never fails can be left out of account when it comes after. -/
theorem failure?_bind_left {x : Reported ρ ε α} {f : α → Reported ρ ε β}
    (h : ∀ a, failure? (f a).result = none) : failure? (x >>= f).result = failure? x.result :=
  (failure?_bind h).trans Option.or_none

/-- What never fails can be left out of account when it comes first. -/
theorem failure?_bind_right {x : Reported ρ ε α} {f : α → Reported ρ ε β} {after : Option ε}
    (hx : failure? x.result = none) (h : ∀ a, failure? (f a).result = after) :
    failure? (x >>= f).result = after := by
  rw [failure?_bind h, hx, Option.none_or]

/-- Steps along a list fail as the first one does whose item has a fault. -/
theorem failure?_foldlM {f : β → α → Reported ρ ε β} {fault? : α → Option ε} {items : List α}
    (h : ∀ b, ∀ a ∈ items, failure? (f b a).result = fault? a) (start : β) :
    failure? (items.foldlM f start).result = items.findSome? fault? := by
  induction items generalizing start with
  | nil => rfl
  | cons item rest ih =>
    rw [List.foldlM_cons, List.findSome?_cons,
      failure?_bind fun next => ih (fun b a ha => h b a (List.mem_cons_of_mem _ ha)) next,
      h start item List.mem_cons_self]
    cases fault? item <;> rfl

/-- What is made of each item of a list fails as the first item does that has a fault. -/
theorem failure?_mapM {f : α → Except ε β} {fault? : α → Option ε} {items : List α}
    (h : ∀ a ∈ items, failure? (f a) = fault? a) :
    failure? (items.mapM f) = items.findSome? fault? := by
  induction items with
  | nil => rfl
  | cons item rest ih =>
    have hrest := ih fun a ha => h a (List.mem_cons_of_mem _ ha)
    rw [List.mapM_cons, List.findSome?_cons, ← h item List.mem_cons_self]
    cases f item with
    | error e => rfl
    | ok b =>
      rw [← failure?_map (b :: ·)] at hrest
      exact hrest

/-- Steps along a list that never fail do not fail together. -/
theorem foldlM_succeeds {f : β → α → Except ε β} {items : List α}
    (h : ∀ b, ∀ a ∈ items, ∃ next, f b a = .ok next) (start : β) :
    ∃ out, items.foldlM f start = .ok out := by
  induction items generalizing start with
  | nil => exact ⟨start, rfl⟩
  | cons item rest ih =>
    obtain ⟨next, hnext⟩ := h start item List.mem_cons_self
    rw [List.foldlM_cons, hnext]
    exact ih (fun b a ha => h b a (List.mem_cons_of_mem _ ha)) next

end Outcome

/-! ## What is wrong with a definition -/

namespace GraphQL

open Decimal Schema

/-- What is wrong with the default of a variable: it is an integer of too many digits. -/
def Value.fault? : Value → Option BuildError
  | .int text =>
    if digitLimit < digitCount text then some (.literal (.tooManyDigits (digitCount text))) else none
  | _ => none

/-- What is wrong with a declaration: its default, if the default is looked at. -/
def VariableDefinition.fault? (declaration : VariableDefinition) : Option BuildError :=
  if declaration.type.typeName?.isSome then declaration.default?.bind Value.fault? else none

/-- What is wrong with an operation: it has no name, or else its first faulty declaration. -/
def Operation.fault? (operation : Operation) : Option BuildError :=
  match operation.name with
  | .ok (some _) => (operation.declarations.getD []).findSome? VariableDefinition.fault?
  | _ => some (.anonymousOperation operation.type)

/-- What is wrong with a definition; nothing with that of a type. -/
def Definition.fault? : Definition → Option BuildError
  | .operation o => o.fault?
  | _ => none

end GraphQL

namespace Schema

open GraphQL Decimal Outcome

variable {scope : Scope}

/-! ## Variables -/

theorem kind?_of_grammatical {value : Value} (h : value.Grammatical) :
    value.kind?.isSome = true := by
  cases value with
  | odd kind said => exact h.elim
  | flawed flaw => exact h.elim
  | _ => rfl

/-- A literal fails as a default only when it is an integer of too many digits. -/
theorem failure?_defaultOf {value : Value} (h : value.Grammatical) :
    failure? (defaultOf value) = value.fault? := by
  cases value with
  | int text =>
    obtain ⟨sign, negative, whole, htext, -, hsign, hw⟩ := h
    obtain ⟨hcount, hread⟩ := readInteger_of_parts htext hsign hw.toIsDigits
    rw [defaultOf, integerDefault, hread, Value.fault?, hcount]
    by_cases hlong : digitLimit < whole.length
    · simp only [hlong, if_true]
      rfl
    · simp only [hlong, if_false]
      rfl
  | float text =>
    obtain ⟨x, hread⟩ := readNumber_of_isFloatLiteral h
    rw [defaultOf, numberDefault, hread]
    rfl
  | odd kind said => exact h.elim
  | flawed flaw => exact h.elim
  | _ => rfl

theorem failure?_variableProperty {default? : Option Value}
    (h : ∀ value ∈ default?, value.Grammatical) (typeName : Label) (path : List Label) :
    failure? (variableProperty scope typeName default? path).result =
      default?.bind Value.fault? := by
  unfold variableProperty
  cases default? with
  | none => rfl
  | some value =>
    have hvalue := h value rfl
    refine (failure?_bind_left fun found => ?_).trans (failure?_defaultOf hvalue)
    cases found with
    | some literal => rfl
    | none =>
      obtain ⟨kind, hkind⟩ := Option.isSome_iff_exists.mp (kind?_of_grammatical hvalue)
      simp only [hkind]
      rfl

/-- A declaration fails by its default, and only when its type is named. -/
theorem failure?_addVariable {declaration : VariableDefinition} (h : declaration.Grammatical)
    (inputs : Inputs) :
    failure? (addVariable scope inputs declaration).result = declaration.fault? := by
  obtain ⟨name, type, default?, directives⟩ := declaration
  obtain ⟨-, htype, hdefault⟩ := h
  cases type with
  | named typeName =>
    exact (failure?_bind_left fun _ => rfl).trans (failure?_variableProperty hdefault typeName _)
  | list item => rfl
  | flawed flaw => exact htype.elim
  | nonNull inner =>
    cases inner with
    | named typeName =>
      exact (failure?_bind_left fun _ => rfl).trans (failure?_variableProperty hdefault typeName _)
    | list item => rfl
    | nonNull inner => exact htype.elim
    | flawed flaw => exact htype.elim

theorem failure?_variablesPart {declarations? : Option (List VariableDefinition)}
    (h : ∀ d ∈ declarations?.getD [], d.Grammatical) :
    failure? (variablesPart scope declarations?).result =
      (declarations?.getD []).findSome? VariableDefinition.fault? := by
  match declarations?, h with
  | none, _ => rfl
  | some [], _ => rfl
  | some (first :: rest), h =>
    show failure? (_ <$> inputsOf scope (first :: rest)).result = _
    rw [Reported.result_map, failure?_map]
    exact failure?_foldlM (fun inputs d hd => failure?_addVariable (h d hd) inputs) _

/-! ## Selections -/

/-- A scope of an operation whose name is a text. -/
def Scope.IsNamed (scope : Scope) : Prop := ∃ text, scope.operation = some (.text text)

theorem failure?_argumentsSchema (hs : scope.IsNamed) {arguments : List Argument}
    (h : ∀ argument ∈ arguments, argument.Grammatical) (path : List Label) :
    failure? (argumentsSchema scope path arguments).result = none := by
  obtain ⟨text, hoperation⟩ := hs
  have hstep (properties : Keyed Label Json) (argument : Argument) (ha : argument ∈ arguments) :
      failure? (addArgument scope path properties argument).result = none := by
    obtain ⟨name, value⟩ := argument
    have hvalue : value.Grammatical := (h _ ha).2
    cases value with
    | «variable» variableName =>
      simp only [addArgument, variablePointer, hoperation]
      split <;> rfl
    | odd kind said => exact hvalue.elim
    | flawed flaw => exact hvalue.elim
    | _ => rfl
  rw [argumentsSchema, failure?_bind_left fun _ => rfl, argumentProperties, failure?_foldlM hstep,
    List.findSome?_eq_none_iff]
  exact fun _ _ => rfl

theorem failure?_passedSchema (hs : scope.IsNamed) {arguments : List Argument}
    (h : ∀ argument ∈ arguments, argument.Grammatical) (path : List Label) :
    failure? (passedSchema scope path arguments).result = none := by
  unfold passedSchema
  split
  · rfl
  · exact failure?_argumentsSchema hs h path

/-- Selections never fail. -/
theorem failure?_addSelections (hs : scope.IsNamed) {selections : List Selection}
    (h : ∀ selection ∈ selections, selection.Grammatical) (path : List Label)
    (properties : Keyed Label Json) :
    failure? (addSelections scope path properties selections).result = none := by
  induction selections using selections_induction generalizing path properties with
  | nil => rfl
  | field alias? name arguments directives sub rest ihsub ihrest =>
    obtain ⟨hfield, hrest⟩ := List.forall_mem_cons.mp h
    cases hfield with
    | field halias hname harguments hsub =>
      have hinner (path : List Label) : failure? (innerSchema scope path sub).result = none := by
        cases sub with
        | none => rfl
        | some inner =>
          rw [innerSchema, Reported.result_map, failure?_map]
          exact ihsub inner rfl (hsub inner rfl) path []
      have hschema (path : List Label) :
          failure? (fieldSchema scope path arguments sub).result = none := by
        rw [fieldSchema_eq]
        split
        · rfl
        · exact failure?_bind_right (hinner path) fun _ =>
            failure?_bind_right (failure?_passedSchema hs harguments path) fun _ => rfl
      have hreplaced : failure? (reportReplacement path (properties.contains name) alias? name).result =
          none := by
        unfold reportReplacement
        split
        · cases alias? with
          | none => rfl
          | some place =>
            obtain ⟨label, rfl⟩ := halias place rfl
            rfl
        · rfl
      -- the later selections never fail, whatever was added before, so the field alone decides
      rw [addSelections, failure?_bind_left fun added => ihrest hrest path added,
        addSelection_field_eq]
      exact failure?_bind_right hreplaced fun _ => failure?_bind_right (hschema _) fun _ => rfl
  | fragmentSpread name directives rest ih =>
    rw [addSelections, failure?_bind_left fun added => ih (List.forall_mem_cons.mp h).2 path added]
    rfl
  | inlineFragment condition directives inner rest ih =>
    rw [addSelections, failure?_bind_left fun added => ih (List.forall_mem_cons.mp h).2 path added]
    rfl
  | flawed flaw rest ih =>
    have hflawed := (List.forall_mem_cons.mp h).1
    cases hflawed

/-! ## Types -/

theorem typeMembers_succeeds (scalars : Scalars) {type : TypeRef} (h : type.Grammatical) :
    ∃ members, typeMembers scalars type = .ok members := by
  induction type with
  | named name =>
    obtain ⟨text, rfl, -⟩ := h
    exact ⟨_, rfl⟩
  | list item ih =>
    obtain ⟨members, hitem⟩ := ih h
    exact ⟨_, by rw [typeMembers, hitem]; rfl⟩
  | nonNull inner ih =>
    refine ih ?_
    cases inner with
    | nonNull inner => exact h.elim
    | _ => exact h
  | flawed flaw => exact h.elim

theorem describe_succeeds (members : Keyed String Json) {description : Readable (Option Label)}
    (h : SaysText description) : ∃ out, describe members description = .ok out := by
  obtain ⟨label?, rfl, -⟩ := h
  cases label? with
  | none => exact ⟨_, rfl⟩
  | some label => exact ⟨_, rfl⟩

/-- Fields never fail. -/
theorem fieldsOf_succeeds (scalars : Scalars) {definitions : List FieldDefinition}
    (h : ∀ field ∈ definitions, field.Grammatical) :
    ∃ fields, fieldsOf scalars definitions = .ok fields := by
  refine foldlM_succeeds (fun fields field hf => ?_) _
  obtain ⟨-, htype, htext⟩ := h field hf
  obtain ⟨members, hmembers⟩ := typeMembers_succeeds scalars htype
  obtain ⟨full, hfull⟩ := describe_succeeds members htext
  exact ⟨_, bind_eq_ok.mpr ⟨members, hmembers, bind_eq_ok.mpr ⟨full, hfull, rfl⟩⟩⟩

theorem typeEntry_succeeds (scalars : Scalars) {type : TypeDefinition}
    (h : (Definition.fielded type).Grammatical) : ∃ found, typeEntry scalars type = .ok found := by
  obtain ⟨⟨label, hname, -⟩, htext, hfields⟩ := h
  obtain ⟨fields, hf⟩ := fieldsOf_succeeds scalars hfields
  obtain ⟨members, hm⟩ := describe_succeeds (fieldedMembers fields) htext
  refine ⟨(label, .object members), bind_eq_ok.mpr ⟨fields, hf, bind_eq_ok.mpr ⟨members, hm, ?_⟩⟩⟩
  rw [hname]
  rfl

theorem enumEntry_succeeds {type : EnumDefinition} (h : (Definition.enum type).Grammatical) :
    ∃ found, enumEntry type = .ok found := by
  obtain ⟨⟨label, hname, -⟩, htext, hvalues⟩ := h
  have hread : ∀ value ∈ type.values, ∃ label, readable value = .ok label := by
    intro value hvalue
    obtain ⟨label, rfl, -⟩ := hvalues value hvalue
    exact ⟨label, rfl⟩
  obtain ⟨values, hv⟩ := mapM_succeeds_iff.mpr hread
  obtain ⟨members, hm⟩ := describe_succeeds (enumMembers values) htext
  refine ⟨(label, .object members), bind_eq_ok.mpr ⟨values, hv, bind_eq_ok.mpr ⟨members, hm, ?_⟩⟩⟩
  rw [hname]
  rfl

/-! ## Definitions -/

/-- An operation fails when it has no name, and else as its declarations do. -/
theorem failure?_operationEntry {operation : Operation}
    (h : (Definition.operation operation).Grammatical) :
    failure? (operationEntry scope operation).result = operation.fault? := by
  obtain ⟨⟨label?, hname, hlabel⟩, hdeclarations, hselections⟩ := h
  rw [operationEntry, Operation.fault?, hname]
  cases label? with
  | none => rfl
  | some label =>
    obtain ⟨text, rfl, htext⟩ := hlabel label rfl
    have hblank : (Label.text text).isBlank = false := by simpa [Label.isBlank] using htext
    have hselected (keys : List String) :
        failure? (selectionSetSchema (selectionScope scope (.text text) keys) [.text text]
          operation.selectionSet).result = none := by
      cases hset : operation.selectionSet with
      | none => rfl
      | some selections =>
        rw [selectionSetSchema, selectionTree, Reported.result_map, failure?_map]
        rw [hset, Option.getD_some] at hselections
        exact failure?_addSelections ⟨text, rfl⟩ hselections _ _
    have hread : Build.read .definition (.ok (some (Label.text text))) =
        (pure (some (.text text)) : Build (Option Label)) := rfl
    rw [hread, pure_bind]
    simp only [hblank, Bool.false_eq_true, if_false]
    rw [failure?_bind_left fun _ => rfl, operationSchema_eq]
    refine (failure?_bind_left fun found => ?_).trans (failure?_variablesPart hdeclarations)
    exact (failure?_bind_left fun _ => rfl).trans (hselected found.2)

/-- The entry of a definition fails with the fault of the definition. -/
theorem failure?_entry (converter : Converter) {definition : Definition} (h : definition.Grammatical)
    (hm : definition.isModelled = true) :
    failure? (converter.entry definition).result = definition.fault? := by
  cases definition with
  | operation operation =>
    rw [Converter.entry, Reported.result_map, failure?_map]
    exact failure?_operationEntry h
  | fielded type =>
    obtain ⟨found, hfound⟩ := typeEntry_succeeds converter.scalars h
    rw [Converter.entry, hfound]
    rfl
  | enum type =>
    obtain ⟨found, hfound⟩ := enumEntry_succeeds h
    rw [Converter.entry, hfound]
    rfl
  | other kind name => cases hm
  | flawed flaw => cases hm

theorem name_of_grammatical {definition : Definition} (h : definition.Grammatical) :
    ∃ name, definition.name = .ok name := by
  have hnamed {place : Readable (Option Label)} (hplace : Named place) :
      ∃ name, place = .ok name := by
    obtain ⟨label, rfl, -⟩ := hplace
    exact ⟨_, rfl⟩
  have hmaybe {place : Readable (Option Label)} (hplace : MaybeNamed place) :
      ∃ name, place = .ok name := by
    obtain ⟨label?, rfl, -⟩ := hplace
    exact ⟨_, rfl⟩
  cases definition with
  | operation operation => exact hmaybe h.1
  | fielded type => exact hnamed h.1
  | enum type => exact hnamed h.1
  | other kind name => exact hmaybe h
  | flawed flaw => exact h.elim

theorem failure?_convertDocument (converter : Converter) {definitions : Document}
    (h : ∀ definition ∈ definitions, definition.Grammatical) :
    failure? (converter.convertDocument definitions) =
      (attempted definitions).findSome? Definition.fault? := by
  have hresult := Converter.foldlM_addDefinition_result converter definitions _ _
    (Converter.holds_empty converter.layout) fun d hd => name_of_grammatical (h d hd)
  rw [Converter.convertDocument, failure?_map, Converter.documentOf, hresult, failure?_map]
  refine failure?_mapM fun definition hd => ?_
  obtain ⟨hmem, hm, -⟩ := of_mem_attemptedOf hd
  rw [Converter.convert_eq, failure?_map]
  exact failure?_entry converter (h definition hmem) hm

/-! ## When a document fails -/

/-- A variable of a named type has a default that is an integer of too many digits. -/
def HasLongDefault (declaration : VariableDefinition) : Prop :=
  declaration.type.typeName?.isSome = true ∧
    ∃ text, declaration.default? = some (.int text) ∧ digitLimit < digitCount text

/-- An operation has no name, or a variable whose default has too many digits. -/
def IsFaulty (operation : Operation) : Prop :=
  operation.name = .ok none ∨ ∃ d ∈ operation.declarations.getD [], HasLongDefault d

theorem fault?_declaration_isSome {declaration : VariableDefinition} :
    declaration.fault?.isSome = true ↔ HasLongDefault declaration := by
  obtain ⟨name, type, default?, directives⟩ := declaration
  unfold VariableDefinition.fault? HasLongDefault
  cases type.typeName? with
  | none => simp
  | some typeName =>
    cases default? with
    | none => simp
    | some value => cases value <;> simp [Value.fault?]

theorem fault?_isSome {definition : Definition} (h : definition.Grammatical) :
    definition.fault?.isSome = true ↔
      ∃ operation, definition = .operation operation ∧ IsFaulty operation := by
  cases definition with
  | operation operation =>
    obtain ⟨⟨label?, hname, -⟩, -⟩ := h
    rw [Definition.fault?, Operation.fault?, hname]
    cases label? with
    | none => simp [IsFaulty, hname]
    | some label => simp [IsFaulty, hname, List.isSome_findSome?, fault?_declaration_isSome]
  | _ => simp [Definition.fault?]

namespace Converter

/-- A document that follows the grammar fails with the first fault of a definition whose entry is
built: that an operation has no name, or that a default has too many digits. -/
theorem convertDocument_eq_error_iff (converter : Converter) {definitions : Document}
    (h : ∀ definition ∈ definitions, definition.Grammatical) :
    ((∃ e, converter.convertDocument definitions = .error e) ↔
      ∃ operation, .operation operation ∈ attempted definitions ∧ IsFaulty operation) ∧
    (∀ e, converter.convertDocument definitions = .error e ↔
      ∃ before operation after, attempted definitions = before ++ .operation operation :: after ∧
        (∀ earlier ∈ before, ¬ ∃ o, earlier = .operation o ∧ IsFaulty o) ∧
        operation.fault? = some e) := by
  have hattempted : ∀ definition ∈ attempted definitions, definition.Grammatical :=
    fun d hd => h d (of_mem_attemptedOf hd).1
  have hfail := failure?_convertDocument converter h
  constructor
  · have hsome : (∃ e, converter.convertDocument definitions = .error e) ↔
        (failure? (converter.convertDocument definitions)).isSome = true := by
      simp only [Option.isSome_iff_exists, failure?_eq_some]
    rw [hsome, hfail, List.isSome_findSome?, List.any_eq_true]
    constructor
    · rintro ⟨definition, hd, hfault⟩
      obtain ⟨operation, rfl, hfaulty⟩ := (fault?_isSome (hattempted _ hd)).mp hfault
      exact ⟨operation, hd, hfaulty⟩
    · rintro ⟨operation, hd, hfaulty⟩
      exact ⟨_, hd, (fault?_isSome (hattempted _ hd)).mpr ⟨operation, rfl, hfaulty⟩⟩
  · intro e
    rw [← failure?_eq_some, hfail, List.findSome?_eq_some_iff]
    -- the definitions before the first fault are in order, each for itself
    have hnone (earlier : Definition) (hd : earlier ∈ attempted definitions) :
        earlier.fault? = none ↔ ¬ ∃ o, earlier = .operation o ∧ IsFaulty o := by
      rw [← Option.not_isSome_iff_eq_none, fault?_isSome (hattempted earlier hd)]
    constructor
    · rintro ⟨before, definition, after, hall, hfault, hbefore⟩
      have hd : definition ∈ attempted definitions :=
        hall ▸ List.mem_append_right _ List.mem_cons_self
      obtain ⟨operation, rfl, -⟩ := (fault?_isSome (hattempted _ hd)).mp (by rw [hfault]; rfl)
      exact ⟨before, operation, after, hall, fun earlier he =>
        (hnone earlier (hall ▸ List.mem_append_left _ he)).mp (hbefore earlier he), hfault⟩
    · rintro ⟨before, operation, after, hall, hbefore, hfault⟩
      refine ⟨before, _, after, hall, hfault, fun earlier he => ?_⟩
      exact (hnone earlier (hall ▸ List.mem_append_left _ he)).mpr (hbefore earlier he)

/-- A negative integer of 4301 digits. -/
def longInteger : String := String.ofList ('-' :: List.replicate 4301 '1')

/-- A query with a variable that has a default. -/
def queryWithDefault (name : Option Label) (type : TypeRef) (value : Value) : Operation :=
  ⟨some .query, .ok name, some [⟨"a", type, some value, []⟩], [], some [.field none "f" [] [] none]⟩

theorem fault?_queryWithDefault (name typeName : Label) (value : Value) :
    (queryWithDefault (some name) (.nonNull (.named typeName)) value).fault? = value.fault? := by
  cases h : value.fault? <;>
    simp [Operation.fault?, queryWithDefault, VariableDefinition.fault?, TypeRef.typeName?, h]

/-- A query whose long default is that of a list, one of the same name, one of another name, and one
without a name. -/
def faultyDocument : Document :=
  [.operation (queryWithDefault "Q" (.list (.named "Int")) (.int longInteger)),
    .operation (queryWithDefault "Q" (.named "Int") (.int longInteger)),
    .operation (queryWithDefault "R" (.nonNull (.named "Int")) (.int longInteger)),
    .operation (queryWithDefault none (.named "Int") (.int longInteger))]

theorem isWhole_ones (n : Nat) : IsWhole (List.replicate (n + 1) '1') where
  ne_nil := by simp
  all := fun _ hc => List.eq_of_mem_replicate hc ▸ rfl
  led := fun rest h => by simp [List.replicate_succ] at h

theorem longInteger_facts : IsIntLiteral longInteger ∧ digitCount longInteger = 4301 := by
  have htext : longInteger.toList = ['-'] ++ List.replicate (4300 + 1) '1' := String.toList_ofList
  have hcount := (readInteger_of_parts htext .minus (isWhole_ones 4300).toIsDigits).1
  exact ⟨⟨_, true, _, htext, by decide, .minus, isWhole_ones 4300⟩,
    hcount.trans (List.length_replicate ..)⟩

/-- The default of a list is not looked at, nor is the operation whose name is taken; what comes
after the long default does not matter. -/
theorem convertDocument_eq_error_iff_faultyDocument :
    (∀ definition ∈ faultyDocument, definition.Grammatical) ∧
    convertDocument ⟨.properties, .builtin⟩ faultyDocument =
      .error (.literal (.tooManyDigits 4301)) := by
  have hname (text : String) (h : text ≠ "") : Label.IsName text := ⟨text, rfl, h⟩
  have hselection : Selection.Grammatical (.field none "f" [] [] none) :=
    .field (fun _ h => nomatch h) (hname "f" (by decide)) (fun _ h => nomatch h) fun _ h => nomatch h
  have hgrammatical : ∀ definition ∈ faultyDocument, definition.Grammatical := by
    simp [faultyDocument, queryWithDefault, Definition.Grammatical, MaybeNamed,
      VariableDefinition.Grammatical,
      TypeRef.Grammatical, Value.Grammatical, hname, longInteger_facts.1, hselection]
  have hlong : (Value.int longInteger).fault? = some (.literal (.tooManyDigits 4301)) := by
    rw [Value.fault?, longInteger_facts.2]
    exact if_pos (by decide)
  refine ⟨hgrammatical,
    ((convertDocument_eq_error_iff ⟨.properties, .builtin⟩ hgrammatical).2 _).mpr
      ⟨[.operation (queryWithDefault "Q" (.list (.named "Int")) (.int longInteger))],
        queryWithDefault "R" (.nonNull (.named "Int")) (.int longInteger),
        [.operation (queryWithDefault none (.named "Int") (.int longInteger))], rfl, ?_,
        (fault?_queryWithDefault _ _ _).trans hlong⟩⟩
  intro earlier he
  obtain rfl := List.mem_singleton.mp he
  simp [IsFaulty, queryWithDefault, HasLongDefault, TypeRef.typeName?]

end Converter

end Schema

end QuerySchema
