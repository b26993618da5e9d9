import QuerySchema.Proofs.DocumentMerge
import QuerySchema.Proofs.LastWrites
import QuerySchema.Proofs.SelectionSteps

/-!
What one step of building an operation can do.

The variables of an operation are added declaration by declaration; then come its selections, which
see the keys of the variables that have a property. A step lemma says all that can have happened
when a step succeeded, and the lemmas on whole lists of declarations follow from it.

What is proved:
  1. `defaultOf_cases`: what a default can be. `addVariable_eq_ok`: a declaration of a named type
     gives its key a property, any other one is reported; `addVariable_anywhere`: it does so wherever
     it is added.
  2. `inputsOf_decided`, `keys_inputsOf`, `mem_required_of_inputsOf`, `required_of_inputsOf`: the last
     declaration of a named type decides the property of a key, the first one its place, and each one
     that excludes null makes the key required once more.
  3. `operationSchema_eq_ok`: an operation is built from its variables, then its selections.
  4. `Converts.entry`: the entry of an operation stands in the document of a conversion under the
     container of the layout, whatever else the document was made from.
-/

namespace QuerySchema.GraphQL

/-- The name of a type that is named, with null or without. -/
def TypeRef.typeName? : TypeRef → Option Label
  | .named name | .nonNull (.named name) => some name
  | _ => none

/-- Whether a type is a list, or something other than a named type that excludes null. -/
def TypeRef.isListed : TypeRef → Bool
  | .list _ => true
  | .nonNull (.named _) => false
  | .nonNull _ => true
  | _ => false

end QuerySchema.GraphQL

namespace QuerySchema.Schema

open GraphQL

variable {scope : Scope} {reports : List Diagnostic}

/-! ## Variables -/

/-- Variables with different names have different keys. -/
theorem variableMark_injective : Function.Injective fun name : String => "$" ++ name := by
  intro name other h
  have hchars := congrArg String.toList h
  simp only [String.toList_append, List.append_right_inj] at hchars
  exact String.toList_injective hchars

/-- A mapped scalar says its type and nothing else, and any other name says nothing. -/
theorem baseProperty_cases (scalars : Scalars) (typeName : Label) :
    baseProperty scalars typeName = [] ∨
      ∃ type : Primitive, baseProperty scalars typeName = type.schema := by
  cases typeName with
  | truth value => exact .inl rfl
  | nothing => exact .inl rfl
  | text name =>
    rw [baseProperty, Scalars.schema?]
    cases scalars.get? name with
    | none => exact .inl rfl
    | some type => exact .inr ⟨type, rfl⟩

theorem integerDefault_eq_ok {text : String} {found : Option Json}
    (h : integerDefault text = .ok found) :
    ∃ n, Decimal.readInteger text = .ok n ∧ found = some (.int n) := by
  unfold integerDefault at h
  split at h
  · next n hread => exact ⟨n, hread, (Except.ok.inj h).symm⟩
  · cases h

theorem numberDefault_eq_ok {text : String} {found : Option Json}
    (h : numberDefault text = .ok found) :
    ∃ x, Decimal.readNumber text = .ok x ∧
      found = if x.isFinite then some (.float x) else none := by
  unfold numberDefault at h
  split at h
  · next x hread => exact ⟨x, hread, (Except.ok.inj h).symm⟩
  · cases h

/-- A default is an integer that was read, a finite number, or what a label stands for. -/
theorem defaultOf_cases {value : Value} {literal : Json} (h : defaultOf value = .ok (some literal)) :
    (∃ text n, Decimal.readInteger text = .ok n ∧ literal = .int n) ∨
      (∃ x, x.isFinite = true ∧ literal = .float x) ∨ ∃ label : Label, literal = label.json := by
  have hinteger {text : String} (h : integerDefault text = .ok (some literal)) :
      ∃ text n, Decimal.readInteger text = .ok n ∧ literal = .int n := by
    obtain ⟨n, hread, he⟩ := integerDefault_eq_ok h
    exact ⟨text, n, hread, Option.some.inj he⟩
  have hnumber {text : String} (h : numberDefault text = .ok (some literal)) :
      ∃ x, x.isFinite = true ∧ literal = .float x := by
    obtain ⟨x, -, he⟩ := numberDefault_eq_ok h
    split at he
    · next hfinite => exact ⟨x, hfinite, Option.some.inj he⟩
    · cases he
  have hlabel (label : Label) (h : (Except.ok (some label.json) : Except BuildError _) =
      .ok (some literal)) : ∃ label : Label, literal = label.json :=
    ⟨label, (Option.some.inj (Except.ok.inj h)).symm⟩
  unfold defaultOf at h
  split at h
  · exact .inl (hinteger h)
  · exact .inr (.inl (hnumber h))
  · next text _ => exact .inr (.inr (hlabel (.text text) h))
  · next value => exact .inr (.inr (hlabel (.truth value) h))
  · unfold defaultOf.oddDefault at h
    split at h
    · cases h
    · cases h
    · -- a truth value counts as one or zero, which are also read from a text
      next value =>
      cases h
      cases value with
      | true => exact .inl ⟨"1", 1, rfl, rfl⟩
      | false => exact .inl ⟨"0", 0, rfl, rfl⟩
    · exact .inr (.inl (hnumber h))
    · exact .inl (hinteger h)
    · exact .inr (.inl (hnumber h))
    · exact .inr (.inr (hlabel _ h))
  · cases h
  · cases h

/-- A property for a type: it says the type of the values, and besides at most a default. -/
def IsPropertyFor (scalars : Scalars) (typeName : Label) (property : Json) : Prop :=
  property = .object (baseProperty scalars typeName) ∨
    ∃ literal, property = .object ((baseProperty scalars typeName).put "default" literal)

/-- A variable has no default, one that its property holds, or one that is reported. -/
theorem variableProperty_eq_ok {typeName : Label} {default? : Option Value} {path : List Label}
    {property : Json}
    (h : variableProperty scope typeName default? path = ⟨reports, .ok property⟩) :
    (default? = none ∧ property = .object (baseProperty scope.scalars typeName) ∧ reports = []) ∨
    (∃ value literal, default? = some value ∧ defaultOf value = .ok (some literal) ∧
      property = .object ((baseProperty scope.scalars typeName).put "default" literal) ∧
      reports = []) ∨
    (∃ value kind, default? = some value ∧ defaultOf value = .ok none ∧ value.kind? = some kind ∧
      property = .object (baseProperty scope.scalars typeName) ∧
      reports = [(Omission.unsupportedDefault kind).reportAt path]) := by
  unfold variableProperty at h
  cases default? with
  | none =>
    obtain ⟨rfl, rfl⟩ := Reported.pure_eq_ok.mp h
    exact .inl ⟨rfl, rfl, rfl⟩
  | some value =>
    obtain ⟨found, r₁, r₂, hread, hrest, rfl⟩ := Reported.bind_eq_ok.mp h
    obtain ⟨rfl, hd⟩ := Reported.ofExcept_eq_ok.mp hread
    cases found with
    | some literal =>
      obtain ⟨rfl, rfl⟩ := Reported.pure_eq_ok.mp hrest
      exact .inr (.inl ⟨value, literal, rfl, hd, rfl, rfl⟩)
    | none =>
      cases hk : value.kind? with
      | none => rw [hk] at hrest; exact absurd hrest Reported.fail_ne_ok
      | some kind =>
        rw [hk] at hrest
        obtain ⟨rfl, rfl⟩ := Build.report_then_eq_ok.mp hrest
        exact .inr (.inr ⟨value, kind, rfl, hd, hk, rfl, rfl⟩)

theorem isPropertyFor_of_variableProperty {typeName : Label} {default? : Option Value}
    {path : List Label} {property : Json}
    (h : variableProperty scope typeName default? path = ⟨reports, .ok property⟩) :
    IsPropertyFor scope.scalars typeName property := by
  rcases variableProperty_eq_ok h with ⟨-, rfl, -⟩ | ⟨_, literal, -, -, rfl, -⟩ |
    ⟨_, _, -, -, -, rfl, -⟩
  · exact .inl rfl
  · exact .inr ⟨literal, rfl⟩
  · exact .inl rfl

/-- The path that leads to a variable in the scope of its operation. -/
def variablePath (scope : Scope) (name : Label) : List Label :=
  [(scope.operation.filter (!·.isBlank)).getD "", "variables", variableKey name]

theorem addVariable_eq_ok {inputs out : Inputs} {declaration : VariableDefinition}
    (h : addVariable scope inputs declaration = ⟨reports, .ok out⟩) :
    (∃ typeName property, declaration.type.typeName? = some typeName ∧
      variableProperty scope typeName declaration.default? (variablePath scope declaration.name) =
        ⟨reports, .ok property⟩ ∧
      out = inputs.add (variableKey declaration.name) property (excludesNull declaration.type)) ∨
    (declaration.type.typeName? = none ∧ declaration.type.isListed = true ∧ out = inputs ∧
      reports = [(Omission.listVariable (variableKey declaration.name)).reportAt
        (variablePath scope declaration.name)]) := by
  obtain ⟨name, type, default?, directives⟩ := declaration
  have hnamed {typeName : Label} {isRequired : Bool}
      (hbuild : (do
        let property ← variableProperty scope typeName default? (variablePath scope name)
        return inputs.add (variableKey name) property isRequired) =
          (⟨reports, .ok out⟩ : Build Inputs)) :
      ∃ property, variableProperty scope typeName default? (variablePath scope name) =
          ⟨reports, .ok property⟩ ∧ out = inputs.add (variableKey name) property isRequired := by
    obtain ⟨property, r₁, r₂, hproperty, hput, rfl⟩ := Reported.bind_eq_ok.mp hbuild
    obtain ⟨rfl, rfl⟩ := Reported.pure_eq_ok.mp hput
    exact ⟨property, by rwa [List.append_nil], rfl⟩
  have hlisted
      (hbuild : (do
        Build.report (.listVariable (variableKey name)) (variablePath scope name)
        return inputs) = (⟨reports, .ok out⟩ : Build Inputs)) : out = inputs ∧
      reports = [(Omission.listVariable (variableKey name)).reportAt (variablePath scope name)] := by
    obtain ⟨rfl, rfl⟩ := Build.report_then_eq_ok.mp hbuild
    exact ⟨rfl, rfl⟩
  cases type with
  | named typeName =>
    obtain ⟨property, hp, hout⟩ := hnamed h
    exact .inl ⟨typeName, property, rfl, hp, hout⟩
  | list item => exact .inr ⟨rfl, rfl, hlisted h⟩
  | flawed flaw => exact absurd h Reported.fail_ne_ok
  | nonNull inner =>
    cases inner with
    | named typeName =>
      obtain ⟨property, hp, hout⟩ := hnamed h
      exact .inl ⟨typeName, property, rfl, hp, hout⟩
    | list item => exact .inr ⟨rfl, rfl, hlisted h⟩
    | nonNull inner => exact .inr ⟨rfl, rfl, hlisted h⟩
    | flawed flaw =>
      cases flaw with
      | lacks holder part => exact absurd h Reported.fail_ne_ok
      | misplaced found => exact .inr ⟨rfl, rfl, hlisted h⟩
      | unlisted found => exact .inr ⟨rfl, rfl, hlisted h⟩

theorem addVariable_named {declaration : VariableDefinition} {typeName : Label}
    (h : declaration.type.typeName? = some typeName) (inputs : Inputs) :
    addVariable scope inputs declaration =
      (fun property => inputs.add (variableKey declaration.name) property
        (excludesNull declaration.type)) <$>
      variableProperty scope typeName declaration.default?
        (variablePath scope declaration.name) := by
  obtain ⟨name, type, default?, directives⟩ := declaration
  rw [map_eq_pure_bind]
  cases type with
  | named => cases h; rfl
  | list => cases h
  | flawed => cases h
  | nonNull inner =>
    cases inner with
    | named => cases h; rfl
    | list => cases h
    | nonNull => cases h
    | flawed => cases h

/-- What becomes of a declaration that is of no named type has nothing to do with the variables. -/
theorem addVariable_unnamed (scope : Scope) {declaration : VariableDefinition}
    (h : declaration.type.typeName? = none) : ∃ work : Build Unit, ∀ inputs,
      addVariable scope inputs declaration = work >>= fun _ => pure inputs := by
  obtain ⟨name, type, default?, directives⟩ := declaration
  have hlisted : ∃ work : Build Unit, ∀ inputs : Inputs, (do
      Build.report (.listVariable (variableKey name)) (variablePath scope name)
      return inputs) = work >>= fun _ => pure inputs := ⟨_, fun _ => rfl⟩
  have hfails (e : BuildError) : ∃ work : Build Unit, ∀ inputs : Inputs,
      (Build.fail e : Build Inputs) = work >>= fun _ => pure inputs := ⟨Build.fail e, fun _ => rfl⟩
  cases type with
  | named => cases h
  | list => exact hlisted
  | flawed => exact hfails _
  | nonNull inner =>
    cases inner with
    | named => cases h
    | list => exact hlisted
    | nonNull => exact hlisted
    | flawed flaw =>
      cases flaw with
      | lacks => exact hfails _
      | misplaced => exact hlisted
      | unlisted => exact hlisted

/-- What adding a declaration does, it does wherever the declaration is added. -/
theorem addVariable_anywhere {inputs out : Inputs} {declaration : VariableDefinition}
    (h : addVariable scope inputs declaration = ⟨reports, .ok out⟩) :
    (∃ property, declaration.type.typeName?.isSome = true ∧ ∀ other,
      addVariable scope other declaration = ⟨reports, .ok
        (other.add (variableKey declaration.name) property (excludesNull declaration.type))⟩) ∨
    (declaration.type.typeName? = none ∧
      ∀ other, addVariable scope other declaration = ⟨reports, .ok other⟩) := by
  cases ht : declaration.type.typeName? with
  | some typeName =>
    rw [addVariable_named ht] at h
    obtain ⟨property, hproperty, -⟩ := Reported.map_eq_ok.mp h
    refine .inl ⟨property, rfl, fun other => ?_⟩
    rw [addVariable_named ht]
    exact Reported.map_eq_ok.mpr ⟨property, hproperty, rfl⟩
  | none =>
    obtain ⟨work, hwork⟩ := addVariable_unnamed scope ht
    rw [hwork] at h
    obtain ⟨⟨⟩, r, _, hdone, hput, rfl⟩ := Reported.bind_eq_ok.mp h
    obtain ⟨rfl, -⟩ := Reported.pure_eq_ok.mp hput
    refine .inr ⟨rfl, fun other => ?_⟩
    rw [hwork]
    exact Reported.bind_eq_ok.mpr ⟨(), r, [], hdone, rfl, rfl⟩

/-! ## Lists of declarations -/

/-- The type of the last declaration of a key that has a named type. -/
def declaredType? (declarations : List VariableDefinition) (key : String) : Option Label :=
  Outcome.lastGiven (fun d => variableKey d.name = key) (fun d => d.type.typeName?) declarations

/-- Whether some declaration of a key has a named type that excludes null. -/
def IsDemanded (declarations : List VariableDefinition) (key : String) : Prop :=
  ∃ d ∈ declarations, variableKey d.name = key ∧ d.type.typeName?.isSome = true ∧
    excludesNull d.type = true

/-- The last named declaration of a key decides its property: what is read off such a declaration
holds of every property that is built for it. -/
theorem inputsOf_decided {σ : Type} {read : VariableDefinition → Option σ}
    {holds : σ → Json → Prop}
    (hnamed : ∀ d typeName property r, d.type.typeName? = some typeName →
      variableProperty scope typeName d.default? (variablePath scope d.name) = ⟨r, .ok property⟩ →
      ∃ said, read d = some said ∧ holds said property)
    (hlisted : ∀ d, d.type.typeName? = none → read d = none)
    {declarations : List VariableDefinition} {inputs : Inputs}
    (h : inputsOf scope declarations = ⟨reports, .ok inputs⟩) (key : String) :
    Outcome.Decided holds
      (Outcome.lastGiven (fun d => variableKey d.name = key) read declarations) none
      (inputs.properties.get? key) := by
  refine Outcome.foldlM_decided (fun inputs : Inputs => inputs.properties.get? key)
    (fun before declaration r next hstep => ?_) h
  rcases addVariable_eq_ok hstep with ⟨typeName, property, ht, hp, rfl⟩ | ⟨ht, -, rfl, -⟩
  · by_cases hk : variableKey declaration.name = key
    · obtain ⟨said, hsaid, hholds⟩ := hnamed declaration typeName property _ ht hp
      rw [if_pos hk, hsaid, ← hk]
      exact ⟨property, Keyed.get?_put_self _ _ _, hholds⟩
    · rw [if_neg hk]
      exact Keyed.get?_put_of_ne _ _ fun e => hk e.symm
  · -- a list has no property, and hides none that an earlier declaration gave
    rw [hlisted declaration ht, ite_self]
    rfl

/-- The property of a key is one for the type of its last named declaration. -/
theorem inputsOf_get? {declarations : List VariableDefinition} {inputs : Inputs}
    (h : inputsOf scope declarations = ⟨reports, .ok inputs⟩) (key : String) :
    Outcome.Decided (IsPropertyFor scope.scalars) (declaredType? declarations key) none
      (inputs.properties.get? key) :=
  inputsOf_decided (fun _ typeName _ _ ht hp => ⟨typeName, ht, isPropertyFor_of_variableProperty hp⟩)
    (fun _ ht => ht) h key

theorem mem_required_of_foldlM {declarations : List VariableDefinition} {inputs out : Inputs}
    (h : declarations.foldlM (addVariable scope) inputs = ⟨reports, .ok out⟩) (key : String) :
    key ∈ out.required ↔ key ∈ inputs.required ∨ IsDemanded declarations key := by
  induction declarations generalizing inputs reports with
  | nil =>
    obtain ⟨-, rfl⟩ := Reported.foldlM_nil_eq_ok.mp h
    simp [IsDemanded]
  | cons declaration rest ih =>
    obtain ⟨next, r₁, r₂, hstep, hrest, -⟩ := Reported.foldlM_cons_eq_ok.mp h
    have hcons : IsDemanded (declaration :: rest) key ↔
        (variableKey declaration.name = key ∧ declaration.type.typeName?.isSome = true ∧
          excludesNull declaration.type = true) ∨ IsDemanded rest key := by
      simp only [IsDemanded, List.mem_cons, exists_eq_or_imp]
    rw [ih hrest, hcons, ← or_assoc]
    refine or_congr ?_ Iff.rfl
    rcases addVariable_eq_ok hstep with ⟨typeName, property, ht, -, rfl⟩ | ⟨ht, -, rfl, -⟩
    · rw [Inputs.add, ht]
      split
      · next hn => simp [hn, eq_comm]
      · next hn => simp [hn]
    · simp [ht]

theorem mem_keys_of_inputsOf {declarations : List VariableDefinition} {inputs : Inputs}
    (h : inputsOf scope declarations = ⟨reports, .ok inputs⟩) (key : String) :
    key ∈ inputs.properties.keys ↔
      ∃ d ∈ declarations, variableKey d.name = key ∧ d.type.typeName?.isSome = true := by
  rw [Outcome.mem_keys_iff_of_decided (inputsOf_get? h key), declaredType?, Outcome.lastGiven_isSome]

theorem mem_required_of_inputsOf {declarations : List VariableDefinition} {inputs : Inputs}
    (h : inputsOf scope declarations = ⟨reports, .ok inputs⟩) (key : String) :
    key ∈ inputs.required ↔ IsDemanded declarations key := by
  rw [mem_required_of_foldlM h]
  exact or_iff_right List.not_mem_nil

/-- The declarations of variables that have to be given: those of a named type without null. -/
def demanded (declarations : List VariableDefinition) : List VariableDefinition :=
  declarations.filter fun d => d.type.typeName?.isSome && excludesNull d.type

/-- The keys of the variables that have to be given are required, one for each declaration. -/
theorem required_of_inputsOf {declarations : List VariableDefinition} {inputs : Inputs}
    (h : inputsOf scope declarations = ⟨reports, .ok inputs⟩) :
    inputs.required = (demanded declarations).map fun d => variableKey d.name := by
  refine Outcome.foldlM_appends_filter Inputs.required
    (fun d => d.type.typeName?.isSome && excludesNull d.type) (fun d => variableKey d.name)
    (fun before declaration reports next hstep => ?_) h
  rcases addVariable_eq_ok hstep with ⟨typeName, property, ht, -, rfl⟩ | ⟨ht, -, rfl, -⟩
  · simp [Inputs.add, ht]
  · simp [ht]

/-- The declarations of a named type. -/
def namedOnes (declarations : List VariableDefinition) : List VariableDefinition :=
  declarations.filter fun d => d.type.typeName?.isSome

/-- The variables that have a property are those with a named declaration, each once and in the order
of the first such declarations. -/
theorem keys_inputsOf {declarations : List VariableDefinition} {inputs : Inputs}
    (h : inputsOf scope declarations = ⟨reports, .ok inputs⟩) :
    inputs.properties.keys =
      ((namedOnes declarations).map fun d => variableKey d.name).eraseDups := by
  refine Keyed.keys_foldlM_filter Inputs.properties (fun d => variableKey d.name)
    (fun d => d.type.typeName?.isSome) (fun before declaration r next hstep => ?_)
    Keyed.nodup_keys_nil h
  rcases addVariable_eq_ok hstep with ⟨typeName, property, ht, -, rfl⟩ | ⟨ht, -, rfl, -⟩
  · rw [ht]
    exact ⟨property, rfl⟩
  · rw [ht]
    rfl

theorem nodup_keys_inputsOf {declarations : List VariableDefinition} {inputs : Inputs}
    (h : inputsOf scope declarations = ⟨reports, .ok inputs⟩) : inputs.properties.keys.Nodup :=
  keys_inputsOf h ▸ Keyed.nodup_eraseDups _

/-! ## Operations -/

/-- What an operation says of its variables, with the keys of those that have a property. -/
def variablesPart (scope : Scope) : Option (List VariableDefinition) → Build (Json × List String)
  | none => pure (.object [], [])
  | some [] => pure (.bool false, [])
  | some declarations =>
    (fun inputs => (inputs.schema, inputs.properties.keys)) <$> inputsOf scope declarations

/-- The scope in which the selections of an operation are built. -/
def selectionScope (scope : Scope) (name : Label) (keys : List String) : Scope :=
  ⟨scope.layout, scope.scalars, some name, keys⟩

theorem operationSchema_eq (scope : Scope) (name : Label) (operation : Operation) :
    operationSchema scope name operation = do
      let (inputs, keys) ← variablesPart (scope.within name) operation.declarations
      return operationObject inputs
        (← selectionSetSchema (selectionScope scope name keys) [name] operation.selectionSet) := by
  unfold operationSchema
  cases operation.declarations with
  | none => rfl
  | some declarations =>
    cases declarations with
    | nil => rfl
    | cons first rest =>
      simp only [inputs?, variablesPart, List.isEmpty_cons, Bool.false_eq_true, if_false,
        bind_map_left]
      rfl

theorem operationSchema_eq_ok {name : Label} {operation : Operation} {schema : Json}
    (h : operationSchema scope name operation = ⟨reports, .ok schema⟩) :
    ∃ inputs keys selections r₁ r₂,
      variablesPart (scope.within name) operation.declarations = ⟨r₁, .ok (inputs, keys)⟩ ∧
      selectionSetSchema (selectionScope scope name keys) [name] operation.selectionSet =
        ⟨r₂, .ok selections⟩ ∧
      schema = operationObject inputs selections ∧ reports = r₁ ++ r₂ := by
  rw [operationSchema_eq] at h
  obtain ⟨⟨inputs, keys⟩, r₁, _, hinputs, hrest, rfl⟩ := Reported.bind_eq_ok.mp h
  obtain ⟨selections, r₂, _, hselections, hput, rfl⟩ := Reported.bind_eq_ok.mp hrest
  obtain ⟨rfl, rfl⟩ := Reported.pure_eq_ok.mp hput
  exact ⟨inputs, keys, selections, r₁, r₂, hinputs, hselections, rfl, by rw [List.append_nil]⟩

theorem variablesPart_eq_ok {declarations? : Option (List VariableDefinition)} {schema : Json}
    {keys : List String}
    (h : variablesPart scope declarations? = ⟨reports, .ok (schema, keys)⟩) :
    (declarations? = none ∧ schema = .object [] ∧ keys = [] ∧ reports = []) ∨
    (declarations? = some [] ∧ schema = .bool false ∧ keys = [] ∧ reports = []) ∨
    ∃ declarations inputs, declarations? = some declarations ∧ declarations ≠ [] ∧
      inputsOf scope declarations = ⟨reports, .ok inputs⟩ ∧ schema = inputs.schema ∧
      keys = inputs.properties.keys := by
  match declarations?, h with
  | none, h =>
    obtain ⟨rfl, he⟩ := Reported.pure_eq_ok.mp h
    cases he
    exact .inl ⟨rfl, rfl, rfl, rfl⟩
  | some [], h =>
    obtain ⟨rfl, he⟩ := Reported.pure_eq_ok.mp h
    cases he
    exact .inr (.inl ⟨rfl, rfl, rfl, rfl⟩)
  | some (first :: rest), h =>
    obtain ⟨inputs, hinputs, he⟩ := Reported.map_eq_ok.mp h
    cases he
    exact .inr (.inr ⟨_, inputs, rfl, List.cons_ne_nil _ _, hinputs, rfl, rfl⟩)

/-! ## The entry of an operation in a document -/

namespace Converter

variable {converter : Converter} {operation : Operation} {c : Conversion}

/-- A conversion in which an operation has its entry: that of the operation alone, or that of a
document in which the operation is attempted. -/
def Converts (converter : Converter) (operation : Operation) (c : Conversion) : Prop :=
  converter.convert (.operation operation) = .ok c ∨
    ∃ definitions, .operation operation ∈ attempted definitions ∧
      converter.convertDocument definitions = .ok c

/-- The entry of an attempted definition is found under its name, unless it is the null name; what
comes before or after it in the document has other names. -/
theorem get?_of_attempted {definitions : Document} {definition : Definition}
    {name : Label} {entry : Entry} (h : converter.convertDocument definitions = .ok c)
    (hd : definition ∈ attempted definitions) (hname : name ≠ .nothing)
    (hentry : converter.entriesOf definition = [(name, entry)]) :
    c.document.entries.get? name = some entry := by
  obtain ⟨conversions, -, hdoc, hentries, -⟩ := convertDocument_ok h
  have hmem : (name, entry) ∈ (attempted definitions).flatMap converter.entriesOf :=
    List.mem_flatMap.mpr ⟨definition, hd, hentry ▸ List.mem_singleton_self _⟩
  rw [hdoc, write, hentries]
  refine Keyed.get?_foldl_put _ _ (fun p hp he => ?_) (.inr hmem)
  -- no other entry that is written has this name
  have hdistinct := entriesOf_distinct converter definitions
  have hsame := List.Pairwise.forall_of_forall_of_flip
    (R := fun a b : Label × Entry => a.1 = b.1 → a.1 = .nothing ∨ a = b)
    (fun _ _ _ => .inr rfl)
    (hdistinct.imp fun hab he => .inl (hab he).1)
    (hdistinct.imp fun hab he => .inl (he.trans (hab he.symm).1))
  rcases hsame hp hmem he with hnull | rfl
  · exact absurd (he.symm.trans hnull) hname
  · rfl

/-- A converted operation has its entry in the container of the layout, under its name. -/
theorem Converts.entry (h : converter.Converts operation c) :
    ∃ name schema reports, operationEntry converter.scope operation = ⟨reports, .ok (name, schema)⟩ ∧
      c.document.layout = converter.layout ∧
      (c.document.under converter.layout.container).get? name = some schema := by
  have hunder {document : SchemaDocument} {name : Label} {schema : Json}
      (hlayout : document.layout = converter.layout)
      (hget : document.entries.get? name = some ⟨true, schema⟩) :
      (document.under converter.layout.container).get? name = some schema := by
    rw [SchemaDocument.under, hlayout]
    exact Keyed.get?_select
      (fun entry => decide (entry.container converter.layout = converter.layout.container))
      Entry.schema hget (by simp [Entry.container])
  rcases h with h | ⟨definitions, hd, h⟩
  · obtain ⟨name, entry, hfound, hdoc⟩ := convert_eq_ok h
    obtain ⟨⟨name, schema⟩, hentry, he⟩ := Reported.map_eq_ok.mp hfound
    cases he
    rw [hdoc]
    exact ⟨name, schema, _, hentry, rfl, hunder rfl (by simp [Keyed.get?])⟩
  · obtain ⟨conversions, hc, hdoc, -, -⟩ := convertDocument_ok h
    obtain ⟨conversion, -, hconv⟩ := Outcome.exists_of_mapM hc _ hd
    obtain ⟨name, entry, hfound, -⟩ := convert_eq_ok hconv
    obtain ⟨⟨name, schema⟩, hentry, he⟩ := Reported.map_eq_ok.mp hfound
    cases he
    have hlayout : c.document.layout = converter.layout := by rw [hdoc]; rfl
    have hnamed : name ≠ .nothing := by
      rintro rfl
      have hblank := (operationEntry_eq_ok hentry).2.1
      cases hblank
    exact ⟨name, schema, _, hentry, hlayout,
      hunder hlayout (get?_of_attempted h hd hnamed (entriesOf_of_entry hfound))⟩

end Converter

end QuerySchema.Schema
