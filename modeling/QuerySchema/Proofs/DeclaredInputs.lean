import QuerySchema.Proofs.OmissionTrace
import QuerySchema.Proofs.OperationMeaning

/-!
What becomes of every variable that an operation declares.

Only declarations of a named type, with null or without, give a variable a property; those of a list
are passed over. When a variable is declared again, its place is that of the first declaration and
its property that of the last: the default of a declaration goes with it. Each declaration that
excludes null makes its variable required, as often as there are such declarations. The variables
with a property are the ones that arguments can refer to.

What is proved:
  1. `variableProperty_isSaid`, `inputsOf_isSaid`: the last named declaration of a key says what its
     property is, with its default.
  2. `inputsOf_sublist`, `required_subset_keys`: lists can be left out, and what is required has a
     property.
  3. `addArgument_gives`: an argument is given the same schema wherever it is added.
  4. `inputsSchema_accounts`: keys, properties and required variables of a list of declarations, and
     what they mean for the arguments of the operation.
-/

namespace QuerySchema.Schema

open GraphQL

variable {scope : Scope} {path : List Label} {reports : List Diagnostic}
  {declarations : List VariableDefinition} {inputs : Inputs}

/-! ## The property of a variable -/

/-- What a declaration says of its variable, if it has a named type: the type and the default. -/
def saysOf (declaration : VariableDefinition) : Option (Label × Option Value) :=
  declaration.type.typeName?.map fun typeName => (typeName, declaration.default?)

/-- What the last declaration of a key says that has a named type. -/
def lastSaid? (declarations : List VariableDefinition) (key : String) :
    Option (Label × Option Value) :=
  Outcome.lastGiven (fun d => variableKey d.name = key) saysOf declarations

/-- The property of a variable that is said to have a type and a default: the type that is registered
for the name, if one is, and then the default, if it is a plain literal. -/
def IsSaid (scalars : Scalars) (said : Label × Option Value) (property : Json) : Prop :=
  ∃ default? : Option Json,
    property = .object
      ((registered? scalars said.1).toList.map (fun type => ("type", .string type.text)) ++
        default?.toList.map fun literal => ("default", literal)) ∧
    (default?.isSome = true ↔ ∃ value, said.2 = some value ∧ isPlainLiteral value = true) ∧
    ∀ literal, default? = some literal →
      ∃ value, said.2 = some value ∧ defaultOf value = .ok (some literal)

theorem baseProperty_eq_map (scalars : Scalars) (typeName : Label) :
    baseProperty scalars typeName =
      (registered? scalars typeName).toList.map fun type => ("type", .string type.text) := by
  rw [baseProperty_eq]
  cases registered? scalars typeName with
  | none => rfl
  | some type => rfl

theorem default_not_mem_baseProperty (scalars : Scalars) (typeName : Label) :
    "default" ∉ (baseProperty scalars typeName).keys := by
  rw [baseProperty_eq_map, Keyed.keys, List.map_map, List.mem_map]
  rintro ⟨type, -, hkey⟩
  have hkeys : ("type" : String) = "default" := hkey
  exact absurd hkeys (by decide)

/-- A default comes after what is said of the type. -/
theorem put_default_baseProperty (scalars : Scalars) (typeName : Label) (literal : Json) :
    (baseProperty scalars typeName).put "default" literal =
      baseProperty scalars typeName ++ [("default", literal)] :=
  Keyed.put_eq_append (default_not_mem_baseProperty scalars typeName) literal

/-- A variable has the property that its declaration says. -/
theorem variableProperty_isSaid {typeName : Label} {default? : Option Value} {property : Json}
    (h : variableProperty scope typeName default? path = ⟨reports, .ok property⟩) :
    IsSaid scope.scalars (typeName, default?) property := by
  unfold IsSaid
  rw [← baseProperty_eq_map]
  -- there is no default, or it is a plain literal, or it is not one and is left out
  rcases variableProperty_eq_ok h with ⟨rfl, rfl, -⟩ | ⟨value, literal, rfl, hd, rfl, -⟩ |
    ⟨value, kind, rfl, hd, -, rfl, -⟩
  · refine ⟨none, by rw [Option.toList_none, List.map_nil, List.append_nil], ?_, ?_⟩
    · exact iff_of_false Bool.false_ne_true fun ⟨value, hvalue, _⟩ => nomatch hvalue
    · exact fun literal hliteral => nomatch hliteral
  · have hplain : isPlainLiteral value = true := (defaultOf_isSome hd).symm
    refine ⟨some literal, congrArg Json.object (put_default_baseProperty _ _ _), ?_, ?_⟩
    · exact iff_of_true rfl ⟨value, rfl, hplain⟩
    · intro found hfound
      cases hfound
      exact ⟨value, rfl, hd⟩
  · have hplain : isPlainLiteral value = false := (defaultOf_isSome hd).symm
    refine ⟨none, by rw [Option.toList_none, List.map_nil, List.append_nil], ?_, ?_⟩
    · refine iff_of_false Bool.false_ne_true ?_
      rintro ⟨other, hother, hplains⟩
      cases hother
      rw [hplain] at hplains
      cases hplains
    · exact fun literal hliteral => nomatch hliteral

/-! ## A list of declarations -/

/-- The last named declaration of a key says what its property is. -/
theorem inputsOf_isSaid (h : inputsOf scope declarations = ⟨reports, .ok inputs⟩) (key : String) :
    Outcome.Decided (IsSaid scope.scalars) (lastSaid? declarations key) none
      (inputs.properties.get? key) := by
  refine inputsOf_decided (fun declaration typeName property r ht hp => ?_)
    (fun declaration ht => ?_) h key
  · exact ⟨(typeName, declaration.default?), by rw [saysOf, ht, Option.map_some],
      variableProperty_isSaid hp⟩
  · rw [saysOf, ht, Option.map_none]

/-- Declarations of lists can be left out, in any number. -/
theorem inputsOf_sublist {kept : List VariableDefinition} (hkept : kept.Sublist declarations)
    (hsame : namedOnes kept = namedOnes declarations)
    (h : inputsOf scope declarations = ⟨reports, .ok inputs⟩) :
    ∃ r, inputsOf scope kept = ⟨r, .ok inputs⟩ := by
  refine Reported.foldlM_sublist (fun declaration hcounts before r next hstep => ?_) hkept hsame h
  rcases addVariable_eq_ok hstep with ⟨typeName, property, ht, -, -⟩ | ⟨-, -, hnext, -⟩
  · rw [ht] at hcounts
    cases hcounts
  · exact hnext

/-- What has to be given is among what can be given. -/
theorem required_subset_keys (h : inputsOf scope declarations = ⟨reports, .ok inputs⟩) :
    inputs.required ⊆ inputs.properties.keys := by
  intro key hkey
  obtain ⟨d, hd, hk, hnamed, -⟩ := (mem_required_of_inputsOf h key).mp hkey
  exact (mem_keys_of_inputsOf h key).mpr ⟨d, hd, hk, hnamed⟩

/-! ## The arguments of the operation -/

/-- In a scope, an argument is given a schema, at whatever field it is passed and whatever was passed
before it. -/
def Gives (scope : Scope) (argument : Argument) (schema : Json) : Prop :=
  ∀ path properties, ∃ reports, addArgument scope path properties argument =
    ⟨reports, .ok (properties.put argument.name schema)⟩

/-- An argument that could be added once is given a reference if its variable has a property, and
accepts anything otherwise. -/
theorem addArgument_gives {properties added : Keyed Label Json} {argument : Argument}
    {variableName : Label} (hv : argument.value = .variable variableName)
    (h : addArgument scope path properties argument = ⟨reports, .ok added⟩) :
    ∃ schema, Gives scope argument schema ∧ IsBoundSchema scope variableName schema := by
  unfold IsBoundSchema
  by_cases hd : variableKey variableName ∈ scope.declared
  · obtain ⟨pointer, hp, hevery⟩ := addArgument_of_declared hv hd h
    refine ⟨reference pointer, fun path properties => ⟨[], hevery path properties⟩, ?_⟩
    rw [if_pos hd]
    exact ⟨pointer, hp, rfl⟩
  · refine ⟨.object [], fun path properties => ?_, if_neg hd ▸ rfl⟩
    have hcontains : scope.declared.contains (variableKey variableName) = false := by simpa using hd
    simp only [addArgument, hv, hcontains, Bool.false_eq_true, if_false]
    exact ⟨_, rfl⟩

/-- The selections of an operation with declared variables are built where the keys of these
variables are known, and so are its arguments. -/
theorem operationSchema_gives {outer : Scope} {name : Label} {operation : Operation} {entry : Json}
    {r : List Diagnostic} (hne : declarations ≠ [])
    (h : inputsOf (outer.within name) declarations = ⟨reports, .ok inputs⟩)
    (hdeclared : operation.declarations = some declarations)
    (hentry : operationSchema outer name operation = ⟨r, .ok entry⟩) :
    (∃ selections, entry = operationObject inputs.schema selections) ∧
    ∀ argument variableName, operation.Passes argument → argument.value = .variable variableName →
      ∃ schema, Gives (selectionScope outer name inputs.properties.keys) argument schema ∧
        IsBoundSchema (selectionScope outer name inputs.properties.keys) variableName schema := by
  obtain ⟨part, keys, selections, r₁, r₂, hpart, hselections, rfl, -⟩ := operationSchema_eq_ok hentry
  rw [hdeclared] at hpart
  rcases variablesPart_eq_ok hpart with ⟨hnone, -⟩ | ⟨hnil, -⟩ | ⟨_, _, hsome, -, hbuild, rfl, rfl⟩
  · cases hnone
  · exact absurd (Option.some.inj hnil) hne
  · cases hsome
    rw [h] at hbuild
    cases hbuild
    refine ⟨⟨selections, rfl⟩, fun argument variableName ⟨list, hset, hpasses⟩ hv => ?_⟩
    rw [hset] at hselections
    obtain ⟨properties, hbuilt, -⟩ := Reported.map_eq_ok.mp hselections
    obtain ⟨_, _, _, _, hadd⟩ := addSelections_visits hpasses hbuilt
    exact addArgument_gives hv hadd

/-! ## The inputs of an operation -/

/-- Every declaration of an operation is accounted for in the schema of an object that has certain
properties and no others. The keys of the properties are those of the declarations of a named type, in
the order in which they first come; the last of them says what the property is, with its default or
without one. What is required are the keys of the declarations that exclude null, one for each, and
each of them has a property. Declarations of lists can be left out without any change. In the
operation itself, an argument that is bound to a variable is given a reference if the variable has a
property here, and accepts anything if it has none. -/
theorem inputsSchema_accounts {schema : Json} (hne : declarations ≠ [])
    (h : inputsSchema <$> inputs? scope declarations = ⟨reports, .ok schema⟩) :
    ∃ inputs, inputsOf scope declarations = ⟨reports, .ok inputs⟩ ∧
      schema = .object [("type", .string "object"), ("properties", .object inputs.properties),
        ("required", .array (inputs.required.map .string)), ("additionalProperties", .bool false)] ∧
      inputs.properties.keys =
        ((namedOnes declarations).map fun d => variableKey d.name).eraseDups ∧
      (∀ key said, lastSaid? declarations key = some said →
        ∃ property, inputs.properties.get? key = some property ∧
          IsSaid scope.scalars said property) ∧
      inputs.required = (demanded declarations).map (fun d => variableKey d.name) ∧
      inputs.required ⊆ inputs.properties.keys ∧
      (∀ kept, kept.Sublist declarations → namedOnes kept = namedOnes declarations →
        ∃ r, inputsOf scope kept = ⟨r, .ok inputs⟩) ∧
      ∀ outer name operation entry r, scope = Scope.within outer name →
        operation.declarations = some declarations →
        operationSchema outer name operation = ⟨r, .ok entry⟩ →
        (∃ selections, entry = operationObject schema selections) ∧
        ∀ argument variableName, operation.Passes argument →
          argument.value = .variable variableName →
          ∃ given, Gives (selectionScope outer name inputs.properties.keys) argument given ∧
            (variableKey variableName ∈ inputs.properties.keys ↔
              ∃ pointer, given = reference pointer) ∧
            (variableKey variableName ∉ inputs.properties.keys ↔ given = .object []) := by
  have hsome : inputs? scope declarations = some <$> inputsOf scope declarations := by
    rw [inputs?, if_neg fun hempty => hne (List.isEmpty_iff.mp hempty)]
  rw [hsome] at h
  obtain ⟨_, hmap, hschema⟩ := Reported.map_eq_ok.mp h
  obtain ⟨inputs, hbuild, rfl⟩ := Reported.map_eq_ok.mp hmap
  refine ⟨inputs, hbuild, hschema.symm, keys_inputsOf hbuild, fun key said hlast => ?_,
    required_of_inputsOf hbuild, required_subset_keys hbuild,
    fun kept hkept hsame => inputsOf_sublist hkept hsame hbuild, ?_⟩
  · exact (inputsOf_isSaid hbuild key).exists hlast
  · rintro outer name operation entry r rfl hdeclared hentry
    obtain ⟨⟨selections, hselections⟩, hgives⟩ :=
      operationSchema_gives hne hbuild hdeclared hentry
    refine ⟨⟨selections, hselections.trans (congrArg (operationObject · selections) hschema)⟩, ?_⟩
    intro argument variableName hpasses hv
    obtain ⟨given, hgiven, hbound⟩ := hgives argument variableName hpasses hv
    refine ⟨given, hgiven, ?_⟩
    -- a reference is an object with a member, so the two cases exclude each other
    unfold IsBoundSchema at hbound
    split at hbound
    · next hd =>
      obtain ⟨pointer, -, rfl⟩ := hbound
      exact ⟨iff_of_true hd ⟨pointer, rfl⟩, iff_of_false (fun hn => hn hd) (by simp [reference])⟩
    · next hd =>
      rw [hbound]
      exact ⟨iff_of_false hd (by simp [reference]), iff_of_true hd rfl⟩

/-- Two variables that are declared again and again, and a list. -/
def repeatedDeclarations : List VariableDefinition :=
  [⟨"a", .named "Int", some (.int "1"), []⟩, ⟨"b", .nonNull (.named "ID"), none, []⟩,
    ⟨"a", .list (.named "Int"), some (.int "2"), []⟩,
    ⟨"b", .nonNull (.named "Date"), some (.enum "TODAY"), []⟩,
    ⟨"c", .nonNull (.list (.named "ID")), none, []⟩,
    ⟨"a", .nonNull (.named "String"), some (.string "x" false), []⟩]

/-- A query with these declarations, which passes all three variables. -/
def repeatingQuery : Operation :=
  ⟨some .query, .ok (some "Q"), some repeatedDeclarations, [],
    some [.field none "f" [⟨"x", .variable "a"⟩, ⟨"y", .variable "b"⟩, ⟨"z", .variable "c"⟩] [] none]⟩

/-- The first variable ends with the type and the default of its last declaration, the second with
neither, and the list has no property; so only the first two arguments are given references. -/
theorem inputsSchema_accounts_repeatingQuery :
    ∃ (inputs : Inputs) (reports r : List Diagnostic) (entry z : Json) (x : String),
      repeatedDeclarations ≠ [] ∧
      inputsSchema <$> inputs? ((Scope.top .definitions .builtin).within "Q") repeatedDeclarations =
        ⟨reports, .ok inputs.schema⟩ ∧
      operationSchema (.top .definitions .builtin) "Q" repeatingQuery = ⟨r, .ok entry⟩ ∧
      inputs.properties.keys = ["$a", "$b"] ∧ inputs.required = ["$b", "$b", "$a"] ∧
      inputs.properties.get? "$a" =
        some (.object [("type", .string "string"), ("default", .string "x")]) ∧
      Gives (selectionScope (.top .definitions .builtin) "Q" inputs.properties.keys)
        ⟨"x", .variable "a"⟩ (reference x) ∧
      Gives (selectionScope (.top .definitions .builtin) "Q" inputs.properties.keys)
        ⟨"z", .variable "c"⟩ z ∧ z = .object [] := by
  have hne : repeatedDeclarations ≠ [] := List.cons_ne_nil _ _
  have hbuild : inputsSchema <$> inputs? ((Scope.top .definitions .builtin).within "Q")
      repeatedDeclarations = ⟨_, .ok _⟩ := rfl
  have hentry : operationSchema (.top .definitions .builtin) "Q" repeatingQuery = ⟨_, .ok _⟩ := rfl
  obtain ⟨inputs, -, hschema, hkeys, hlast, hrequired, -, -, hgives⟩ :=
    inputsSchema_accounts hne hbuild
  obtain ⟨property, hproperty, default?, rfl, hsome, hliteral⟩ :=
    hlast "$a" ("String", some (.string "x" false)) rfl
  obtain ⟨literal, rfl⟩ := Option.isSome_iff_exists.mp (hsome.mpr ⟨_, rfl, rfl⟩)
  obtain ⟨_, hvalue, hliteral⟩ := hliteral literal rfl
  cases hvalue
  cases hliteral
  have hkeys : inputs.properties.keys = ["$a", "$b"] := by
    rw [hkeys]
    decide
  obtain ⟨-, hgives⟩ := hgives _ _ _ _ _ rfl rfl hentry
  obtain ⟨first, hfirst, hreference, -⟩ := hgives ⟨"x", .variable "a"⟩ "a"
    ⟨_, rfl, .here (by simp)⟩ rfl
  obtain ⟨third, hthird, -, hfree⟩ := hgives ⟨"z", .variable "c"⟩ "c"
    ⟨_, rfl, .here (by simp)⟩ rfl
  obtain ⟨x, rfl⟩ := hreference.mp (by rw [hkeys]; decide)
  exact ⟨inputs, _, _, _, third, x, hne, hbuild.trans (by rw [hschema]; rfl), hentry, hkeys,
    hrequired.trans (by decide), hproperty, hfirst, hthird, hfree.mp (by rw [hkeys]; decide)⟩

end QuerySchema.Schema
