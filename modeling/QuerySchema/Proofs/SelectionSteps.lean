import QuerySchema.Proofs.Outcomes
import QuerySchema.Schema.Selections

/-!
What one step of building a selection set can do.

The properties of a selection set are built selection by selection, those of a field's arguments
argument by argument. Each step either extends the properties or leaves them alone, and makes the
reports of its own part; a step lemma here says all that can have happened when it succeeded.
`selections_induction` follows the tree: along a list of selections and into what a field selects.
What the parts keep in every step, `SelectionInvariant.of_addSelections` gives of the whole.
-/

namespace QuerySchema.GraphQL

/-- Induction over a selection set, from its first selection on, with the hypothesis also for what
a field selects. -/
@[elab_as_elim]
theorem selections_induction {motive : List Selection → Prop} (nil : motive [])
    (field : ∀ alias? name arguments directives sub rest,
      (∀ selections, sub = some selections → motive selections) → motive rest →
      motive (.field alias? name arguments directives sub :: rest))
    (fragmentSpread : ∀ name directives rest, motive rest →
      motive (.fragmentSpread name directives :: rest))
    (inlineFragment : ∀ condition directives inner rest, motive rest →
      motive (.inlineFragment condition directives inner :: rest))
    (flawed : ∀ flaw rest, motive rest → motive (.flawed flaw :: rest)) :
    ∀ selections, motive selections
  | [] => nil
  | .field alias? name arguments directives none :: rest =>
    field alias? name arguments directives none rest (fun _ h => nomatch h)
      (selections_induction nil field fragmentSpread inlineFragment flawed rest)
  | .field alias? name arguments directives (some inner) :: rest =>
    field alias? name arguments directives (some inner) rest
      (fun _ h => Option.some.inj h ▸
        selections_induction nil field fragmentSpread inlineFragment flawed inner)
      (selections_induction nil field fragmentSpread inlineFragment flawed rest)
  | .fragmentSpread name directives :: rest =>
    fragmentSpread name directives rest
      (selections_induction nil field fragmentSpread inlineFragment flawed rest)
  | .inlineFragment condition directives inner :: rest =>
    inlineFragment condition directives inner rest
      (selections_induction nil field fragmentSpread inlineFragment flawed rest)
  | .flawed flaw :: rest =>
    flawed flaw rest (selections_induction nil field fragmentSpread inlineFragment flawed rest)

end QuerySchema.GraphQL

namespace QuerySchema.Schema

open GraphQL

variable {scope : Scope} {path : List Label} {reports : List Diagnostic}

/-! ## Arguments -/

/-- An argument that was added is bound to a variable with a schema, bound to one without, or a
literal. -/
theorem addArgument_eq_ok {properties added : Keyed Label Json} {argument : Argument}
    (h : addArgument scope path properties argument = ⟨reports, .ok added⟩) :
    (∃ variableName pointer, argument.value = .variable variableName ∧
      variableKey variableName ∈ scope.declared ∧
      variablePointer scope variableName = .ok pointer ∧
      added = properties.put argument.name (reference pointer) ∧ reports = []) ∨
    (∃ variableName, argument.value = .variable variableName ∧
      variableKey variableName ∉ scope.declared ∧
      added = properties.put argument.name (.object []) ∧
      reports = [(Omission.unresolvedVariable argument.name variableName).reportAt
        (path ++ [argument.name])]) ∨
    (∃ kind, (∀ variableName, argument.value ≠ .variable variableName) ∧
      argument.value.kind? = some kind ∧ added = properties ∧
      reports = [(Omission.literalArgument kind argument.name).reportAt
        (path ++ [argument.name])]) := by
  unfold addArgument at h
  split at h
  · next variableName hv =>
    split at h
    · next hd =>
      obtain ⟨pointer, r₁, r₂, hread, hr, rfl⟩ := Reported.bind_eq_ok.mp h
      obtain ⟨rfl, hp⟩ := Reported.ofExcept_eq_ok.mp hread
      obtain ⟨rfl, rfl⟩ := Reported.pure_eq_ok.mp hr
      exact .inl ⟨variableName, pointer, hv, by simpa using hd, hp, rfl, rfl⟩
    · next hd =>
      obtain ⟨rfl, rfl⟩ := Build.report_then_eq_ok.mp h
      exact .inr (.inl ⟨variableName, hv, by simpa using hd, rfl, rfl⟩)
  · exact absurd h Reported.fail_ne_ok
  · next hv _ =>
    split at h
    · next kind hk =>
      obtain ⟨rfl, rfl⟩ := Build.report_then_eq_ok.mp h
      exact .inr (.inr ⟨kind, hv, hk, rfl, rfl⟩)
    · exact absurd h Reported.fail_ne_ok

/-- The schemas of no arguments and of some. -/
def passedSchema (scope : Scope) (path : List Label) (arguments : List Argument) : Build Json :=
  if arguments.isEmpty then pure (.object []) else argumentsSchema scope path arguments

/-- The object that the schemas of the arguments make up. -/
def passedObject (properties : Keyed Label Json) : Json :=
  .object [("type", .string "object"), ("properties", labelled properties),
    ("required", .array []), ("additionalProperties", .bool false)]

theorem argumentsSchema_eq_ok {arguments : List Argument} {schema : Json} :
    argumentsSchema scope path arguments = ⟨reports, .ok schema⟩ ↔ ∃ properties,
      argumentProperties scope path arguments = ⟨reports, .ok properties⟩ ∧
      passedObject properties = schema := by
  rw [← Reported.map_eq_ok, map_eq_pure_bind]
  rfl

theorem passedSchema_eq_ok {arguments : List Argument} {schema : Json}
    (h : passedSchema scope path arguments = ⟨reports, .ok schema⟩) :
    (arguments = [] ∧ schema = .object [] ∧ reports = []) ∨
    (arguments ≠ [] ∧ ∃ properties, schema = passedObject properties ∧
      argumentProperties scope path arguments = ⟨reports, .ok properties⟩) := by
  unfold passedSchema at h
  split at h
  · next he =>
    obtain ⟨rfl, rfl⟩ := Reported.pure_eq_ok.mp h
    exact .inl ⟨List.isEmpty_iff.mp he, rfl, rfl⟩
  · next he =>
    obtain ⟨properties, hbuild, rfl⟩ := argumentsSchema_eq_ok.mp h
    exact .inr ⟨fun e => he (List.isEmpty_iff.mpr e), properties, rfl, hbuild⟩

/-! ## Fields -/

/-- The schema of what a field selects; anything when it has no selection set. -/
def innerSchema (scope : Scope) (path : List Label) : Option (List Selection) → Build Json
  | none => pure (.object [])
  | some selections => selectedObject <$> addSelections scope path [] selections

/-- A field is a leaf, or its parts are built one after the other. -/
theorem fieldSchema_eq (arguments : List Argument) (sub : Option (List Selection)) :
    fieldSchema scope path arguments sub =
      if sub = none ∧ arguments = [] then pure (.object []) else do
        let selected ← innerSchema scope path sub
        let passed ← passedSchema scope path arguments
        return fieldObject selected passed := by
  cases sub with
  | none => cases arguments <;> simp [fieldSchema, innerSchema, passedSchema]
  | some selections => cases arguments <;> simp [fieldSchema, innerSchema, passedSchema]

theorem fieldSchema_eq_ok {arguments : List Argument} {sub : Option (List Selection)} {schema : Json}
    (h : fieldSchema scope path arguments sub = ⟨reports, .ok schema⟩) :
    (sub = none ∧ arguments = [] ∧ schema = .object [] ∧ reports = []) ∨
    (¬ (sub = none ∧ arguments = []) ∧ ∃ selected passed r₁ r₂,
      innerSchema scope path sub = ⟨r₁, .ok selected⟩ ∧
      passedSchema scope path arguments = ⟨r₂, .ok passed⟩ ∧
      schema = fieldObject selected passed ∧ reports = r₁ ++ r₂) := by
  rw [fieldSchema_eq] at h
  split at h
  · next hl =>
    obtain ⟨rfl, rfl⟩ := Reported.pure_eq_ok.mp h
    exact .inl ⟨hl.1, hl.2, rfl, rfl⟩
  · next hl =>
    obtain ⟨selected, r₁, _, hs, hrest, rfl⟩ := Reported.bind_eq_ok.mp h
    obtain ⟨passed, r₂, _, hp, hput, rfl⟩ := Reported.bind_eq_ok.mp hrest
    obtain ⟨rfl, rfl⟩ := Reported.pure_eq_ok.mp hput
    exact .inr ⟨hl, selected, passed, r₁, r₂, hs, hp, rfl, by rw [List.append_nil]⟩

/-! ## Selections -/

section
variable {properties out : Keyed Label Json} {rest : List Selection}

/-- What is said about a field whose name is selected already. -/
def replacementReports (path : List Label) (taken : Prop) [Decidable taken]
    (alias? : Option (Readable Label)) (name : Label) : List Diagnostic :=
  if taken then
    [(Omission.overwrittenSelection name (alias?.bind Except.toOption)).reportAt (path ++ [name])]
  else []

/-- Says that a field replaces an earlier one, if it does. -/
def reportReplacement (path : List Label) (taken : Bool) (alias? : Option (Readable Label))
    (name : Label) : Build Unit :=
  if taken then alias?.mapM (Build.read .selection) >>= fun shown =>
    Build.report (.overwrittenSelection name shown) (path ++ [name])
  else pure ()

theorem reportReplacement_eq_ok {taken : Bool} {alias? : Option (Readable Label)} {name : Label}
    {u : Unit} (h : reportReplacement path taken alias? name = ⟨reports, .ok u⟩) :
    reports = replacementReports path (taken = true) alias? name := by
  unfold reportReplacement at h
  unfold replacementReports
  split at h
  · next ht =>
    obtain ⟨shown, r₁, r₂, hshown, hreport, rfl⟩ := Reported.bind_eq_ok.mp h
    obtain rfl := Reported.report_eq_ok.mp hreport
    rw [if_pos ht]
    match alias?, hshown with
    | none, hshown => cases hshown; rfl
    | some (.ok label), hshown => cases hshown; rfl
  · next ht =>
    rw [if_neg ht]
    exact (Reported.pure_eq_ok.mp h).1

theorem addSelection_field_eq (alias? : Option (Readable Label)) (name : Label)
    (arguments : List Argument) (directives : List Directive) (sub : Option (List Selection)) :
    addSelection scope path properties (.field alias? name arguments directives sub) =
      reportReplacement path (properties.contains name) alias? name >>= fun _ => do
        let schema ← fieldSchema scope (path ++ [name]) arguments sub
        return properties.put name schema := by
  rw [addSelection, reportReplacement]
  cases properties.contains name <;> simp

theorem addSelections_field {alias? : Option (Readable Label)} {name : Label}
    {arguments : List Argument} {directives : List Directive} {sub : Option (List Selection)}
    (h : addSelections scope path properties (.field alias? name arguments directives sub :: rest) =
      ⟨reports, .ok out⟩) :
    ∃ schema r₁ r₂, fieldSchema scope (path ++ [name]) arguments sub = ⟨r₁, .ok schema⟩ ∧
      addSelections scope path (properties.put name schema) rest = ⟨r₂, .ok out⟩ ∧
      reports = replacementReports path (name ∈ properties.keys) alias? name ++ r₁ ++ r₂ := by
  rw [addSelections, addSelection_field_eq] at h
  obtain ⟨added, ra, r₂, hstep, hrest, rfl⟩ := Reported.bind_eq_ok.mp h
  obtain ⟨_, r₀, _, hover, hbuild, rfl⟩ := Reported.bind_eq_ok.mp hstep
  obtain ⟨schema, r₁, _, hfield, hput, rfl⟩ := Reported.bind_eq_ok.mp hbuild
  obtain ⟨rfl, rfl⟩ := Reported.pure_eq_ok.mp hput
  refine ⟨schema, r₁, r₂, hfield, hrest, ?_⟩
  rw [reportReplacement_eq_ok hover, List.append_nil]
  simp only [replacementReports, Keyed.contains_iff_mem_keys]

theorem addSelections_fragmentSpread {name : Label} {directives : List Directive}
    (h : addSelections scope path properties (.fragmentSpread name directives :: rest) =
      ⟨reports, .ok out⟩) :
    ∃ r, addSelections scope path properties rest = ⟨r, .ok out⟩ ∧
      reports = (Omission.fragmentSpread name).reportAt path :: r := by
  rw [addSelections] at h
  obtain ⟨added, ra, r, hstep, hrest, rfl⟩ := Reported.bind_eq_ok.mp h
  rw [addSelection] at hstep
  obtain ⟨rfl, rfl⟩ := Build.report_then_eq_ok.mp hstep
  exact ⟨r, hrest, rfl⟩

theorem addSelections_inlineFragment {condition : Option Label} {directives : List Directive}
    {inner : List Selection}
    (h : addSelections scope path properties (.inlineFragment condition directives inner :: rest) =
      ⟨reports, .ok out⟩) :
    ∃ r, addSelections scope path properties rest = ⟨r, .ok out⟩ ∧
      reports = (Omission.inlineFragment condition).reportAt path :: r := by
  rw [addSelections] at h
  obtain ⟨added, ra, r, hstep, hrest, rfl⟩ := Reported.bind_eq_ok.mp h
  rw [addSelection] at hstep
  obtain ⟨rfl, rfl⟩ := Build.report_then_eq_ok.mp hstep
  exact ⟨r, hrest, rfl⟩

theorem addSelections_flawed {flaw : Flaw} :
    addSelections scope path properties (.flawed flaw :: rest) ≠ ⟨reports, .ok out⟩ := by
  intro h
  rw [addSelections] at h
  obtain ⟨added, ra, r, hstep, -, -⟩ := Reported.bind_eq_ok.mp h
  rw [addSelection] at hstep
  exact Reported.fail_ne_ok hstep

theorem addSelections_nil (h : addSelections scope path properties [] = ⟨reports, .ok out⟩) :
    reports = [] ∧ properties = out := by
  rw [addSelections] at h
  exact Reported.pure_eq_ok.mp h

end

/-! ## What holds of everything that is built -/

/-- An invariant of building selections: a quality of schemas and one of properties, which hold of
the smallest parts and of whatever is put together from parts they hold of. It may ask something of
the selections and of the arguments. -/
structure SelectionInvariant (scope : Scope) where
  selection : Selection → Prop
  argument : Argument → Prop
  schema : Json → Prop
  properties : Keyed Label Json → Prop
  /-- What is asked of a field is asked of its arguments and of what it selects. -/
  parts {alias? name arguments directives sub} :
    selection (.field alias? name arguments directives sub) → (∀ a ∈ arguments, argument a) ∧
      ∀ selections, sub = some selections → ∀ s ∈ selections, selection s
  anything : schema (.object [])
  bound {a variableName pointer} : argument a → a.value = .variable variableName →
    variableKey variableName ∈ scope.declared → variablePointer scope variableName = .ok pointer →
    schema (reference pointer)
  empty : properties []
  addArgument {a built found} : argument a → properties built → schema found →
    properties (built.put a.name found)
  addField {alias? name arguments directives sub built found} :
    selection (.field alias? name arguments directives sub) → properties built → schema found →
    properties (built.put name found)
  selected {built} : properties built → schema (selectedObject built)
  passed {built} : properties built → schema (passedObject built)
  field {inner given} : schema inner → schema given → schema (fieldObject inner given)

namespace SelectionInvariant

variable (inv : SelectionInvariant scope)

theorem of_addArgument {properties added : Keyed Label Json} {argument : Argument}
    (ha : inv.argument argument) (hp : inv.properties properties)
    (h : Schema.addArgument scope path properties argument = ⟨reports, .ok added⟩) :
    inv.properties added := by
  rcases addArgument_eq_ok h with ⟨variableName, pointer, hv, hd, hpointer, rfl, -⟩ |
    ⟨variableName, -, -, rfl, -⟩ | ⟨kind, -, -, rfl, -⟩
  · exact inv.addArgument ha hp (inv.bound ha hv hd hpointer)
  · exact inv.addArgument ha hp inv.anything
  · exact hp

theorem of_passedSchema {arguments : List Argument} {schema : Json}
    (ha : ∀ argument ∈ arguments, inv.argument argument)
    (h : passedSchema scope path arguments = ⟨reports, .ok schema⟩) : inv.schema schema := by
  rcases passedSchema_eq_ok h with ⟨-, rfl, -⟩ | ⟨-, properties, rfl, hbuild⟩
  · exact inv.anything
  · refine inv.passed ?_
    exact Reported.foldlM_preserves (motive := inv.properties)
      (fun _ argument hmem hbefore _ _ hadd => inv.of_addArgument (ha argument hmem) hbefore hadd)
      inv.empty hbuild

/-- The invariant is kept along the selections and into what they select, at every depth. -/
theorem of_addSelections {selections : List Selection} {properties out : Keyed Label Json}
    (hs : ∀ selection ∈ selections, inv.selection selection) (hp : inv.properties properties)
    (h : addSelections scope path properties selections = ⟨reports, .ok out⟩) :
    inv.properties out := by
  induction selections using selections_induction generalizing path properties out reports with
  | nil => exact (addSelections_nil h).2 ▸ hp
  | field alias? name arguments directives sub rest hsub ih =>
    obtain ⟨hfirst, hlater⟩ := List.forall_mem_cons.mp hs
    obtain ⟨harguments, hinner⟩ := inv.parts hfirst
    obtain ⟨schema, r₁, r₂, hfield, hrest, -⟩ := addSelections_field h
    refine ih hlater (inv.addField hfirst hp ?_) hrest
    rcases fieldSchema_eq_ok hfield with ⟨-, -, rfl, -⟩ |
      ⟨-, selected, passed, r₃, r₄, hselected, hpassed, rfl, -⟩
    · exact inv.anything
    · refine inv.field ?_ (inv.of_passedSchema harguments hpassed)
      cases sub with
      | none =>
        obtain ⟨-, rfl⟩ := Reported.pure_eq_ok.mp hselected
        exact inv.anything
      | some selections =>
        obtain ⟨inner, hbuild, rfl⟩ := Reported.map_eq_ok.mp hselected
        exact inv.selected (hsub selections rfl (hinner selections rfl) inv.empty hbuild)
  | fragmentSpread name directives rest ih =>
    obtain ⟨r, hrest, -⟩ := addSelections_fragmentSpread h
    exact ih (List.forall_mem_cons.mp hs).2 hp hrest
  | inlineFragment condition directives inner rest ih =>
    obtain ⟨r, hrest, -⟩ := addSelections_inlineFragment h
    exact ih (List.forall_mem_cons.mp hs).2 hp hrest
  | flawed flaw rest ih => exact absurd h addSelections_flawed

theorem of_selectionSetSchema {selectionSet : Option (List Selection)} {schema : Json}
    (hs : ∀ selection ∈ selectionSet.getD [], inv.selection selection)
    (h : selectionSetSchema scope path selectionSet = ⟨reports, .ok schema⟩) : inv.schema schema := by
  cases selectionSet with
  | none =>
    obtain ⟨-, rfl⟩ := Reported.pure_eq_ok.mp h
    exact inv.selected inv.empty
  | some selections =>
    obtain ⟨properties, hbuild, rfl⟩ := Reported.map_eq_ok.mp h
    exact inv.selected (inv.of_addSelections hs inv.empty hbuild)

end SelectionInvariant

end QuerySchema.Schema
