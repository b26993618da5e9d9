import Mathlib.Data.List.Forall2
import QuerySchema.Proofs.LastWrites
import QuerySchema.Proofs.SelectionSteps

/-!
What becomes of every argument that is passed to a field.

An argument that is bound to a variable gives its name a property: a reference where the variable has
a schema, and anything where it has none. When a name is passed again, the place is that of the first
binding and the property that of the last. A literal gives nothing and takes nothing away. What ends
in no reference is reported, argument by argument.

What is proved:
  1. `addArgument_binds`, `argumentProperties_get?`: an argument gives a property or changes nothing,
     so the last binding of a name decides its property.
  2. `addArgument_explains`, `addArguments_explains`: an argument is reported once, unless it is bound
     to a variable with a schema.
  3. `argumentsSchema_accounts`: names, properties, literals and reports of a list of arguments, all
     accounted for.
-/

namespace QuerySchema.GraphQL

/-- The variable that an argument is bound to. -/
def Argument.variable? (argument : Argument) : Option Label :=
  match argument.value with
  | .variable name => some name
  | _ => none

theorem Argument.variable_of_value {argument : Argument} {variableName : Label}
    (h : argument.value = .variable variableName) : argument.variable? = some variableName := by
  unfold Argument.variable?
  rw [h]

theorem Argument.variable_of_literal {argument : Argument}
    (h : ∀ variableName, argument.value ≠ .variable variableName) : argument.variable? = none := by
  unfold Argument.variable?
  split
  · next found hf => exact absurd hf (h found)
  · rfl

/-- The arguments that are bound to a variable. -/
def bindings (arguments : List Argument) : List Argument :=
  arguments.filter fun argument => argument.variable?.isSome

end QuerySchema.GraphQL

namespace QuerySchema.Schema

open GraphQL

variable {scope : Scope} {path : List Label} {reports : List Diagnostic}

/-- The variable that an argument is bound to the last time that it is bound to one. -/
def lastBinding? (arguments : List Argument) (name : Label) : Option Label :=
  Outcome.lastGiven (fun argument => argument.name = name) Argument.variable? arguments

/-! ## The property of an argument -/

/-- The schema of an argument that is bound to a variable: a reference to the variable if it has a
schema, and anything if it has none. -/
def IsBoundSchema (scope : Scope) (variableName : Label) (schema : Json) : Prop :=
  if variableKey variableName ∈ scope.declared then
    ∃ pointer, variablePointer scope variableName = .ok pointer ∧ schema = reference pointer
  else schema = .object []

/-- An argument that is bound to a variable gives its name a property; a literal changes nothing. -/
theorem addArgument_binds {properties added : Keyed Label Json} {argument : Argument}
    (h : addArgument scope path properties argument = ⟨reports, .ok added⟩) :
    (∃ variableName schema, argument.variable? = some variableName ∧
      IsBoundSchema scope variableName schema ∧ added = properties.put argument.name schema) ∨
    (added = properties ∧ argument.variable? = none) := by
  rcases addArgument_eq_ok h with ⟨variableName, pointer, hv, hd, hp, rfl, -⟩ |
    ⟨variableName, hv, hd, rfl, -⟩ | ⟨kind, hv, -, rfl, -⟩
  · refine .inl ⟨variableName, _, Argument.variable_of_value hv, ?_, rfl⟩
    rw [IsBoundSchema, if_pos hd]
    exact ⟨pointer, hp, rfl⟩
  · refine .inl ⟨variableName, _, Argument.variable_of_value hv, ?_, rfl⟩
    rw [IsBoundSchema, if_neg hd]
  · exact .inr ⟨rfl, Argument.variable_of_literal hv⟩

theorem addArgument_decided {properties added : Keyed Label Json} {argument : Argument}
    (h : addArgument scope path properties argument = ⟨reports, .ok added⟩) (name : Label) :
    Outcome.Decided (IsBoundSchema scope)
      (if argument.name = name then argument.variable? else none)
      (properties.get? name) (added.get? name) := by
  rcases addArgument_binds h with ⟨variableName, schema, hv, hschema, rfl⟩ | ⟨rfl, hnone⟩
  · by_cases hname : argument.name = name
    · rw [if_pos hname, hv, ← hname]
      exact ⟨schema, Keyed.get?_put_self _ _ _, hschema⟩
    · rw [if_neg hname]
      exact Keyed.get?_put_of_ne _ _ fun e => hname e.symm
  · rw [hnone, ite_self]
    rfl

section
variable {arguments : List Argument} {properties : Keyed Label Json}

/-- The last time that an argument is bound to a variable decides its property. -/
theorem argumentProperties_get?
    (h : argumentProperties scope path arguments = ⟨reports, .ok properties⟩) (name : Label) :
    Outcome.Decided (IsBoundSchema scope) (lastBinding? arguments name) none
      (properties.get? name) := by
  refine Outcome.foldlM_decided (fun properties : Keyed Label Json => properties.get? name)
    (fun before argument r next hadd => ?_) h
  exact addArgument_decided hadd name

/-- The names that have a property are those that are bound to a variable, each once and in the
order of the first bindings. -/
theorem keys_argumentProperties
    (h : argumentProperties scope path arguments = ⟨reports, .ok properties⟩) :
    properties.keys = ((bindings arguments).map Argument.name).eraseDups := by
  refine Keyed.keys_foldlM_filter id Argument.name (fun argument => argument.variable?.isSome)
    (fun before argument r next hadd => ?_) Keyed.nodup_keys_nil h
  rcases addArgument_binds hadd with ⟨variableName, schema, hv, -, rfl⟩ | ⟨rfl, hnone⟩
  · rw [hv]
    exact ⟨schema, rfl⟩
  · rw [hnone]
    rfl

theorem nodup_keys_argumentProperties
    (h : argumentProperties scope path arguments = ⟨reports, .ok properties⟩) :
    properties.keys.Nodup :=
  keys_argumentProperties h ▸ Keyed.nodup_eraseDups _

/-- Literals can be left out, in any number. -/
theorem argumentProperties_sublist {kept : List Argument} (hkept : kept.Sublist arguments)
    (hsame : bindings kept = bindings arguments)
    (h : argumentProperties scope path arguments = ⟨reports, .ok properties⟩) :
    ∃ r, argumentProperties scope path kept = ⟨r, .ok properties⟩ := by
  refine Reported.foldlM_sublist (fun argument hcounts before r next hadd => ?_) hkept hsame h
  rcases addArgument_binds hadd with ⟨variableName, schema, hv, -, -⟩ | ⟨hnext, -⟩
  · rw [hv] at hcounts
    cases hcounts
  · exact hnext

/-! ## The report on an argument -/

/-- Whether an argument is bound to a variable that has a schema. -/
def isResolved (scope : Scope) (argument : Argument) : Bool :=
  argument.variable?.any fun variableName => scope.declared.contains (variableKey variableName)

/-- A report says of an argument why it is given no reference: its variable has no schema, or it is a
literal of some kind. The path of the report ends with the name of the argument. -/
def Explains (path : List Label) (argument : Argument) (report : Diagnostic) : Prop :=
  report.path = path ++ [argument.name] ∧
    match argument.variable? with
    | some variableName => report.kind = .unresolvedVariable ∧
        report.message = (Omission.unresolvedVariable argument.name variableName).message
    | none => report.kind = .literalArgument ∧ ∃ kind, argument.value.kind? = some kind ∧
        report.message = (Omission.literalArgument kind argument.name).message

/-- What is said when an argument is added: nothing of one that is resolved, one thing of any other. -/
theorem addArgument_explains {added : Keyed Label Json} {argument : Argument}
    (h : addArgument scope path properties argument = ⟨reports, .ok added⟩) :
    if isResolved scope argument then reports = []
    else ∃ report, reports = [report] ∧ Explains path argument report := by
  unfold isResolved Explains
  rcases addArgument_eq_ok h with ⟨variableName, pointer, hv, hd, -, -, rfl⟩ |
    ⟨variableName, hv, hd, -, rfl⟩ | ⟨kind, hv, hk, -, rfl⟩
  · rw [Argument.variable_of_value hv, Option.any_some, List.contains_iff_mem.mpr hd]
    rfl
  · have hcontains : scope.declared.contains (variableKey variableName) = false := by simpa using hd
    rw [Argument.variable_of_value hv, Option.any_some, hcontains]
    exact ⟨_, rfl, rfl, rfl, rfl⟩
  · rw [Argument.variable_of_literal hv]
    exact ⟨_, rfl, rfl, rfl, kind, hk, rfl⟩

/-- The arguments that are not resolved are reported one by one. -/
theorem addArguments_explains {added : Keyed Label Json}
    (h : arguments.foldlM (addArgument scope path) properties = ⟨reports, .ok added⟩) :
    List.Forall₂ (Explains path) (arguments.filter fun a => !isResolved scope a) reports := by
  induction arguments generalizing properties reports with
  | nil =>
    obtain ⟨rfl, -⟩ := Reported.foldlM_nil_eq_ok.mp h
    exact .nil
  | cons argument rest ih =>
    obtain ⟨next, r₁, r₂, hstep, hrest, rfl⟩ := Reported.foldlM_cons_eq_ok.mp h
    have hreport := addArgument_explains hstep
    -- a resolved argument is skipped on both sides, any other one heads both lists
    cases hr : isResolved scope argument with
    | true =>
      rw [hr, if_pos rfl] at hreport
      rw [List.filter_cons_of_neg (by simp [hr]), hreport, List.nil_append]
      exact ih hrest
    | false =>
      rw [hr, if_neg Bool.false_ne_true] at hreport
      obtain ⟨report, rfl, hexplains⟩ := hreport
      rw [List.filter_cons_of_pos (by simp [hr]), List.singleton_append]
      exact .cons hexplains (ih hrest)

end

/-! ## A list of arguments -/

/-- Every argument of a field is accounted for. The names that are bound to a variable have a
property, in the order of their first bindings, and the last binding says which. Literals can be left
out without any change to the schema. Each argument either is bound to a variable with a schema or
has its report, in the order of the arguments. -/
theorem argumentsSchema_accounts {arguments : List Argument} {schema : Json}
    (h : argumentsSchema scope path arguments = ⟨reports, .ok schema⟩) :
    ∃ properties, schema = passedObject properties ∧
      properties.keys = ((bindings arguments).map Argument.name).eraseDups ∧
      (∀ name variableName, lastBinding? arguments name = some variableName →
        ∃ found, properties.get? name = some found ∧ IsBoundSchema scope variableName found) ∧
      (∀ kept, kept.Sublist arguments → bindings kept = bindings arguments →
        ∃ r, argumentsSchema scope path kept = ⟨r, .ok schema⟩) ∧
      List.Forall₂ (Explains path) (arguments.filter fun a => !isResolved scope a) reports ∧
      arguments.length = reports.length + (arguments.filter (isResolved scope)).length := by
  obtain ⟨properties, hbuild, rfl⟩ := argumentsSchema_eq_ok.mp h
  have hreports := addArguments_explains hbuild
  refine ⟨properties, rfl, keys_argumentProperties hbuild, fun name variableName hlast => ?_,
    fun kept hkept hsame => ?_, hreports, ?_⟩
  · exact (argumentProperties_get? hbuild name).exists hlast
  · obtain ⟨r, hr⟩ := argumentProperties_sublist hkept hsame hbuild
    exact ⟨r, argumentsSchema_eq_ok.mpr ⟨properties, hr, rfl⟩⟩
  · calc arguments.length
        = (arguments.filter (isResolved scope)).length +
            (arguments.filter fun a => !isResolved scope a).length :=
          List.length_eq_length_filter_add _
      _ = (arguments.filter (isResolved scope)).length + reports.length := by
          rw [hreports.length_eq]
      _ = reports.length + (arguments.filter (isResolved scope)).length := Nat.add_comm _ _

/-- Arguments that are literals, bound to a variable with a schema and bound to one without, under
the same names. -/
def mixedArguments : List Argument :=
  [⟨"a", .int "1"⟩, ⟨"a", .variable "gone"⟩, ⟨"b", .variable "id"⟩, ⟨"a", .variable "id"⟩,
    ⟨"b", .enum "X"⟩, ⟨"b", .variable "gone"⟩, ⟨"c", .null⟩]

/-- Of the seven arguments two are resolved and five reported. The first name ends with a reference,
the second with none, and the third, which is a literal, has no property. -/
theorem argumentsSchema_accounts_mixedArguments :
    ∃ reports properties pointer,
      argumentsSchema ⟨.definitions, .builtin, some "Q", ["$id"]⟩ ["Q", "f"] mixedArguments =
        ⟨reports, .ok (passedObject properties)⟩ ∧
      properties.keys = ["a", "b"] ∧ properties.get? "a" = some (reference pointer) ∧
      properties.get? "b" = some (.object []) ∧ reports.length = 5 := by
  have hbuild : argumentsSchema ⟨.definitions, .builtin, some "Q", ["$id"]⟩ ["Q", "f"]
      mixedArguments = ⟨_, .ok _⟩ := rfl
  obtain ⟨properties, hschema, hkeys, hlast, -, -, hlength⟩ := argumentsSchema_accounts hbuild
  obtain ⟨first, hfirst, hbound⟩ := hlast "a" "id" rfl
  obtain ⟨second, hsecond, hfree⟩ := hlast "b" "gone" rfl
  rw [IsBoundSchema, if_pos (by decide)] at hbound
  rw [IsBoundSchema, if_neg (by decide)] at hfree
  obtain ⟨pointer, -, rfl⟩ := hbound
  refine ⟨_, properties, pointer, hschema ▸ hbuild, ?_, hfirst, hfree ▸ hsecond, ?_⟩
  · rw [hkeys]
    decide
  · exact (Nat.add_right_cancel (m := 2) hlength).symm

end QuerySchema.Schema
