import Mathlib.Data.List.Perm.Basic
import QuerySchema.Proofs.OmissionTrace
import QuerySchema.Proofs.OperationMeaning
import QuerySchema.Proofs.SelectionForms

/-!
Cleaning a selection set before it is built.

A clean selection set has no fragments, and each of its fields is selected once; so is what its
fields select. Every selection set can be cleaned: of the selections of a field the last one is kept,
at the place of the first, and cleaned inside. Nothing that is left out shows in the properties, but
it does show in the reports, also where it stands inside a selection that is replaced.

What is proved:
  1. `clean_eq`: the last selection of each field is kept, and cleaned inside.
  2. `addSelections_built`, `addSelections_fresh`: a selection set writes what its fields build to;
     where their names are new, it says nothing of its own.
  3. `fieldSchema_clean`, `cleans_fieldPairs`: a cleaned field builds to the same schema, by induction
     into what it selects.
  4. `filter_selectionsTrace`, `addSelections_count`: what the selection sets at all depths say of
     their own selections, and how many of them it is.
  5. `selectionTree_clean`: the properties of a selection set are those of the clean one.
-/

namespace QuerySchema.GraphQL

/-! ## Clean selection sets -/

/-- The fields of a selection set under their names, one after the other. -/
def fieldPairs : List Selection → List (Label × Selection)
  | [] => []
  | .field alias? name arguments directives sub :: rest =>
    (name, .field alias? name arguments directives sub) :: fieldPairs rest
  | .fragmentSpread _ _ :: rest => fieldPairs rest
  | .inlineFragment _ _ _ :: rest => fieldPairs rest
  | .flawed _ :: rest => fieldPairs rest

mutual
/-- The fields of a selection set under their names, each cleaned inside. -/
def cleanFields : List Selection → List (Label × Selection)
  | [] => []
  | selection :: rest => cleanField selection ++ cleanFields rest
/-- A field under its name, cleaned inside; nothing of a fragment. -/
def cleanField : Selection → List (Label × Selection)
  | .field alias? name arguments directives sub =>
    [(name, .field alias? name arguments directives (cleanSub sub))]
  | .fragmentSpread _ _ => []
  | .inlineFragment _ _ _ => []
  | .flawed _ => []
/-- What a field selects, cleaned. -/
def cleanSub : Option (List Selection) → Option (List Selection)
  | none => none
  | some inner => some ((Keyed.settled (cleanFields inner)).map Prod.snd)
end

/-- A selection set without fragments at any depth, and with the last selection of every field in
the place of the first. -/
def clean (selections : List Selection) : List Selection :=
  (Keyed.settled (cleanFields selections)).map Prod.snd

/-- A selection, cleaned inside. -/
def cleanSelection : Selection → Selection
  | .field alias? name arguments directives sub =>
    .field alias? name arguments directives (cleanSub sub)
  | selection => selection

theorem cleanFields_eq (selections : List Selection) :
    cleanFields selections = (fieldPairs selections).map fun p => (p.1, cleanSelection p.2) := by
  induction selections with
  | nil => rfl
  | cons selection rest ih =>
    rw [cleanFields, ih]
    cases selection <;> rfl

/-- To clean a selection set is to keep the last selection of each field, cleaned inside. -/
theorem clean_eq (selections : List Selection) :
    clean selections =
      (Keyed.settled (fieldPairs selections)).map fun p => cleanSelection p.2 := by
  rw [clean, cleanFields_eq, Keyed.settled_map, List.map_map]
  rfl

theorem map_fst_fieldPairs (selections : List Selection) :
    (fieldPairs selections).map Prod.fst = fieldNames selections := by
  induction selections with
  | nil => rfl
  | cons selection rest ih =>
    cases selection with
    | field alias? name arguments directives sub => exact congrArg (name :: ·) ih
    | fragmentSpread name directives => exact ih
    | inlineFragment condition directives inner => exact ih
    | flawed flaw => exact ih

/-! ## The selection sets at all depths -/

mutual
/-- The selection sets inside a selection set, at any depth, with the paths that lead to them. Those
in replaced selections are among them, those in fragments are not. -/
def innerLevels (path : List Label) : List Selection → List (List Label × List Selection)
  | [] => []
  | selection :: rest => levelsOfSelection path selection ++ innerLevels path rest
/-- The selection sets inside a selection. -/
def levelsOfSelection (path : List Label) : Selection → List (List Label × List Selection)
  | .field _ name _ _ sub => levelsOfSub (path ++ [name]) sub
  | .fragmentSpread _ _ => []
  | .inlineFragment _ _ _ => []
  | .flawed _ => []
/-- What a field selects, with the selection sets inside. -/
def levelsOfSub (path : List Label) :
    Option (List Selection) → List (List Label × List Selection)
  | none => []
  | some inner => (path, inner) :: innerLevels path inner
end

/-- A selection set and those inside it. -/
def levels (path : List Label) (selections : List Selection) : List (List Label × List Selection) :=
  (path, selections) :: innerLevels path selections

end QuerySchema.GraphQL

namespace QuerySchema.Schema

open GraphQL

variable {scope : Scope} {path : List Label} {reports : List Diagnostic}

/-! ## What is said of selections -/

/-- Whether a report is on a selection: that it is replaced, or that it is a fragment. -/
def Diagnostic.isOnSelection (d : Diagnostic) : Bool :=
  d.kind == .overwrittenSelection || d.kind == .fragmentSpread || d.kind == .inlineFragment

/-- Nothing is said of selections. -/
def Tidy (reports : List Diagnostic) : Prop := ∀ d ∈ reports, d.isOnSelection = false

theorem tidy_nil : Tidy [] := fun _ h => absurd h List.not_mem_nil

theorem Tidy.append {first second : List Diagnostic} (h₁ : Tidy first) (h₂ : Tidy second) :
    Tidy (first ++ second) :=
  List.forall_mem_append.mpr ⟨h₁, h₂⟩

theorem Tidy.filter_eq_nil {reports : List Diagnostic} (h : Tidy reports) :
    reports.filter Diagnostic.isOnSelection = [] :=
  List.filter_eq_nil_iff.mpr fun d hd => by simp [h d hd]

/-- What is said of arguments is not said of selections. -/
theorem tidy_argumentTrace (known : Label → Bool) (path : List Label) (arguments : List Argument) :
    Tidy (arguments.flatMap (argumentTrace known path)) := by
  intro d hd
  obtain ⟨argument, -, hd⟩ := List.mem_flatMap.mp hd
  unfold argumentTrace at hd
  split at hd
  · split at hd
    · cases hd
    · obtain rfl := List.mem_singleton.mp hd
      rfl
  · obtain ⟨kind, -, rfl⟩ := Option.map_eq_some_iff.mp (Option.mem_toList.mp hd)
    rfl

/-- What a selection set says of its own selections, after earlier ones of given names. -/
def levelReports (path : List Label) (earlier : List Label) : List Selection → List Diagnostic
  | [] => []
  | .field alias? name _ _ _ :: rest =>
    replacementReports path (name ∈ earlier) alias? name ++ levelReports path (name :: earlier) rest
  | .fragmentSpread name _ :: rest =>
    (Omission.fragmentSpread name).reportAt path :: levelReports path earlier rest
  | .inlineFragment condition _ _ :: rest =>
    (Omission.inlineFragment condition).reportAt path :: levelReports path earlier rest
  | .flawed _ :: rest => levelReports path earlier rest

/-- What is said of the selections of a level. -/
def reportsOfLevel (level : List Label × List Selection) : List Diagnostic :=
  levelReports level.1 [] level.2

theorem filter_replacementReports (path : List Label) (taken : Prop) [Decidable taken]
    (alias? : Option (Readable Label)) (name : Label) :
    (replacementReports path taken alias? name).filter Diagnostic.isOnSelection =
      replacementReports path taken alias? name := by
  unfold replacementReports
  split <;> rfl

/-- What is said of selections in the trace of a selection set is what the selection sets at all
depths say of their own. -/
theorem filter_selectionsTrace (known : Label → Bool) (selections : List Selection)
    (path earlier : List Label) :
    ((selectionsTrace known path earlier selections).filter Diagnostic.isOnSelection).Perm
      (levelReports path earlier selections ++
        (innerLevels path selections).flatMap reportsOfLevel) := by
  induction selections using selections_induction generalizing path earlier with
  | nil =>
    rw [selectionsTrace, levelReports, innerLevels]
    exact .refl _
  | field alias? name arguments directives sub rest hsub ih =>
    have hpassed := (tidy_argumentTrace known (path ++ [name]) arguments).filter_eq_nil
    rw [innerLevels, levelsOfSelection]
    cases sub with
    | none =>
      rw [selectionsTrace, List.filter_append, List.filter_append, filter_replacementReports, hpassed,
        List.append_nil, levelReports, levelsOfSub, List.nil_append, List.append_assoc]
      exact (ih path (name :: earlier)).append_left _
    | some inner =>
      rw [selectionsTrace, List.filter_append, List.filter_append, List.filter_append,
        filter_replacementReports, hpassed, List.append_nil, levelReports, levelsOfSub,
        List.flatMap_append, List.flatMap_cons, List.append_assoc, List.append_assoc]
      refine List.Perm.append_left _ ?_
      -- what the inner levels say comes before the rest of this level, and is counted after it
      have hinner := hsub inner rfl (path ++ [name]) []
      have hrest := ih path (name :: earlier)
      refine (hinner.append hrest).trans ?_
      exact List.perm_append_comm_assoc _ _ _
  | fragmentSpread name directives rest ih =>
    rw [selectionsTrace, levelReports, innerLevels, levelsOfSelection, List.nil_append,
      List.cons_append]
    exact (ih path earlier).cons _
  | inlineFragment condition directives inner rest ih =>
    rw [selectionsTrace, levelReports, innerLevels, levelsOfSelection, List.nil_append,
      List.cons_append]
    exact (ih path earlier).cons _
  | flawed flaw rest ih =>
    rw [selectionsTrace, levelReports, innerLevels, levelsOfSelection, List.nil_append]
    exact ih path earlier

/-- Each selection gives a name its first property or is reported. -/
theorem addSelections_count {selections : List Selection} {earlier : List Label}
    {properties out : Keyed Label Json}
    (hearlier : ∀ name, name ∈ properties.keys ↔ name ∈ earlier)
    (h : addSelections scope path properties selections = ⟨reports, .ok out⟩) :
    (levelReports path earlier selections).length + out.keys.length =
      selections.length + properties.keys.length := by
  induction selections using selections_induction generalizing earlier properties out reports with
  | nil =>
    obtain ⟨-, rfl⟩ := addSelections_nil h
    rfl
  | field alias? name arguments directives sub rest hsub ih =>
    obtain ⟨schema, r₁, r₂, -, hrest, -⟩ := addSelections_field h
    have hkeys (other : Label) :
        other ∈ (properties.put name schema).keys ↔ other ∈ name :: earlier := by
      rw [Keyed.mem_keys_put, List.mem_cons, hearlier]
    have hcount := ih hkeys hrest
    have hname := hearlier name
    rw [Keyed.keys_put] at hcount
    rw [levelReports, replacementReports, List.length_append, List.length_cons]
    -- the selection is reported, or it brings a key of its own
    by_cases hmem : name ∈ earlier
    · rw [if_pos (hname.mpr hmem)] at hcount
      rw [if_pos hmem, List.length_singleton]
      omega
    · rw [if_neg fun hn => hmem (hname.mp hn), List.length_append, List.length_singleton] at hcount
      rw [if_neg hmem, List.length_nil]
      omega
  | fragmentSpread name directives rest ih =>
    obtain ⟨r, hrest, -⟩ := addSelections_fragmentSpread h
    have hcount := ih hearlier hrest
    rw [levelReports, List.length_cons, List.length_cons]
    omega
  | inlineFragment condition directives inner rest ih =>
    obtain ⟨r, hrest, -⟩ := addSelections_inlineFragment h
    have hcount := ih hearlier hrest
    rw [levelReports, List.length_cons, List.length_cons]
    omega
  | flawed flaw rest ih => exact absurd h addSelections_flawed

/-- The selection sets inside one that is built are built. -/
theorem exists_of_innerLevels {selections : List Selection} {properties out : Keyed Label Json}
    (h : addSelections scope path properties selections = ⟨reports, .ok out⟩) :
    ∀ level ∈ innerLevels path selections, ∃ r tree,
      selectionTree scope level.1 level.2 = ⟨r, .ok tree⟩ := by
  induction selections using selections_induction generalizing path properties out reports with
  | nil => exact fun level hlevel => absurd hlevel List.not_mem_nil
  | field alias? name arguments directives sub rest hsub ih =>
    obtain ⟨schema, r₁, r₂, hfield, hrest, -⟩ := addSelections_field h
    refine List.forall_mem_append.mpr ⟨?_, ih hrest⟩
    cases sub with
    | none => exact fun level hlevel => absurd hlevel List.not_mem_nil
    | some inner =>
      rcases fieldSchema_eq_ok hfield with ⟨hnone, -⟩ | ⟨-, selected, passed, ri, rp, hinner, -⟩
      · cases hnone
      · obtain ⟨tree, hbuild, -⟩ := Reported.map_eq_ok.mp hinner
        exact List.forall_mem_cons.mpr ⟨⟨ri, tree, hbuild⟩, hsub inner rfl hbuild⟩
  | fragmentSpread name directives rest ih =>
    obtain ⟨r, hrest, -⟩ := addSelections_fragmentSpread h
    exact ih hrest
  | inlineFragment condition directives inner rest ih =>
    obtain ⟨r, hrest, -⟩ := addSelections_inlineFragment h
    exact ih hrest
  | flawed flaw rest ih => exact absurd h addSelections_flawed

/-! ## Fields one by one -/

/-- A selection is a field of a name, and builds to a schema. -/
def BuildsTo (scope : Scope) (path : List Label) (name : Label) (selection : Selection)
    (reports : List Diagnostic) (schema : Json) : Prop :=
  ∃ alias? arguments directives sub, selection = .field alias? name arguments directives sub ∧
    fieldSchema scope (path ++ [name]) arguments sub = ⟨reports, .ok schema⟩

/-- A selection set writes, one after the other, what its fields build to. -/
theorem addSelections_built {selections : List Selection} {properties out : Keyed Label Json}
    (h : addSelections scope path properties selections = ⟨reports, .ok out⟩) :
    ∃ built : List (Label × Selection × Json),
      (built.map fun p => (p.1, p.2.1)) = fieldPairs selections ∧
      out = (built.map fun p => (p.1, p.2.2)).foldl (fun m p => m.put p.1 p.2) properties ∧
      ∀ p ∈ built, ∃ r, BuildsTo scope path p.1 p.2.1 r p.2.2 := by
  induction selections using selections_induction generalizing properties out reports with
  | nil =>
    obtain ⟨-, rfl⟩ := addSelections_nil h
    exact ⟨[], rfl, rfl, fun p hp => absurd hp List.not_mem_nil⟩
  | field alias? name arguments directives sub rest hsub ih =>
    obtain ⟨schema, r₁, r₂, hfield, hrest, -⟩ := addSelections_field h
    obtain ⟨built, hpairs, rfl, hbuilt⟩ := ih hrest
    refine ⟨(name, .field alias? name arguments directives sub, schema) :: built, ?_, rfl, ?_⟩
    · rw [List.map_cons, hpairs, fieldPairs]
    · refine List.forall_mem_cons.mpr ⟨⟨r₁, alias?, arguments, directives, sub, rfl, hfield⟩, hbuilt⟩
  | fragmentSpread name directives rest ih =>
    obtain ⟨r, hrest, -⟩ := addSelections_fragmentSpread h
    exact ih hrest
  | inlineFragment condition directives inner rest ih =>
    obtain ⟨r, hrest, -⟩ := addSelections_inlineFragment h
    exact ih hrest
  | flawed flaw rest ih => exact absurd h addSelections_flawed

/-- A field of a new name adds what it builds to, and nothing is said of the selection. -/
theorem addSelection_fresh {properties : Keyed Label Json} {name : Label} {selection : Selection}
    {schema : Json} (hname : name ∉ properties.keys)
    (h : BuildsTo scope path name selection reports schema) :
    addSelection scope path properties selection = ⟨reports, .ok (properties.put name schema)⟩ := by
  obtain ⟨alias?, arguments, directives, sub, rfl, hfield⟩ := h
  have hfree : properties.contains name = false := by
    rw [← Bool.not_eq_true, Keyed.contains_iff_mem_keys]
    exact hname
  rw [addSelection_field_eq, hfree, reportReplacement, if_neg Bool.false_ne_true, pure_bind]
  exact Reported.bind_eq_ok.mpr ⟨schema, reports, [], hfield, rfl, (List.append_nil _).symm⟩

/-- Fields of different names that are new build to their schemas in order, and nothing is said of
the selections. -/
theorem addSelections_fresh {built : List (Label × Selection × Json)}
    (hdistinct : (built.map Prod.fst).Nodup) {properties : Keyed Label Json}
    (hnew : ∀ p ∈ built, p.1 ∉ properties.keys)
    (hbuilt : ∀ p ∈ built, ∃ r, BuildsTo scope path p.1 p.2.1 r p.2.2 ∧ Tidy r) :
    ∃ r, addSelections scope path properties (built.map fun p => p.2.1) =
      ⟨r, .ok (properties ++ built.map fun p => (p.1, p.2.2))⟩ ∧ Tidy r := by
  induction built generalizing properties with
  | nil => exact ⟨[], by rw [List.map_nil, List.map_nil, List.append_nil]; rfl, tidy_nil⟩
  | cons p rest ih =>
    obtain ⟨name, selection, schema⟩ := p
    obtain ⟨hfirst, hothers⟩ := List.forall_mem_cons.mp hbuilt
    obtain ⟨hname, hnews⟩ := List.forall_mem_cons.mp hnew
    rw [List.map_cons, List.nodup_cons] at hdistinct
    obtain ⟨r₁, hfield, htidy⟩ := hfirst
    have hput : properties.put name schema = properties ++ [(name, schema)] :=
      Keyed.put_eq_append hname schema
    -- after the first field the names of the others are still new, since all names are different
    have hstill : ∀ p ∈ rest, p.1 ∉ (properties.put name schema).keys := by
      intro p hp hmem
      rcases (Keyed.mem_keys_put _ _ _ _).mp hmem with hsame | hmem
      · exact hdistinct.1 (List.mem_map.mpr ⟨p, hp, hsame⟩)
      · exact hnews p hp hmem
    obtain ⟨r₂, hrest, htidies⟩ := ih hdistinct.2 hstill hothers
    refine ⟨r₁ ++ r₂, ?_, htidy.append htidies⟩
    rw [List.map_cons, addSelections]
    refine Reported.bind_eq_ok.mpr ⟨_, r₁, r₂, addSelection_fresh hname hfield, ?_, rfl⟩
    rw [hrest, hput, List.append_assoc]
    rfl

/-! ## Cleaning -/

/-- A field builds to the same schema when it is cleaned inside, if what it selects does. -/
theorem fieldSchema_clean {arguments : List Argument} {sub : Option (List Selection)} {schema : Json}
    (hsub : ∀ inner r tree, sub = some inner → selectionTree scope path inner = ⟨r, .ok tree⟩ →
      ∃ r', selectionTree scope path (clean inner) = ⟨r', .ok tree⟩ ∧ Tidy r')
    (h : fieldSchema scope path arguments sub = ⟨reports, .ok schema⟩) :
    ∃ r, fieldSchema scope path arguments (cleanSub sub) = ⟨r, .ok schema⟩ ∧ Tidy r := by
  rcases fieldSchema_eq_ok h with ⟨rfl, rfl, rfl, -⟩ |
    ⟨hparts, selected, passed, r₁, r₂, hinner, hpassed, rfl, -⟩
  · exact ⟨[], rfl, tidy_nil⟩
  · -- the two parts are built as before, and only the first one can have said anything of selections
    have hcleaned : ∃ r, innerSchema scope path (cleanSub sub) = ⟨r, .ok selected⟩ ∧ Tidy r := by
      cases sub with
      | none =>
        obtain ⟨-, rfl⟩ := Reported.pure_eq_ok.mp hinner
        exact ⟨[], rfl, tidy_nil⟩
      | some inner =>
        obtain ⟨tree, hbuild, rfl⟩ := Reported.map_eq_ok.mp hinner
        obtain ⟨r, hclean, htidy⟩ := hsub inner r₁ tree rfl hbuild
        exact ⟨r, Reported.map_eq_ok.mpr ⟨tree, hclean, rfl⟩, htidy⟩
    obtain ⟨r, hclean, htidy⟩ := hcleaned
    have htidies : Tidy r₂ := by
      have hknown (variableName : Label) :
          scope.declared.contains (variableKey variableName) = true ↔
            variableKey variableName ∈ scope.declared := List.contains_iff_mem
      rw [passedSchema_reports hknown hpassed]
      exact tidy_argumentTrace _ _ _
    have hstill : ¬ (cleanSub sub = none ∧ arguments = []) := by
      rintro ⟨hnone, hempty⟩
      cases sub with
      | none => exact hparts ⟨rfl, hempty⟩
      | some inner => cases hnone
    refine ⟨r ++ r₂, ?_, htidy.append htidies⟩
    rw [fieldSchema_eq, if_neg hstill]
    refine Reported.bind_eq_ok.mpr ⟨selected, r, r₂, hclean, ?_, rfl⟩
    exact Reported.bind_eq_ok.mpr ⟨passed, r₂, [], hpassed, rfl, (List.append_nil _).symm⟩

/-- A selection under a name builds to the same schema when it is cleaned inside, and then nothing
is said of selections. -/
def Cleans (scope : Scope) (p : Label × Selection) : Prop :=
  ∀ path reports schema, BuildsTo scope path p.1 p.2 reports schema →
    ∃ r, BuildsTo scope path p.1 (cleanSelection p.2) r schema ∧ Tidy r

/-- A selection set builds to the same properties when it is cleaned, if each of its fields can be
cleaned inside. -/
theorem selectionTree_clean_of_cleans {selections : List Selection} {tree : Keyed Label Json}
    (hfields : ∀ p ∈ fieldPairs selections, Cleans scope p)
    (h : selectionTree scope path selections = ⟨reports, .ok tree⟩) :
    ∃ r, selectionTree scope path (clean selections) = ⟨r, .ok tree⟩ ∧ Tidy r := by
  obtain ⟨built, hpairs, rfl, hbuilt⟩ := addSelections_built h
  -- the fields that are kept, cleaned inside, with the schemas they had before
  let kept := (Keyed.settled built).map fun p => (p.1, cleanSelection p.2.1, p.2.2)
  have hkept : (kept.map fun p => p.2.1) = clean selections := by
    rw [clean_eq, ← hpairs, Keyed.settled_map (fun p : Selection × Json => p.1), List.map_map,
      List.map_map]
    rfl
  have hnames : (kept.map Prod.fst).Nodup := by
    rw [List.map_map]
    exact Keyed.nodup_keys_settled built
  have hbuilds : ∀ p ∈ kept, ∃ r, BuildsTo scope path p.1 p.2.1 r p.2.2 ∧ Tidy r := by
    intro p hp
    obtain ⟨⟨name, selection, schema⟩, hq, rfl⟩ := List.mem_map.mp hp
    have hmem := Keyed.mem_of_mem_settled hq
    obtain ⟨r, hbuild⟩ := hbuilt _ hmem
    have hpair : (name, selection) ∈ fieldPairs selections :=
      hpairs ▸ List.mem_map_of_mem (f := fun p : Label × Selection × Json => (p.1, p.2.1)) hmem
    exact hfields _ hpair path r schema hbuild
  have hnew : ∀ p ∈ kept, p.1 ∉ Keyed.keys ([] : Keyed Label Json) := fun p _ => List.not_mem_nil
  obtain ⟨r, hr, htidy⟩ := addSelections_fresh hnames hnew hbuilds
  refine ⟨r, ?_, htidy⟩
  rw [selectionTree, ← hkept, hr, List.nil_append]
  congr 2
  calc (kept.map fun p => (p.1, p.2.2))
      = (Keyed.settled built).map (fun p => (p.1, p.2.2)) := by rw [List.map_map]; rfl
    _ = Keyed.settled (built.map fun p => (p.1, p.2.2)) :=
        (Keyed.settled_map (fun p : Selection × Json => p.2) built).symm
    _ = Keyed.ofPairs (built.map fun p => (p.1, p.2.2)) := (Keyed.ofPairs_eq_settled _).symm

/-- Every field can be cleaned inside. -/
theorem cleans_fieldPairs (scope : Scope) (selections : List Selection) :
    ∀ p ∈ fieldPairs selections, Cleans scope p := by
  induction selections using selections_induction with
  | nil => exact fun p hp => absurd hp List.not_mem_nil
  | field alias? name arguments directives sub rest hsub ih =>
    refine List.forall_mem_cons.mpr ⟨?_, ih⟩
    rintro path reports schema ⟨_, _, _, _, hselection, hfield⟩
    cases hselection
    -- the fields of what is selected can be cleaned by induction, so what is selected can
    obtain ⟨r, hclean, htidy⟩ := fieldSchema_clean
      (fun inner r tree hs => selectionTree_clean_of_cleans (hsub inner hs)) hfield
    exact ⟨r, ⟨alias?, arguments, directives, cleanSub sub, rfl, hclean⟩, htidy⟩
  | fragmentSpread name directives rest ih => exact ih
  | inlineFragment condition directives inner rest ih => exact ih
  | flawed flaw rest ih => exact ih

/-- A selection set and the clean one have the same properties: one for each field, in the order in
which the fields first come, with what the last selection of the field builds to by itself. Of the
clean one nothing is said about selections. Of the other it is said level by level, also inside
selections that are replaced, about as many selections as there are more of them than properties. -/
theorem selectionTree_clean {selections : List Selection} {tree : Keyed Label Json}
    (h : selectionTree scope path selections = ⟨reports, .ok tree⟩) :
    (∃ r, selectionTree scope path (clean selections) = ⟨r, .ok tree⟩ ∧ Tidy r) ∧
    tree.keys = (fieldNames selections).eraseDups ∧
    (∀ name selection, Keyed.lastValue? (fieldPairs selections) name = some selection →
      ∃ r schema, BuildsTo scope path name selection r schema ∧ tree.get? name = some schema) ∧
    (reports.filter Diagnostic.isOnSelection).Perm
      ((levels path selections).flatMap reportsOfLevel) ∧
    ∀ level ∈ levels path selections, ∃ r built,
      selectionTree scope level.1 level.2 = ⟨r, .ok built⟩ ∧
      (reportsOfLevel level).length + built.keys.length = level.2.length := by
  obtain ⟨built, hpairs, htree, hbuilt⟩ := addSelections_built h
  have hwritten : tree = Keyed.ofPairs (built.map fun p => (p.1, p.2.2)) := htree
  refine ⟨selectionTree_clean_of_cleans (cleans_fieldPairs scope selections) h, ?_, ?_, ?_, ?_⟩
  · have hnames : (built.map fun p => (p.1, p.2.2)).map Prod.fst =
        (built.map fun p => (p.1, p.2.1)).map Prod.fst := by
      rw [List.map_map, List.map_map]
      rfl
    rw [hwritten, Keyed.keys_ofPairs, hnames, hpairs, map_fst_fieldPairs]
  · intro name selection hlast
    rw [← hpairs, Keyed.lastValue?_map (fun p : Selection × Json => p.1)] at hlast
    obtain ⟨⟨last, schema⟩, hboth, hsame⟩ := Option.map_eq_some_iff.mp hlast
    obtain rfl : last = selection := hsame
    obtain ⟨r, hbuild⟩ := hbuilt _ (Keyed.mem_of_lastValue? hboth)
    refine ⟨r, schema, hbuild, ?_⟩
    rw [hwritten, Keyed.ofPairs_eq_settled, Keyed.get?_settled,
      Keyed.lastValue?_map (fun p : Selection × Json => p.2), hboth]
    rfl
  · have hknown (variableName : Label) :
        scope.declared.contains (variableKey variableName) = true ↔
          variableKey variableName ∈ scope.declared := List.contains_iff_mem
    rw [addSelections_reports hknown (fun name => Iff.rfl) h, levels, List.flatMap_cons]
    exact filter_selectionsTrace _ selections path []
  · -- each level is built from nothing, so the count applies to it
    have hall : ∀ level ∈ levels path selections, ∃ r tree,
        selectionTree scope level.1 level.2 = ⟨r, .ok tree⟩ :=
      List.forall_mem_cons.mpr ⟨⟨reports, tree, h⟩, exists_of_innerLevels h⟩
    intro level hlevel
    obtain ⟨r, inner, hinner⟩ := hall level hlevel
    exact ⟨r, inner, hinner, addSelections_count (fun name => Iff.rfl) hinner⟩

/-- A user that is selected twice, with fragments around and inside. -/
def doubledUser : List Selection :=
  [.fragmentSpread "Page" [],
    .field none "user" [] [] (some [.field none "id" [] [] none, .fragmentSpread "Details" [],
      .field none "id" [] [] none]),
    .field none "now" [] [] none,
    .inlineFragment none [] [.field none "hidden" [] [] none],
    .field (some (.ok "me")) "user" [⟨"id", .variable "id"⟩] []
      (some [.field none "name" [] [] none, .inlineFragment (some "Admin") [] []])]

/-- The clean selection set has the later user, in the place of the earlier one, and both have the
same properties. Six reports are made: three at the top, two inside the earlier user and one inside
the later. -/
theorem selectionTree_clean_doubledUser :
    ∃ reports r tree, selectionTree userScope ["Q"] doubledUser = ⟨reports, .ok tree⟩ ∧
      selectionTree userScope ["Q"]
        [.field (some (.ok "me")) "user" [⟨"id", .variable "id"⟩] []
          (some [.field none "name" [] [] none]), .field none "now" [] [] none] = ⟨r, .ok tree⟩ ∧
      Tidy r ∧ tree.keys = ["user", "now"] ∧
      (reports.filter Diagnostic.isOnSelection).length = 6 := by
  have hbuild : selectionTree userScope ["Q"] doubledUser = ⟨_, .ok _⟩ := rfl
  obtain ⟨⟨r, hclean, htidy⟩, hkeys, -, hperm, -⟩ := selectionTree_clean hbuild
  exact ⟨_, r, _, hbuild, hclean, htidy, hkeys.trans (by decide), hperm.length_eq.trans (by decide)⟩

end QuerySchema.Schema
