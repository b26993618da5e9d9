import Mathlib
import QuerySchema.Proofs.OmissionTrace
import QuerySchema.Proofs.ParsedNames
import QuerySchema.Proofs.WrittenStrings

/-!
The characters of diagnostics.

A report on one line names parts of the document: operations, variables, fields, arguments,
fragments and types. In a document that was read from text these names are words, and all that a
report says about them is worded in advance. So such a report is printable ASCII. It holds no line
end, and no escape character that would start a control sequence.

What is proved:
  1. `isPlainText_quoted`: a printable text between quotes is printable.
  2. `isPlainText_reportAt`: a report is printable where the labels are that it names.
  3. `isPlainText_selectionsTrace`, `isPlainText_definitionTrace`: so is what is left out of selections
     and of definitions whose names are words.
  4. `isPlainText_of_mem_diagnostics`: so are the diagnostics of a document that was read from text.
-/

namespace QuerySchema

open GraphQL Json Text

/-! ## Printable texts -/

/-- A text is printable ASCII. -/
def IsPlainText (text : String) : Prop := ∀ c ∈ text.toList, IsPlain c

instance (text : String) : Decidable (IsPlainText text) :=
  decidable_of_iff ((text.toList.all fun c => decide (IsPlain c)) = true)
    ⟨forall_isPlain, fun h => List.all_eq_true.mpr fun c hc => decide_eq_true (h c hc)⟩

theorem isPlainText_append {a b : String} :
    IsPlainText (a ++ b) ↔ IsPlainText a ∧ IsPlainText b := by
  rw [IsPlainText, String.toList_append]
  exact List.forall_mem_append

theorem isPlainText_intercalate {separator : String} (h : IsPlainText separator)
    {texts : List String} (ht : ∀ text ∈ texts, IsPlainText text) :
    IsPlainText (separator.intercalate texts) := by
  induction texts with
  | nil => exact (by decide : IsPlainText "")
  | cons first rest ih =>
    obtain ⟨hfirst, hrest⟩ := List.forall_mem_cons.mp ht
    cases rest with
    | nil => exact hfirst
    | cons second rest =>
      rw [String.intercalate_cons_cons]
      exact isPlainText_append.mpr ⟨isPlainText_append.mpr ⟨hfirst, h⟩, ih hrest⟩

theorem isPlain_of_isNamePart {c : Char} (h : Lexing.isNamePart c = true) : IsPlain c := by
  simp only [Lexing.isNamePart, Lexing.isNameStart, Char.isAlpha, Char.isUpper, Char.isLower,
    Char.isDigit, Bool.or_eq_true, Bool.and_eq_true, decide_eq_true_eq, beq_iff_eq,
    UInt32.le_iff_toNat_le, ge_iff_le] at h
  show 0x20 ≤ c.val.toNat ∧ c.val.toNat ≤ 0x7E
  rcases h with ((⟨hlow, hhigh⟩ | ⟨hlow, hhigh⟩) | rfl) | ⟨hlow, hhigh⟩
  · exact ⟨le_trans (by decide) hlow, le_trans hhigh (by decide)⟩
  · exact ⟨le_trans (by decide) hlow, le_trans hhigh (by decide)⟩
  · decide
  · exact ⟨le_trans (by decide) hlow, le_trans hhigh (by decide)⟩

theorem isPlain_hexDigits (width value : Nat) : ∀ c ∈ hexDigits width value, IsPlain c := by
  induction width with
  | zero => exact fun _ hc => absurd hc List.not_mem_nil
  | succ width ih =>
    exact List.forall_mem_cons.mpr ⟨isPlain_hexDigit _ (Nat.mod_lt _ (by decide)), ih⟩

theorem isPlain_quotedChar (quote : Char) {c : Char} (h : IsPlain c) :
    ∀ d ∈ quotedChar quote c, IsPlain d := by
  have hbackslash : IsPlain '\\' := by decide
  unfold quotedChar
  split
  · exact List.forall_mem_cons.mpr ⟨hbackslash, List.forall_mem_singleton.mpr h⟩
  -- the three characters with a short escape
  iterate 3 (split; next => exact forall_isPlain (by decide))
  split
  · exact List.forall_mem_singleton.mpr h
  have hescape (letter : Char) (hletter : IsPlain letter) (width : Nat) :
      ∀ d ∈ '\\' :: letter :: hexDigits width c.toNat, IsPlain d :=
    List.forall_mem_cons.mpr ⟨hbackslash, List.forall_mem_cons.mpr
      ⟨hletter, isPlain_hexDigits width _⟩⟩
  split
  · exact hescape 'x' (by decide) 2
  split
  · exact hescape 'u' (by decide) 4
  · exact hescape 'U' (by decide) 8

/-- A printable text is printable between quotes. -/
theorem isPlainText_quoted {text : String} (h : IsPlainText text) : IsPlainText (quoted text) := by
  have hquote : IsPlain (quoteFor text.toList) := by
    unfold quoteFor
    split <;> decide
  rw [IsPlainText, quoted, String.toList_ofList, quotedChars]
  refine List.forall_mem_cons.mpr ⟨hquote, List.forall_mem_append.mpr
    ⟨?_, List.forall_mem_singleton.mpr hquote⟩⟩
  exact List.forall_mem_flatMap.mpr fun c hc => isPlain_quotedChar _ (h c hc)

theorem isPlainText_kind (kind : NodeKind) : IsPlainText kind.text := by
  cases kind <;> decide

/-! ## Labels -/

namespace GraphQL

/-- A label is printable in a text. -/
def Label.IsPlain (label : Label) : Prop := IsPlainText label.spoken

theorem Label.IsPlain.shown {label : Label} (h : label.IsPlain) : IsPlainText label.shown := by
  cases label with
  | text word => exact isPlainText_quoted h
  | truth value => exact h
  | nothing => exact h

theorem Label.isPlain_nothing : Label.nothing.IsPlain := by
  show IsPlainText "None"
  decide

theorem Label.IsWord.isPlain {label : Label} (h : label.IsWord) : label.IsPlain := by
  obtain ⟨text, rfl, htext⟩ := h
  exact fun c hc => isPlain_of_isNamePart (htext.parts c hc)

theorem Label.IsPlain.variableKey {label : Label} (h : label.IsPlain) :
    Label.IsPlain (.text (Schema.variableKey label)) :=
  isPlainText_append.mpr ⟨by decide, h⟩

end GraphQL

namespace Schema

/-! ## Reports -/

/-- The labels that the report on an omission names. -/
def Omission.labels : Omission → List Label
  | .fragmentSpread name => [name]
  | .inlineFragment condition => condition.toList
  | .listVariable key => [.text key]
  | .unsupportedDefault _ => []
  | .literalArgument _ argument => [argument]
  | .unresolvedVariable argument variableName => [argument, variableName]
  | .unsupportedDefinition _ => []
  | .duplicateDefinition name => [name]
  | .overwrittenSelection name alias? => name :: alias?.toList

/-- What is said about an omission is printable where the labels are that it names. -/
theorem Omission.isPlainText_message {omission : Omission}
    (h : ∀ label ∈ omission.labels, label.IsPlain) : IsPlainText omission.message := by
  have hbetween {a b c : String} (ha : IsPlainText a) (hb : IsPlainText b) (hc : IsPlainText c) :
      IsPlainText (a ++ b ++ c) :=
    isPlainText_append.mpr ⟨isPlainText_append.mpr ⟨ha, hb⟩, hc⟩
  cases omission with
  | fragmentSpread name => exact hbetween (by decide) (h name (by simp [labels])) (by decide)
  | inlineFragment condition =>
    cases condition with
    | none => exact (by decide : IsPlainText "inline fragment is not expanded")
    | some type => exact hbetween (by decide) (h type (by simp [labels])) (by decide)
  | listVariable key => exact hbetween (by decide) (h (.text key) (by simp [labels])) (by decide)
  | unsupportedDefault kind =>
    exact hbetween (by decide) (isPlainText_quoted (isPlainText_kind kind)) (by decide)
  | literalArgument kind argument =>
    refine hbetween (hbetween (by decide) ?_ (by decide)) (h argument (by simp [labels])).shown
      (by decide)
    exact isPlainText_quoted (isPlainText_kind kind)
  | unresolvedVariable argument variableName =>
    refine hbetween (hbetween (by decide) ?_ (by decide)) (h variableName (by simp [labels]))
      (by decide)
    exact (h argument (by simp [labels])).shown
  | unsupportedDefinition kind =>
    exact hbetween (by decide) (isPlainText_quoted (isPlainText_kind kind)) (by decide)
  | duplicateDefinition name =>
    exact hbetween (by decide) (h name (by simp [labels])).shown (by decide)
  | overwrittenSelection name alias? =>
    have hname := (h name (by simp [labels])).shown
    cases alias? with
    | none => exact hbetween (by decide) hname (by decide)
    | some other =>
      refine hbetween (hbetween (by decide) hname (by decide)) ?_ (by decide)
      exact (h other (by simp [labels])).shown

/-- A report is printable where the labels are that it names and that lead to it. -/
theorem isPlainText_reportAt (omission : Omission) (h : ∀ label ∈ omission.labels, label.IsPlain)
    {path : List Label} (hpath : ∀ label ∈ path, label.IsPlain) :
    IsPlainText (omission.reportAt path).text := by
  have hmessage := Omission.isPlainText_message h
  unfold Diagnostic.text
  split
  · exact hmessage
  · have hlocation : IsPlainText (omission.reportAt path).location := by
      refine isPlainText_intercalate (by decide) fun text ht => ?_
      obtain ⟨label, hlabel, rfl⟩ := List.mem_map.mp ht
      exact hpath label hlabel
    exact isPlainText_append.mpr ⟨isPlainText_append.mpr ⟨hlocation, by decide⟩, hmessage⟩

/-- All of some reports are printable. -/
def PlainReports (reports : List Diagnostic) : Prop := ∀ d ∈ reports, IsPlainText d.text

theorem plainReports_nil : PlainReports [] := fun _ hd => absurd hd List.not_mem_nil

theorem plainReports_append {reports more : List Diagnostic} (h : PlainReports reports)
    (hmore : PlainReports more) : PlainReports (reports ++ more) :=
  List.forall_mem_append.mpr ⟨h, hmore⟩

theorem plainReports_singleton {d : Diagnostic} (h : IsPlainText d.text) : PlainReports [d] :=
  List.forall_mem_singleton.mpr h

/-- A report that is made for a kind of node, if there is one. -/
theorem plainReports_toList {kind? : Option NodeKind} {report : NodeKind → Diagnostic}
    (h : ∀ kind, IsPlainText (report kind).text) : PlainReports (kind?.map report).toList := by
  cases kind? with
  | none => exact plainReports_nil
  | some kind => exact plainReports_singleton (h kind)

/-! ## Operations -/

variable {path : List Label}

theorem isPlain_concat (hpath : ∀ label ∈ path, label.IsPlain) {name : Label} (h : name.IsPlain) :
    ∀ label ∈ path ++ [name], label.IsPlain :=
  List.forall_mem_append.mpr ⟨hpath, List.forall_mem_singleton.mpr h⟩

theorem isPlainText_variableTrace {operation : Label} (h : operation.IsPlain)
    {declaration : VariableDefinition} (hd : declaration.Worded) :
    PlainReports (variableTrace operation declaration) := by
  have hkey := hd.2.isPlain.variableKey
  have hpath : ∀ label ∈ [operation, "variables", .text (variableKey declaration.name)],
      label.IsPlain :=
    List.forall_mem_cons.mpr ⟨h, List.forall_mem_cons.mpr
      ⟨(by decide : IsPlainText "variables"), List.forall_mem_singleton.mpr hkey⟩⟩
  unfold variableTrace
  dsimp only
  split
  · exact plainReports_singleton
      (isPlainText_reportAt (.listVariable _) (List.forall_mem_singleton.mpr hkey) hpath)
  · cases declaration.default? with
    | none => exact plainReports_nil
    | some value =>
      rw [defaultTrace]
      split
      · exact plainReports_nil
      · exact plainReports_toList fun kind => isPlainText_reportAt (.unsupportedDefault kind)
          (fun _ hl => absurd hl List.not_mem_nil) hpath

theorem isPlainText_argumentTrace (known : Label → Bool) (hpath : ∀ label ∈ path, label.IsPlain)
    {argument : Argument} (h : argument.Worded) : PlainReports (argumentTrace known path argument) := by
  have hname := h.1.isPlain
  have hplace := isPlain_concat hpath hname
  unfold argumentTrace
  split
  · next variableName hvalue =>
    split
    · exact plainReports_nil
    · refine plainReports_singleton (isPlainText_reportAt (.unresolvedVariable _ _) ?_ hplace)
      exact List.forall_mem_cons.mpr
        ⟨hname, List.forall_mem_singleton.mpr (h.2.2 variableName hvalue).isPlain⟩
  · exact plainReports_toList fun kind => isPlainText_reportAt (.literalArgument kind _)
      (List.forall_mem_singleton.mpr hname) hplace

theorem isPlainText_replacementReports (hpath : ∀ label ∈ path, label.IsPlain) (taken : Prop)
    [Decidable taken] {alias? : Option (Readable Label)} {name : Label} (hname : name.IsPlain)
    (halias : ∀ place, alias? = some place → ∃ label, place = .ok label ∧ label.IsWord) :
    PlainReports (replacementReports path taken alias? name) := by
  unfold replacementReports
  split
  · refine plainReports_singleton
      (isPlainText_reportAt (.overwrittenSelection _ _) ?_ (isPlain_concat hpath hname))
    refine List.forall_mem_cons.mpr ⟨hname, fun label hl => ?_⟩
    cases alias? with
    | none => cases hl
    | some place =>
      obtain ⟨other, rfl, hword⟩ := halias place rfl
      obtain rfl : label = other := List.mem_singleton.mp hl
      exact hword.isPlain
  · exact plainReports_nil

/-- What is left out of selections whose names are words is reported in printable texts, at any
depth. -/
theorem isPlainText_selectionsTrace (known : Label → Bool) {selections : List Selection}
    (h : ∀ selection ∈ selections, selection.Worded) (hpath : ∀ label ∈ path, label.IsPlain)
    (earlier : List Label) : PlainReports (selectionsTrace known path earlier selections) := by
  induction selections using selections_induction generalizing path earlier with
  | nil =>
    rw [selectionsTrace]
    exact plainReports_nil
  | field alias? name arguments directives sub rest hsub ih =>
    obtain ⟨hfirst, hrest⟩ := List.forall_mem_cons.mp h
    cases hfirst with
    | field halias hname harguments hinner =>
      have hplace := isPlain_concat hpath hname.isPlain
      have hreplaced := isPlainText_replacementReports hpath (name ∈ earlier) hname.isPlain halias
      have hpassed : PlainReports (arguments.flatMap (argumentTrace known (path ++ [name]))) :=
        List.forall_mem_flatMap.mpr fun argument ha =>
          isPlainText_argumentTrace known hplace (harguments argument ha)
      have hlater := ih hrest hpath (name :: earlier)
      cases sub with
      | none =>
        rw [selectionsTrace]
        exact plainReports_append (plainReports_append hreplaced hpassed) hlater
      | some inner =>
        -- The selections of a field are read at its own place, where no label was seen before.
        have hselected := hsub inner rfl (hinner inner rfl) hplace []
        rw [selectionsTrace]
        have hfield := plainReports_append (plainReports_append hreplaced hselected) hpassed
        exact plainReports_append hfield hlater
  | fragmentSpread name directives rest ih =>
    obtain ⟨hfirst, hrest⟩ := List.forall_mem_cons.mp h
    cases hfirst with
    | fragmentSpread hname =>
      rw [selectionsTrace]
      refine List.forall_mem_cons.mpr
        ⟨isPlainText_reportAt (.fragmentSpread _) ?_ hpath, ih hrest hpath earlier⟩
      exact List.forall_mem_singleton.mpr hname.isPlain
  | inlineFragment condition directives inner rest ih =>
    obtain ⟨hfirst, hrest⟩ := List.forall_mem_cons.mp h
    cases hfirst with
    | inlineFragment hcondition =>
      rw [selectionsTrace]
      refine List.forall_mem_cons.mpr
        ⟨isPlainText_reportAt (.inlineFragment _) ?_ hpath, ih hrest hpath earlier⟩
      exact fun type ht => (hcondition type (Option.mem_toList.mp ht)).isPlain
  | flawed flaw rest ih => cases (List.forall_mem_cons.mp h).1

/-! ## Documents -/

theorem isPlain_label {definition : Definition} (h : definition.Worded) :
    definition.label.IsPlain := by
  have hname : MaybeWord definition.name := by
    cases definition with
    | operation operation => exact h.1
    | _ => exact h.2
  obtain ⟨label?, hname, hword⟩ := hname
  rw [Definition.label, hname]
  cases label? with
  | none => exact Label.isPlain_nothing
  | some label => exact (hword label rfl).isPlain

theorem isPlainText_leftOutReports (fate : Fate) {definition : Definition} (h : definition.Worded) :
    PlainReports (leftOutReports fate definition) := by
  have hlabel := isPlain_label h
  have hpath : ∀ label ∈ definition.path, label.IsPlain := by
    unfold Definition.path
    split
    · exact fun _ hl => absurd hl List.not_mem_nil
    · exact List.forall_mem_singleton.mpr hlabel
  cases fate with
  | unsupported =>
    exact plainReports_toList fun kind => isPlainText_reportAt (.unsupportedDefinition kind)
      (fun _ hl => absurd hl List.not_mem_nil) hpath
  | duplicate =>
    exact plainReports_singleton
      (isPlainText_reportAt (.duplicateDefinition _) (List.forall_mem_singleton.mpr hlabel) hpath)
  | attempted => exact plainReports_nil

/-- What is left out of a definition whose names are words is reported in printable texts. -/
theorem isPlainText_definitionTrace (fate : Fate) {definition : Definition}
    (h : definition.Worded) : PlainReports (definitionTrace (fate, definition)) := by
  unfold definitionTrace
  split
  · next operation he =>
    cases he
    have hlabel := isPlain_label h
    obtain ⟨-, hdeclarations, hselections⟩ := h
    refine plainReports_append (List.forall_mem_flatMap.mpr fun d hd => ?_) ?_
    · exact isPlainText_variableTrace hlabel (hdeclarations d hd)
    · exact isPlainText_selectionsTrace _ hselections (List.forall_mem_singleton.mpr hlabel) []
  · next he =>
    cases he
    exact isPlainText_leftOutReports _ h

/-- The diagnostics of a document that was read from text are printable. -/
theorem Converter.isPlainText_of_mem_diagnostics {converter : Converter} {definitions : Document}
    {c : Conversion} (hread : ReadFromText definitions)
    (h : converter.convertDocument definitions = .ok c) :
    ∀ d ∈ c.diagnostics, IsPlainText d.text := by
  obtain ⟨conversions, hc, -, -, hreports⟩ := convertDocument_ok h
  rw [hreports]
  refine List.forall_mem_flatMap.mpr fun p hp => ?_
  obtain ⟨fate, definition⟩ := p
  have hmem : definition ∈ definitions := map_snd_fates [] definitions ▸ List.mem_map_of_mem hp
  rw [reportsOn_eq_trace fun hf => ?_]
  · exact isPlainText_definitionTrace fate (hread.worded definition hmem)
  · subst hf
    obtain ⟨conversion, -, hconv⟩ := Outcome.exists_of_mapM hc definition (mem_attemptedOf hp)
    exact ⟨conversion, hconv⟩

end Schema

end QuerySchema
