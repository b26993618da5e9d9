import QuerySchema.Draft06.Check
import QuerySchema.Keyed

/-!
Values about which the check of a schema finds nothing.

A value fits a shape when nothing is found wrong with it. What is found about an object is found
about its members, keyword by keyword, so whether it fits comes down to its members.

What is proved:
  1. `check_eq_ok_iff`: the check accepts just what fits the shape of a schema.
  2. `fits_object`: an object with distinct keys is a schema just when all of its keywords fit; and
     `fits_put`: a further keyword that fits makes no difference.
  3. `fits_schemaMap`, `fits_texts`: the same for the schemas under names and for lists of names.
-/

namespace QuerySchema.Draft06

open Schema

/-! ## Values without findings -/

/-- Nothing is found wrong with a value of which a shape is asked. -/
def Fits (shape : Shape) (value : Json) : Prop := findings shape value = []

/-- The value of a word fits the keyword, if the word is one. -/
def FitsKeyword (word : String) (value : Json) : Prop :=
  ∀ shape, shape? word = some shape → Fits shape value

theorem check_eq_ok_iff {value : Json} : check value = .ok () ↔ Fits .schema value := by
  unfold check Fits
  cases findings .schema value with
  | nil => exact ⟨fun _ => rfl, fun _ => rfl⟩
  | cons found rest => cases found <;> simp

theorem fitsKeyword_iff {word : String} {value : Json} (shape : Shape)
    (h : shape? word = some shape) : FitsKeyword word value ↔ Fits shape value := by
  constructor
  · intro hall
    exact hall shape h
  · intro hfits other hother
    rw [h, Option.some.injEq] at hother
    rwa [← hother]

theorem memberFindings_eq_nil_iff {members : List (String × Json)} :
    memberFindings members = [] ↔ ∀ p ∈ members, Fits .schema p.2 := by
  induction members with
  | nil => simp [memberFindings]
  | cons p rest ih =>
    show (findings .schema p.2).map (Finding.under p.1) ++ memberFindings rest = [] ↔ _
    rw [List.append_eq_nil_iff, List.map_eq_nil_iff, ih, List.forall_mem_cons]
    rfl

theorem fits_schemaMap {members : List (String × Json)} :
    Fits .schemaMap (.object members) ↔ ∀ p ∈ members, Fits .schema p.2 := by
  exact memberFindings_eq_nil_iff

/-! ## Keywords -/

theorem keywordFindings_cons (word : String) (value : Json) (rest : List (String × Json)) :
    keywordFindings ((word, value) :: rest) =
      match shape? word with
      | some shape => (word, findings shape value) :: keywordFindings rest
      | none => keywordFindings rest := rfl

theorem mem_keywordFindings {members : List (String × Json)} {word : String}
    {found : List Finding} (h : (word, found) ∈ keywordFindings members) :
    ∃ value shape, (word, value) ∈ members ∧ shape? word = some shape ∧
      found = findings shape value := by
  induction members with
  | nil => cases h
  | cons p rest ih =>
    obtain ⟨first, value⟩ := p
    have hlater (hr : (word, found) ∈ keywordFindings rest) :
        ∃ value' shape, (word, value') ∈ (first, value) :: rest ∧ shape? word = some shape ∧
          found = findings shape value' := by
      obtain ⟨value', shape, hm, hs, hf⟩ := ih hr
      exact ⟨value', shape, List.mem_cons_of_mem _ hm, hs, hf⟩
    rw [keywordFindings_cons] at h
    split at h
    · next shape hshape =>
      rcases List.mem_cons.mp h with he | hr
      · cases he
        exact ⟨value, shape, List.mem_cons_self, hshape, rfl⟩
      · exact hlater hr
    · exact hlater h

theorem lookup_keywordFindings {members : Keyed String Json} (hn : members.keys.Nodup)
    {word : String} {value : Json} (hm : (word, value) ∈ members) {shape : Shape}
    (hs : shape? word = some shape) :
    (keywordFindings members).lookup word = some (findings shape value) := by
  induction members with
  | nil => cases hm
  | cons p rest ih =>
    obtain ⟨first, other⟩ := p
    rw [Keyed.keys_cons, List.nodup_cons] at hn
    rcases List.mem_cons.mp hm with he | hr
    · cases he
      rw [keywordFindings_cons, hs]
      simp
    · have hne : word ≠ first := by
        rintro rfl
        exact hn.1 (Keyed.mem_keys_of_mem hr)
      have hrest := ih hn.2 hr
      rw [keywordFindings_cons]
      split
      · rw [List.lookup_cons, beq_eq_false_iff_ne.mpr hne]
        exact hrest
      · exact hrest

/-- An object is a schema just when all of its keywords fit. -/
theorem fits_object {members : Keyed String Json} (hn : members.keys.Nodup) :
    Fits .schema (.object members) ↔ ∀ p ∈ members, FitsKeyword p.1 p.2 := by
  show inKeywordOrder (keywordFindings members) = [] ↔ _
  rw [inKeywordOrder, List.flatMap_eq_nil_iff]
  constructor
  · intro hall p hp shape hs
    obtain ⟨_, _, hkeywords, -⟩ := List.lookup_eq_some_iff.mp hs
    have hword : (p.1, shape) ∈ keywords := by
      rw [hkeywords]
      simp
    have hfound := hall (p.1, shape) hword
    rw [lookup_keywordFindings hn hp hs, Option.getD_some, List.map_eq_nil_iff] at hfound
    exact hfound
  · intro hall keyword _
    cases hf : (keywordFindings members).lookup keyword.1 with
    | none => rfl
    | some found =>
      obtain ⟨_, _, hmembers, -⟩ := List.lookup_eq_some_iff.mp hf
      have hmem : (keyword.1, found) ∈ keywordFindings members := by
        rw [hmembers]
        simp
      obtain ⟨value, shape, hvalue, hs, rfl⟩ := mem_keywordFindings hmem
      have hfits : findings shape value = [] := hall _ hvalue shape hs
      rw [Option.getD_some, hfits, List.map_nil]

/-- A further keyword that fits leaves a schema one, and anything else not. -/
theorem fits_put {members : Keyed String Json} (hn : members.keys.Nodup) {word : String}
    {value : Json} (hnew : word ∉ members.keys) (hv : FitsKeyword word value) :
    Fits .schema (.object (members.put word value)) ↔ Fits .schema (.object members) := by
  rw [fits_object (Keyed.nodup_keys_put hn word value), fits_object hn, Keyed.put_eq_append hnew]
  constructor
  · intro hall p hp
    exact hall p (List.mem_append_left _ hp)
  · intro hall p hp
    rcases List.mem_append.mp hp with hp | hp
    · exact hall p hp
    · rw [List.mem_singleton.mp hp]
      exact hv

/-! ## Lists of names -/

theorem textItems_string (index : Nat) (names : List String) :
    textItems index (names.map Json.string) = [] := by
  induction names generalizing index with
  | nil => rfl
  | cons name rest ih => exact ih (index + 1)

theorem textsOf_string (names : List String) : textsOf (names.map Json.string) = names := by
  induction names with
  | nil => rfl
  | cons name rest ih => exact congrArg (name :: ·) ih

/-- A list of names fits where no name may come twice just when none does. -/
theorem fits_texts (names : List String) :
    Fits .texts (.array (names.map .string)) ↔ names.Nodup := by
  have hfound : findings .texts (.array (names.map .string)) =
      if repeatsText (names.map .string) then
        wrong (.array (names.map .string)) " has non-unique elements" else [] := by
    show textItems 0 (names.map .string) ++ _ = _
    rw [textItems_string, List.nil_append]
  rw [Fits, hfound, repeatsText, textsOf_string]
  by_cases hn : names.Nodup <;> simp [hn, wrong]

/-! ## Single keywords -/

theorem fitsKeyword_type (type : Primitive) : FitsKeyword "type" (.string type.text) := by
  rw [fitsKeyword_iff .types rfl]
  cases type <;> rfl

theorem fitsKeyword_text {word text : String} (h : shape? word = some .text) :
    FitsKeyword word (.string text) := by
  rw [fitsKeyword_iff _ h]
  rfl

theorem fitsKeyword_default (value : Json) : FitsKeyword "default" value := by
  rw [fitsKeyword_iff .anything rfl]
  cases value <;> rfl

theorem fitsKeyword_enum (items : List Json) : FitsKeyword "enum" (.array items) := by
  rw [fitsKeyword_iff .list rfl]
  rfl

theorem fitsKeyword_closed : FitsKeyword "additionalProperties" (.bool false) := by
  rw [fitsKeyword_iff .schema rfl]
  rfl

theorem fitsKeyword_required (names : List String) :
    FitsKeyword "required" (.array (names.map .string)) ↔ names.Nodup := by
  rw [fitsKeyword_iff .texts rfl, fits_texts]

theorem fitsKeyword_map {word : String} (h : shape? word = some .schemaMap)
    {members : List (String × Json)} :
    FitsKeyword word (.object members) ↔ ∀ p ∈ members, Fits .schema p.2 := by
  rw [fitsKeyword_iff _ h, fits_schemaMap]

theorem fitsKeyword_items {members : Keyed String Json} (h : Fits .schema (.object members)) :
    FitsKeyword "items" (.object members) := by
  have hnothing : inKeywordOrder (keywordFindings members) = [] := h
  rw [fitsKeyword_iff .items rfl]
  show alternative (.object members) (inKeywordOrder (keywordFindings members)) = []
  rw [hnothing]
  rfl

theorem fits_empty : Fits .schema (.object []) :=
  (fits_object Keyed.nodup_keys_nil).mpr fun _ hp => nomatch hp

theorem fits_false : Fits .schema (.bool false) := rfl

end QuerySchema.Draft06
