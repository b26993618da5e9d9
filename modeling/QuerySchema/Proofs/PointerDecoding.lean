import QuerySchema.Proofs.ArgumentReferences

/-!
What can be read off a JSON pointer.

A pointer is its start and then, for each key, a slash and the escaped key. An escaped key holds no
slash, so the pieces between the slashes are the escaped keys, and unescaping gives the keys back,
be they empty or full of tildes and slashes. So a pointer determines its keys once its start is
known, and in particular the operation and the variable that it leads to.

What is proved:
  1. `flatMap_tokenChar_eq`: escaping is two replacements, that of the tildes first.
  2. `marksTildes_escape`: in an escaped key a zero or a one stands behind every tilde.
  3. `splitOn_eq_slashPieces`, `unescape_splitOn_body`: the keys are what stands between the
     slashes.
  4. `variablePointer_inj`: the pointer to a variable determines its operation and the variable.
  5. `pointer_decodes_uniquely`: all of it, for every start and all keys.
-/

namespace QuerySchema

namespace Json

/-! ## Escaped keys -/

/-- A text with only its slashes escaped. -/
def slashChar (c : Char) : List Char := if c = '/' then ['~', '1'] else [c]

/-- A key is escaped by replacing its tildes and then its slashes. -/
theorem flatMap_tokenChar_eq (cs : List Char) :
    cs.flatMap tokenChar = (cs.flatMap tildeChar).flatMap slashChar := by
  rw [List.flatMap_assoc]
  refine congrArg cs.flatMap (funext fun c => ?_)
  by_cases ht : c = '~'
  · subst ht
    rfl
  · simp [tokenChar, tildeChar, slashChar, ht]

/-- Behind every tilde of a text stands a zero or a one. -/
def MarksTildes (cs : List Char) : Prop :=
  ∀ before after, cs = before ++ '~' :: after → after.head? = some '0' ∨ after.head? = some '1'

theorem marksTildes_cons {c : Char} (hc : c ≠ '~') {cs : List Char} (h : MarksTildes cs) :
    MarksTildes (c :: cs) := by
  intro before after he
  cases before with
  | nil => exact absurd (List.cons.inj he).1 hc
  | cons b before => exact h before after (List.cons.inj he).2

theorem marksTildes_pair {digit : Char} (hdigit : digit = '0' ∨ digit = '1') {cs : List Char}
    (h : MarksTildes cs) : MarksTildes ('~' :: digit :: cs) := by
  have hother : digit ≠ '~' := by rcases hdigit with rfl | rfl <;> decide
  intro before after he
  cases before with
  | nil =>
    obtain rfl := (List.cons.inj he).2
    exact hdigit.imp (congrArg some) (congrArg some)
  | cons b before => exact marksTildes_cons hother h before after (List.cons.inj he).2

/-- In an escaped key a zero or a one stands behind every tilde. -/
theorem marksTildes_escape (cs : List Char) : MarksTildes (cs.flatMap tokenChar) := by
  induction cs with
  | nil => exact fun before after he => absurd he (by simp)
  | cons c cs ih =>
    rw [List.flatMap_cons, tokenChar]
    by_cases ht : c = '~'
    · rw [if_pos ht]
      exact marksTildes_pair (.inl rfl) ih
    · by_cases hs : c = '/'
      · rw [if_neg ht, if_pos hs]
        exact marksTildes_pair (.inr rfl) ih
      · rw [if_neg ht, if_neg hs]
        exact marksTildes_cons ht ih

/-! ## Keys between slashes -/

/-- Splitting a text at its slashes. -/
theorem splitOn_eq_slashPieces (cs : List Char) :
    cs.splitOn '/' = (slashPieces cs).1 :: (slashPieces cs).2 := by
  induction cs with
  | nil => rfl
  | cons c rest ih =>
    rw [List.splitOn_cons_eq_if_modifyHead, ih, slashPieces]
    by_cases hc : c = '/'
    · simp [hc]
    · simp [hc]

/-- The first slash of what stands behind the start of a pointer leads to all keys. -/
theorem unescape_splitOn_body (token : String) (rest : List String) :
    ((token.toList.flatMap tokenChar ++ pointerBody rest).splitOn '/').map unescapeToken =
      token :: rest := by
  rw [splitOn_eq_slashPieces, slashPieces_append (slash_not_mem_escape _), slashPieces_body,
    List.append_nil, List.map_cons, List.map_map, unescape_escape]
  congr 1
  exact (List.map_congr_left fun token _ => unescape_escape token).trans (List.map_id' rest)

example : ("~01/a~1b/".toList.splitOn '/').map unescapeToken = ["~1", "a/b", ""] := by decide

end Json

namespace Schema

open GraphQL

/-- Under one layout, the pointer to a variable determines the operation and the variable. -/
theorem variablePointer_inj {scope other : Scope} (hlayout : scope.layout = other.layout)
    {operation operation' : String} (ho : scope.operation = some (.text operation))
    (ho' : other.operation = some (.text operation')) {name name' : String}
    (h : variablePointer scope name = variablePointer other name') :
    operation = operation' ∧ name = name' := by
  simp only [variablePointer, ho, ho', hlayout, Except.ok.injEq] at h
  have htokens := Json.pointer_injective _ h
  simp only [List.cons.injEq, true_and, and_true] at htokens
  exact ⟨htokens.1, variableMark_injective htokens.2⟩

/-- A pointer can be decoded, and in one way only. A key is escaped by replacing its tildes and then its
slashes, so that an escaped key holds no slash and a zero or a one stands behind each of its tildes. A
pointer goes on behind its start just when it has keys, and then with a slash; what stands between the
slashes behind this one are the keys, as soon as `~1` and then `~0` are undone in each. Other keys
behind the same start give another pointer, and under one layout another operation or variable has
another pointer. -/
theorem pointer_decodes_uniquely (start : String) (tokens : List String) :
    (∀ token ∈ tokens,
      (Json.escapeToken token).toList =
        (token.toList.flatMap Json.tildeChar).flatMap Json.slashChar ∧
      '/' ∉ (Json.escapeToken token).toList ∧ Json.MarksTildes (Json.escapeToken token).toList) ∧
    (∃ rest, Json.pointer start tokens = start ++ rest ∧ (rest = "" ↔ tokens = []) ∧
      (tokens ≠ [] → ∃ body, rest.toList = '/' :: body ∧
        (body.splitOn '/').map Json.unescapeToken = tokens)) ∧
    (∀ others, Json.pointer start others = Json.pointer start tokens → others = tokens) ∧
    ∀ (scope other : Scope) (operation operation' name name' : String),
      scope.layout = other.layout → scope.operation = some (.text operation) →
      other.operation = some (.text operation') →
      (∃ pointer, variablePointer scope name = .ok pointer) ∧
      (variablePointer scope name = variablePointer other name' →
        operation = operation' ∧ name = name') := by
  refine ⟨fun token _ => ?_, ⟨String.ofList (Json.pointerBody tokens), ?_, ?_, ?_⟩,
    fun others h => Json.pointer_injective start h, ?_⟩
  · rw [Json.escapeToken, String.toList_ofList]
    exact ⟨Json.flatMap_tokenChar_eq _, Json.slash_not_mem_escape _, Json.marksTildes_escape _⟩
  · rw [← String.toList_inj, Json.toList_pointer, String.toList_append, String.toList_ofList]
  · rw [← String.toList_inj, String.toList_ofList]
    cases tokens with
    | nil => exact iff_of_true rfl rfl
    | cons token rest => exact iff_of_false (List.cons_ne_nil _ _) (List.cons_ne_nil _ _)
  · intro hsome
    rw [String.toList_ofList]
    cases tokens with
    | nil => exact absurd rfl hsome
    | cons token rest => exact ⟨_, rfl, Json.unescape_splitOn_body token rest⟩
  · intro scope other operation operation' name name' hlayout ho ho'
    refine ⟨?_, variablePointer_inj hlayout ho ho'⟩
    rw [variablePointer, ho]
    exact ⟨_, rfl⟩

/-- Keys that look escaped come back as they were, the empty one too. An operation with a slash in
its name shares no pointer with the one that is named like its escaped name. -/
theorem pointer_decodes_uniquely_escapedKeys :
    (∃ rest body, Json.pointer "#/definitions" ["~01", "a/b~", ""] = "#/definitions" ++ rest ∧
      rest.toList = '/' :: body ∧
      (body.splitOn '/').map Json.unescapeToken = ["~01", "a/b~", ""]) ∧
    variablePointer ((Scope.top .definitions .builtin).within "a/b") "id" ≠
      variablePointer ((Scope.top .definitions .builtin).within "a~1b") "id" := by
  obtain ⟨-, ⟨rest, hpointer, -, hbody⟩, -, hvariables⟩ :=
    pointer_decodes_uniquely "#/definitions" ["~01", "a/b~", ""]
  obtain ⟨body, hrest, hpieces⟩ := hbody (List.cons_ne_nil _ _)
  refine ⟨⟨rest, body, hpointer, hrest, hpieces⟩, fun he => ?_⟩
  let scope := Scope.top .definitions .builtin
  have hsame := (hvariables (scope.within "a/b") (scope.within "a~1b") "a/b" "a~1b" "id" "id"
    rfl rfl rfl).2 he
  exact absurd hsame.1 (by decide)

end Schema

end QuerySchema
