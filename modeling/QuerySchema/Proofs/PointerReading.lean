import QuerySchema.Json.Pointer
import QuerySchema.Json.Value

/-!
Reading JSON pointers.

A pointer that starts at `#` is read by splitting it at its slashes and undoing the escapes of every
piece, `~1` before `~0`; `Json.tokens?` is that reader. `Json.resolve` walks from the root of a
document through the members that the tokens name, and `Json.references` lists every pointer that
stands in a value.

What is proved:
  1. `unescape_escape`: escaping is undone exactly, although the two replacements can meet in texts
     such as `~01`.
  2. `tokens?_pointer`: a written pointer reads back as the keys it was written from, whatever
     characters they hold; so behind one start different keys have different pointers
     (`pointer_injective`).
  3. `mem_memberReferences`: the references in an object are those in its members.
-/

namespace QuerySchema.Json

/-! ## Undoing the escapes -/

/-- A text with another character for each pair of a tilde and a given digit. -/
def undoPair (digit meant : Char) : List Char → List Char
  | [] => []
  | [c] => [c]
  | c :: d :: rest =>
    if c = '~' ∧ d = digit then meant :: undoPair digit meant rest
    else c :: undoPair digit meant (d :: rest)

/-- The key that a piece of a pointer stands for. -/
def unescapeToken (piece : List Char) : String :=
  String.ofList (undoPair '0' '~' (undoPair '1' '/' piece))

/-- A text with only its tildes escaped. -/
def tildeChar (c : Char) : List Char := if c = '~' then ['~', '0'] else [c]

theorem undoPair_cons {c : Char} (h : c ≠ '~') (digit meant : Char) (rest : List Char) :
    undoPair digit meant (c :: rest) = c :: undoPair digit meant rest := by
  cases rest with
  | nil => rfl
  | cons d rest => simp [undoPair, h]

/-- Undoing `~1` gives back the slashes and leaves the escaped tildes alone. -/
theorem undoPair_slash (cs : List Char) :
    undoPair '1' '/' (cs.flatMap tokenChar) = cs.flatMap tildeChar := by
  induction cs with
  | nil => rfl
  | cons c cs ih =>
    rw [List.flatMap_cons, List.flatMap_cons]
    by_cases ht : c = '~'
    · -- the escaped tilde is kept whole, also in front of a digit one
      subst ht
      show undoPair '1' '/' ('~' :: '0' :: cs.flatMap tokenChar) = '~' :: '0' :: cs.flatMap tildeChar
      rw [undoPair, if_neg (by decide), undoPair_cons (by decide), ih]
    · by_cases hs : c = '/'
      · subst hs
        show undoPair '1' '/' ('~' :: '1' :: cs.flatMap tokenChar) = '/' :: cs.flatMap tildeChar
        rw [undoPair, if_pos ⟨rfl, rfl⟩, ih]
      · simp only [tokenChar, tildeChar, ht, hs, if_false, List.singleton_append]
        rw [undoPair_cons ht, ih]

theorem undoPair_tilde (cs : List Char) : undoPair '0' '~' (cs.flatMap tildeChar) = cs := by
  induction cs with
  | nil => rfl
  | cons c cs ih =>
    rw [List.flatMap_cons]
    by_cases ht : c = '~'
    · subst ht
      show undoPair '0' '~' ('~' :: '0' :: cs.flatMap tildeChar) = '~' :: cs
      rw [undoPair, if_pos ⟨rfl, rfl⟩, ih]
    · simp only [tildeChar, ht, if_false, List.singleton_append]
      rw [undoPair_cons ht, ih]

/-- Escaping is undone exactly. -/
theorem unescape_escape (token : String) :
    unescapeToken (token.toList.flatMap tokenChar) = token := by
  rw [unescapeToken, undoPair_slash, undoPair_tilde, String.ofList_toList]

/-- An escaped key holds no slash. -/
theorem slash_not_mem_escape (cs : List Char) : '/' ∉ cs.flatMap tokenChar := by
  intro h
  obtain ⟨c, -, hc⟩ := List.mem_flatMap.mp h
  unfold tokenChar at hc
  split at hc
  · simp at hc
  · split at hc
    · simp at hc
    · next hs => exact hs (List.mem_singleton.mp hc).symm

/-! ## Splitting at the slashes -/

/-- What stands in front of the first slash of a text, and the pieces behind each slash. -/
def slashPieces : List Char → List Char × List (List Char)
  | [] => ([], [])
  | c :: rest =>
    let (piece, pieces) := slashPieces rest
    if c = '/' then ([], piece :: pieces) else (c :: piece, pieces)

theorem slashPieces_append {cs : List Char} (h : '/' ∉ cs) (rest : List Char) :
    slashPieces (cs ++ rest) = (cs ++ (slashPieces rest).1, (slashPieces rest).2) := by
  induction cs with
  | nil => rfl
  | cons c cs ih =>
    rw [List.mem_cons, not_or] at h
    have hc : c ≠ '/' := fun e => h.1 e.symm
    simp only [List.cons_append, slashPieces, ih h.2, hc, if_false]

/-- The keys of a pointer as they stand behind its start. -/
def pointerBody (tokens : List String) : List Char :=
  tokens.flatMap fun token => '/' :: token.toList.flatMap tokenChar

theorem slashPieces_body (tokens : List String) :
    slashPieces (pointerBody tokens) = ([], tokens.map fun token => token.toList.flatMap tokenChar) := by
  induction tokens with
  | nil => rfl
  | cons token rest ih =>
    show slashPieces ('/' :: (token.toList.flatMap tokenChar ++ pointerBody rest)) = _
    simp only [slashPieces, if_true]
    rw [slashPieces_append (slash_not_mem_escape _), ih, List.append_nil]
    rfl

/-- The keys that a pointer from the root goes through; none for a text that is no such pointer. -/
def tokens? (pointer : String) : Option (List String) :=
  match pointer.toList with
  | '#' :: rest =>
    match slashPieces rest with
    | ([], pieces) => some (pieces.map unescapeToken)
    | _ => none
  | _ => none

theorem toList_pointer (start : String) (tokens : List String) :
    (pointer start tokens).toList = start.toList ++ pointerBody tokens := by
  induction tokens generalizing start with
  | nil => exact (List.append_nil _).symm
  | cons token rest ih =>
    show (pointer (start ++ "/" ++ escapeToken token) rest).toList = _
    simp [ih, escapeToken, pointerBody]

/-- A written pointer reads back as its keys. -/
theorem tokens?_pointer (tokens : List String) : tokens? (pointer "#" tokens) = some tokens := by
  have h : (pointer "#" tokens).toList = '#' :: pointerBody tokens := toList_pointer "#" tokens
  have hback : tokens.map (unescapeToken ∘ fun token => token.toList.flatMap tokenChar) = tokens :=
    (List.map_congr_left fun token _ => unescape_escape token).trans (List.map_id' tokens)
  simp only [tokens?, h, slashPieces_body, List.map_map, hback]

example : tokens? "#/definitions/a~1b~01" = some ["definitions", "a/b~1"] := by decide

/-- Behind one start, different keys have different pointers. -/
theorem pointer_injective (start : String) : Function.Injective (pointer start) := by
  intro tokens others h
  have hbody : start.toList ++ pointerBody tokens = start.toList ++ pointerBody others := by
    rw [← toList_pointer, ← toList_pointer, h]
  have hroot : pointer "#" tokens = pointer "#" others := by
    rw [← String.toList_inj, toList_pointer, toList_pointer, List.append_cancel_left hbody]
  have hread : tokens? (pointer "#" tokens) = tokens? (pointer "#" others) := congrArg tokens? hroot
  rw [tokens?_pointer, tokens?_pointer] at hread
  exact Option.some.inj hread

/-! ## Going down -/

/-- What is reached by going down through the members of the given names. -/
def descend : List String → Json → Option Json
  | [], value => some value
  | name :: rest, value => (value.member? name).bind (descend rest)

theorem descend_append (names rest : List String) (value : Json) :
    descend (names ++ rest) value = (descend names value).bind (descend rest) := by
  induction names generalizing value with
  | nil => rfl
  | cons name names ih =>
    rw [List.cons_append, descend, descend, Option.bind_assoc]
    exact congrArg _ (funext ih)

/-- What a pointer leads to in a document. -/
def resolve (document : Json) (pointer : String) : Option Json :=
  (tokens? pointer).bind fun tokens => descend tokens document

mutual
/-- The pointers of the references in a value: every text under the name `$ref`, at any depth. -/
def references : Json → List String
  | .array items => itemReferences items
  | .object members => memberReferences members
  | _ => []
/-- The pointers in the items of an array. -/
def itemReferences : List Json → List String
  | [] => []
  | item :: rest => references item ++ itemReferences rest
/-- The pointers in the members of an object. -/
def memberReferences : List (String × Json) → List String
  | [] => []
  | (name, value) :: rest => memberReference name value ++ memberReferences rest
/-- The pointers in one member of an object. -/
def memberReference : String → Json → List String
  | name, .string text => if name = "$ref" then [text] else []
  | _, value => references value
end

@[simp] theorem references_object (members : List (String × Json)) :
    references (.object members) = memberReferences members := by rw [references]

@[simp] theorem memberReference_object (name : String) (members : List (String × Json)) :
    memberReference name (.object members) = memberReferences members := by
  rw [memberReference, references_object]
  exact fun _ he => nomatch he

theorem mem_memberReferences {members : List (String × Json)} {pointer : String} :
    pointer ∈ memberReferences members ↔
      ∃ p ∈ members, pointer ∈ memberReference p.1 p.2 := by
  induction members with
  | nil => simp [memberReferences]
  | cons p rest ih =>
    obtain ⟨name, value⟩ := p
    rw [memberReferences, List.mem_append, ih]
    constructor
    · rintro (h | ⟨p, hp, h⟩)
      · exact ⟨(name, value), List.mem_cons_self, h⟩
      · exact ⟨p, List.mem_cons_of_mem _ hp, h⟩
    · rintro ⟨p, hp, h⟩
      rcases List.mem_cons.mp hp with rfl | hp
      · exact .inl h
      · exact .inr ⟨p, hp, h⟩

end QuerySchema.Json
