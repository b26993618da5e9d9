/-!
JSON pointers.

A pointer names a place in a document: a start, such as the document's `definitions`, and the
object keys on the way down, each behind a slash. Inside a key the tilde is written `~0` and the
slash `~1`.
-/

namespace QuerySchema.Json

/-- A character of a key inside a pointer. -/
def tokenChar (c : Char) : List Char :=
  if c = '~' then ['~', '0'] else if c = '/' then ['~', '1'] else [c]

/-- A key as it stands inside a pointer. -/
def escapeToken (token : String) : String := String.ofList (token.toList.flatMap tokenChar)

/-- The pointer that goes down from a start through the given keys. -/
def pointer (start : String) (tokens : List String) : String :=
  tokens.foldl (fun p token => p ++ "/" ++ escapeToken token) start

end QuerySchema.Json
