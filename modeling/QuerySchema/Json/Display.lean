import QuerySchema.Json.Writer

/-!
JSON values as messages show them.

Texts stand between quotes as `Text.quoted` writes them; the three constants are capitalised. The
form is for reading only and is not JSON.
-/

namespace QuerySchema.Json

open Decimal Text

mutual
/-- A value inside a message. -/
def shown : Json → List Char
  | .null => "None".toList
  | .bool true => "True".toList
  | .bool false => "False".toList
  | .int n => intText n
  | .float x => x.text
  | .string text => quotedChars text.toList
  | .array items => '[' :: (shownItems items ++ [']'])
  | .object members => '\x7b' :: (shownMembers members ++ ['\x7d'])
/-- Values with commas between them. -/
def shownItems : List Json → List Char
  | [] => []
  | [item] => shown item
  | item :: rest => shown item ++ [',', ' '] ++ shownItems rest
/-- Members with commas between them. -/
def shownMembers : List (String × Json) → List Char
  | [] => []
  | [(name, value)] => quotedChars name.toList ++ [':', ' '] ++ shown value
  | (name, value) :: rest =>
    quotedChars name.toList ++ [':', ' '] ++ shown value ++ [',', ' '] ++ shownMembers rest
end

/-- A value inside a message, as a text. -/
def display (value : Json) : String := String.ofList value.shown

end QuerySchema.Json
