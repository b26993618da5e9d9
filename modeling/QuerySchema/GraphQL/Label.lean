import QuerySchema.Json.Value
import QuerySchema.Text.Quoted

/-!
What the nodes that stand for names say.

The name of a parsed part is a text. A tree put together by hand can have another node in that
place, one that says a truth value or nothing at all; such a label is carried along like any other.
`Label.spoken` and `Label.shown` are its forms in a message, `Label.key` and `Label.json` its forms
in a schema.
-/

namespace QuerySchema.GraphQL

open Text

/-- What a node says. -/
inductive Label where
  | text (text : String)
  | truth (value : Bool)
  | nothing
  deriving DecidableEq, Repr

instance : Coe String Label := ⟨.text⟩

namespace Label

/-- A label in the middle of a text. -/
def spoken : Label → String
  | .text word => word
  | .truth true => "True"
  | .truth false => "False"
  | .nothing => "None"

/-- A label on its own in a message: a text stands between quotes. -/
def shown : Label → String
  | .text word => quoted word
  | label => label.spoken

/-- The label as the name of a member of a JSON object. -/
def key : Label → String
  | .text word => word
  | .truth true => "true"
  | .truth false => "false"
  | .nothing => "null"

/-- The label as a JSON value. -/
def json : Label → Json
  | .text word => .string word
  | .truth value => .bool value
  | .nothing => .null

/-- Whether a label counts as missing where it has to say something. -/
def isBlank : Label → Bool
  | .text word => word.isEmpty
  | .truth value => !value
  | .nothing => true

end Label

/-- An object whose members are named by labels. -/
def labelled (members : Keyed Label Json) : Json := .object (members.rename Label.key)

end QuerySchema.GraphQL
