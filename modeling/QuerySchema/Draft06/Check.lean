import QuerySchema.Draft06.Keyword
import QuerySchema.Draft06.Pattern.Check
import QuerySchema.Json.Display
import QuerySchema.Schema.Scalars

/-!
Whether a JSON value is a draft-06 schema.

`findings` lists everything that is wrong with a value, in the order of a walk through it: keywords
in their fixed order, the members of an object and the items of a list in theirs. A value that may
have one of several shapes is wrong as a whole, and only once. The check of a schema reports the
first finding. A pattern that cannot be used for a reason other than its form ends the check.
-/

namespace QuerySchema.Draft06

open Decimal Schema

/-- Something that is found in a value. -/
inductive Finding where
  /-- The value at a path is not of its shape. -/
  | violation (path : List String) (message : String)
  /-- A pattern cannot be used. -/
  | unusable (fault : PatternFault)
  deriving DecidableEq, Repr

namespace Finding

/-- A finding below a step of the path. -/
def under (step : String) : Finding → Finding
  | .violation path message => .violation (step :: path) message
  | .unusable fault => .unusable fault

/-- Whether the finding ends the check. -/
def endsCheck : Finding → Bool
  | .unusable _ => true
  | .violation _ _ => false

end Finding

/-- A finding about a value as a whole. -/
def wrong (value : Json) (message : String) : List Finding :=
  [.violation [] (value.display ++ message)]

/-- A value of the wrong type. -/
def wrongType (value : Json) (type : Primitive) : List Finding :=
  wrong value (" is not of type '" ++ type.text ++ "'")

/-- A value that has none of several shapes. -/
def noneFits (value : Json) : List Finding :=
  wrong value " is not valid under any of the given schemas"

/-- One of several shapes of a value: the findings about it count as one about the whole value. -/
def alternative (value : Json) (found : List Finding) : List Finding :=
  match found.find? Finding.endsCheck with
  | some fault => [fault]
  | none => if found.isEmpty then [] else noneFits value

/-- Whether a text is not a regular expression. -/
def patternFindings (text : String) : List Finding :=
  match Pattern.check text with
  | .ok () => []
  | .error .malformed => wrong (.string text) " is not a 'regex'"
  | .error fault => [.unusable fault]

/-- Whether a number lies below zero. -/
def isNegative : Json → Bool
  | .int n => n < 0
  | .float x => x.isNegative
  | _ => false

/-- Whether a number is zero. -/
def isZero : Json → Bool
  | .int n => n == 0
  | .float x => x.isZero
  | _ => false

/-- Whether a value is an integer: a number without a fraction. -/
def isInteger : Json → Bool
  | .int _ => true
  | .float x => x.isWhole
  | _ => false

/-- Whether a value is a number. -/
def isNumber : Json → Bool
  | .int _ | .float _ => true
  | _ => false

/-- The texts among some values. -/
def textsOf (items : List Json) : List String :=
  items.filterMap fun item => match item with
    | .string text => some text
    | _ => none

/-- Whether some text comes twice. -/
def repeatsText (items : List Json) : Bool := !(decide (textsOf items).Nodup)

/-- Whether a value is the name of a type. -/
def isTypeName : Json → Bool
  | .string word => (Primitive.ofText? word).isSome
  | _ => false

/-- The findings about the items of a list that have to be texts. -/
def textItems : (index : Nat) → List Json → List Finding
  | _, [] => []
  | index, item :: rest =>
    (match item with
      | .string _ => []
      | other => (wrongType other .string).map (Finding.under (toString index))) ++
      textItems (index + 1) rest

/-- The findings about a list of texts without repetition. -/
def textListFindings : Json → List Finding
  | .array items =>
    textItems 0 items ++
      (if repeatsText items then wrong (.array items) " has non-unique elements" else [])
  | value => wrongType value .array

/-- The findings about a value that holds no schema. -/
def plainFindings (shape : Shape) (value : Json) : List Finding :=
  match shape with
  | .text => match value with
    | .string _ => []
    | _ => wrongType value .string
  | .pattern => match value with
    | .string text => patternFindings text
    | _ => wrongType value .string
  | .boolean => match value with
    | .bool _ => []
    | _ => wrongType value .boolean
  | .list => match value with
    | .array _ => []
    | _ => wrongType value .array
  | .number => if isNumber value then [] else wrongType value .number
  | .positive =>
    if !isNumber value then wrongType value .number
    else if isNegative value || isZero value then
      wrong value " is less than or equal to the minimum of 0"
    else []
  | .count =>
    (if isInteger value then [] else wrongType value .integer) ++
      (if isNegative value then wrong value " is less than the minimum of 0" else [])
  | .texts => textListFindings value
  | .types => match value with
    | .array items =>
      if items.isEmpty || !items.all isTypeName || repeatsText items then noneFits value else []
    | _ => if isTypeName value then [] else noneFits value
  | _ => []

/-- The findings about the members of a schema, in the order of the keywords. -/
def inKeywordOrder (found : List (String × List Finding)) : List Finding :=
  keywords.flatMap fun keyword =>
    ((found.lookup keyword.1).getD []).map (Finding.under keyword.1)

mutual

/-- Everything that is wrong with a value of which a shape is asked. -/
def findings : Shape → Json → List Finding
  | .schema, .object members => inKeywordOrder (keywordFindings members)
  | .schema, .bool _ => []
  | .schema, value => wrong value " is not of type 'object', 'boolean'"
  | .schemas, .array items =>
    (if items.isEmpty then wrong (.array items) " should be non-empty" else []) ++
      itemFindings 0 items
  | .schemas, value => wrongType value .array
  | .items, .object members =>
    alternative (.object members) (inKeywordOrder (keywordFindings members))
  | .items, .bool _ => []
  | .items, .array items =>
    if items.isEmpty then noneFits (.array items)
    else alternative (.array items) (itemFindings 0 items)
  | .items, value => noneFits value
  | .schemaMap, .object members => memberFindings members
  | .schemaMap, value => wrongType value .object
  | .patternMap, .object members =>
    memberFindings members ++ members.flatMap fun member => patternFindings member.1
  | .patternMap, value => wrongType value .object
  | .dependencyMap, .object members => dependencyFindings members
  | .dependencyMap, value => wrongType value .object
  | .dependency, .object members =>
    alternative (.object members) (inKeywordOrder (keywordFindings members))
  | .dependency, .bool _ => []
  | .dependency, value => alternative value (textListFindings value)
  | shape, value => plainFindings shape value

/-- The findings about the members of a schema that are keywords. -/
def keywordFindings : List (String × Json) → List (String × List Finding)
  | [] => []
  | (word, value) :: rest =>
    match shape? word with
    | some shape => (word, findings shape value) :: keywordFindings rest
    | none => keywordFindings rest

/-- The findings about the items of a list of schemas. -/
def itemFindings : (index : Nat) → List Json → List Finding
  | _, [] => []
  | index, item :: rest =>
    (findings .schema item).map (Finding.under (toString index)) ++ itemFindings (index + 1) rest

/-- The findings about the members of an object whose members are schemas. -/
def memberFindings : List (String × Json) → List Finding
  | [] => []
  | (name, value) :: rest =>
    (findings .schema value).map (Finding.under name) ++ memberFindings rest

/-- The findings about the members of an object whose members are schemas or lists of texts. -/
def dependencyFindings : List (String × Json) → List Finding
  | [] => []
  | (name, value) :: rest =>
    (findings .dependency value).map (Finding.under name) ++ dependencyFindings rest

end

/-- Why a value is not accepted as a schema. -/
inductive CheckError where
  /-- The value at a path is not what a schema has there. -/
  | invalid (path : List String) (message : String)
  /-- A pattern cannot be used. -/
  | unusable (fault : PatternFault)
  deriving DecidableEq, Repr

/-- What is said about a value that is not accepted. -/
def CheckError.message : CheckError → String
  | .invalid path message =>
    let place := "/".intercalate path
    "Invalid draft-06 schema at " ++ (if place = "" then "<root>" else place) ++ ": " ++ message
  | .unusable fault => fault.message

/-- Accepts a draft-06 schema, or reports the first finding. -/
def check (value : Json) : Except CheckError Unit :=
  match findings .schema value with
  | [] => .ok ()
  | .violation path message :: _ => .error (.invalid path message)
  | .unusable fault :: _ => .error (.unusable fault)

end QuerySchema.Draft06
