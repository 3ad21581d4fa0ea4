import GroupAccess.Config.Settings
import GroupAccess.Config.Variables
import GroupAccess.Config.Yaml
import GroupAccess.Json.Decode
import GroupAccess.Net.Address

namespace GroupAccess

inductive Format
  | json
  | toml
  | yaml
  deriving DecidableEq, Repr

namespace Item

mutual

/-- The item of a draft; a number beyond the whole ones is a floating-point number. -/
def ofDraft : Json.Draft → Item
  | .cut => .null
  | .null => .null
  | .bool b => .bool b
  | .number n => ((n.int?).bind Toml.within64).getD (.float n.toFloat)
  | .string s => .text (s.getD "")
  | .array items => .list (ofDrafts items)
  | .object fields => .table (ofFields [] fields)

def ofDrafts : List Json.Draft → List Item
  | [] => []
  | d :: rest => ofDraft d :: ofDrafts rest

/-- The last value of a name counts. -/
def ofFields (done : List (String × Item)) :
    List (Option String × Json.Draft) → List (String × Item)
  | [] => done
  | (name, d) :: rest => ofFields (setField done (name.getD "") (ofDraft d)) rest

end

end Item

namespace Format

def all : List Format := [json, toml, yaml]

def fileName : Format → String
  | json => "configuration.json"
  | toml => "configuration.toml"
  | yaml => "configuration.yaml"

/-- A text may not be nested deeper. -/
def maxDepth : Nat := 127

def decodeItem : Json.Decoder Item := fun d =>
  if d.readable maxDepth then .ok (.ofDraft d) else .error .malformed

/-- The fields of the root table of a file. -/
def read? (f : Format) (text : String) : Option (List (String × Item)) :=
  let text := String.ofList (Variables.withoutMark text.toList)
  match f with
  | json =>
    match Json.decodeAll decodeItem (utf8 text) with
    | .ok (.table fields) => some fields
    | _ => none
  | toml => Toml.read? text
  | yaml => Yaml.read? text

end Format

namespace Layers

/-- The steps of a name: words with points between them, or the name itself. -/
def steps (name : String) : List String :=
  let parts := Text.split '.' name.toList
  if parts.all fun part => !part.isEmpty && part.all Toml.isKeyChar then parts.map String.ofList
  else [name]

/-- Puts an item at the end of a path; what stands on the way becomes a table. -/
def put (item : Item) : List String → List (String × Item) → List (String × Item)
  | [], fields => fields
  | [name], fields => Item.setField fields name item
  | name :: path, fields =>
    let inner := match fields.lookup name with
      | some (.table inner) => inner
      | _ => []
    Item.setField fields name (.table (put item path inner))

/-- Puts the fields of a layer above others. Names are told apart without their case. -/
def putAll (layer fields : List (String × Item)) : List (String × Item) :=
  layer.foldl (fun fields (name, item) => put item (steps (Text.lowercase name)) fields) fields

/-- Double underscores stand for points. -/
def dotted : List Char → List Char
  | '_' :: '_' :: rest => '.' :: dotted rest
  | c :: rest => c :: dotted rest
  | [] => []

/-- Variables with this beginning, in either case, are a layer. -/
def beginning : String := "app__"

def ofVariables (vs : Variables) : List (String × Item) :=
  vs.filterMap fun (name, value) =>
    (Text.after? beginning.toList (Text.lowercase name).toList).map fun name =>
      (String.ofList (dotted name), .text value)

end Layers

namespace Listener

/-- Fields that are missing keep their default; unknown ones are ignored. -/
def ofFields? (fields : List (String × Item)) : Option Listener := do
  let standard : Listener := {}
  let host ← match fields.lookup "host" with
    | some item => item.text?
    | none => some standard.host
  let port ← match fields.lookup "port" with
    | some item => item.number?.filter (· < Net.portCount)
    | none => some standard.port
  let tracesTo ← match fields.lookup "otlp_endpoint" with
    | some .null => some none
    | some item => item.text?.map some
    | none => some standard.tracesTo
  return { host, port, tracesTo }

/-- None if the file is malformed or a value does not fit. -/
def load? (file : Option (Format × String)) (vs : Variables) : Option Listener := do
  let fields ← match file with
    | some (format, text) => format.read? text
    | none => some []
  ofFields? (Layers.putAll (Layers.ofVariables vs) (Layers.putAll fields []))

end Listener

end GroupAccess
