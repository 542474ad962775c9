import OpenApiCodegen.Json.Reader
import OpenApiCodegen.Markup.Decode
import OpenApiCodegen.OpenApi.Document
import OpenApiCodegen.OpenApi.TextFormat
import OpenApiCodegen.Yaml.NodeGraph

namespace OpenApiCodegen.OpenApi

open Markup

def readTypeNames (depth : Nat) (node : Node) : Decode TypeNames := do
  let settled ← settle depth node
  match settled with
  | .text name => pure (.single name)
  | _ => .several <$> readList readText depth settled

def readLiteral (depth : Nat) (node : Node) : Decode EnumLiteral := do
  match ← settle depth node with
  | .text s => pure (.text s)
  | .number (.whole n) =>
    if (-powerOfTwo 63 : Int) ≤ n ∧ n < powerOfTwo 63 then pure (.whole n)
    else pure (.real (Binary64.ofInt n))
  | .number (.real x) => pure (.real x)
  | .bool b => pure (.flag b)
  | .null => pure .null
  | _ => failure

def discriminatorFields : List String :=
  ["propertyName", "mapping"]

def readDiscriminator (depth : Nat) (node : Node) : Decode Discriminator := do
  let fields ← readFields discriminatorFields depth node
  pure
    { property := ← fields.required 0 readText
      mapping := ← fields.optional 1 (readTable readText (depth - 1)) }

def schemaFields : List String :=
  ["type", "$ref", "title", "description", "properties", "required", "items", "enum", "anyOf",
    "oneOf", "allOf", "additionalProperties", "discriminator", "format", "default", "nullable",
    "deprecated", "x-generic-type"]

def readAdditional (readValue : Node → Decode Schema) (depth : Nat) (node : Node) :
    Decode (Additional Schema) := do
  match ← settle depth node with
  | .bool b => pure (.allowed b)
  | settled => .schema <$> readValue settled

/-- The fields of a schema, whose parts may enter `depth` levels. `readItem` reads a schema right
below, `readMember` one in a collection below. -/
def readSchemaParts (depth : Nat) (readItem readMember : Node → Decode Schema) (fields : Fields) :
    Decode Schema := do
  let readMembers := readList readMember depth
  pure
    { typeNames := ← fields.optional 0 (readTypeNames depth)
      ref := ← fields.optional 1 readText
      title := ← fields.optional 2 readText
      description := ← fields.optional 3 readText
      properties := ← fields.optional 4 (readTable readMember depth)
      required := ← fields.optional 5 (readList readText depth)
      items := ← fields.optional 6 readItem
      enumeration := ← fields.optional 7 (readList (readLiteral (depth - 1)) depth)
      anyOf := ← fields.optional 8 readMembers
      oneOf := ← fields.optional 9 readMembers
      allOf := ← fields.optional 10 readMembers
      additional := ← fields.optional 11 (readAdditional readItem depth)
      discriminator := ← fields.optional 12 (readDiscriminator depth)
      format := ← fields.optional 13 readText
      defaultValue := ← fields.optional 14 (readJson depth)
      nullable := ← fields.optional 15 readFlag
      deprecated := ← fields.optional 16 readFlag
      placeholder := ← fields.optional 17 readText }

def readSchema : Nat → Node → Decode Schema
  | 0, node => do
    readSchemaParts 0 (fun _ => failure) (fun _ => failure) (← readFields schemaFields 0 node)
  | 1, node => do
    readSchemaParts 0 (readSchema 0) (fun _ => failure) (← readFields schemaFields 1 node)
  | depth + 2, node => do
    let fields ← readFields schemaFields (depth + 2) node
    readSchemaParts (depth + 1) (readSchema (depth + 1)) (readSchema depth) fields

def infoFields : List String :=
  ["title", "version", "description"]

def readInfo (depth : Nat) (node : Node) : Decode Info := do
  let fields ← readFields infoFields depth node
  pure
    { title := ← fields.optional 0 readText
      version := ← fields.optional 1 readText
      description := ← fields.optional 2 readText }

def tagFields : List String :=
  ["name", "description"]

def readTag (depth : Nat) (node : Node) : Decode Tag := do
  let fields ← readFields tagFields depth node
  pure
    { name := ← fields.required 0 readText
      description := ← fields.optional 1 readText }

def parameterFields : List String :=
  ["name", "in", "required", "description", "schema", "x-global-parameter"]

def readParameter (depth : Nat) (node : Node) : Decode Parameter := do
  let fields ← readFields parameterFields depth node
  pure
    { name := ← fields.required 0 readText
      location := ← fields.required 1 readText
      required := ← fields.withDefault 2 false readFlag
      description := ← fields.optional 3 readText
      schema := ← fields.optional 4 (readSchema (depth - 1))
      marker := ← fields.optional 5 (readJson (depth - 1)) }

def readMediaType (depth : Nat) (node : Node) : Decode (Option Schema) := do
  let fields ← readFields ["schema"] depth node
  fields.optional 0 (readSchema (depth - 1))

def readContent (depth : Nat) (node : Node) : Decode Content :=
  readTable (readMediaType (depth - 1)) depth node

def requestBodyFields : List String :=
  ["required", "description", "content"]

def readRequestBody (depth : Nat) (node : Node) : Decode RequestBody := do
  let fields ← readFields requestBodyFields depth node
  pure
    { required := ← fields.withDefault 0 false readFlag
      description := ← fields.optional 1 readText
      content := ← fields.withDefault 2 [] (readContent (depth - 1)) }

def responseFields : List String :=
  ["description", "content"]

def readResponse (depth : Nat) (node : Node) : Decode Response := do
  let fields ← readFields responseFields depth node
  pure
    { description := ← fields.optional 0 readText
      content := ← fields.withDefault 1 [] (readContent (depth - 1)) }

def operationFields : List String :=
  ["operationId", "summary", "description", "deprecated", "tags", "parameters", "requestBody",
    "responses"]

def readParameters (depth : Nat) (node : Node) : Decode (List Parameter) :=
  readList (readParameter (depth - 1)) depth node

def readOperation (depth : Nat) (node : Node) : Decode Operation := do
  let fields ← readFields operationFields depth node
  let below := depth - 1
  pure
    { operationId := ← fields.optional 0 readText
      summary := ← fields.optional 1 readText
      description := ← fields.optional 2 readText
      deprecated := ← fields.withDefault 3 false readFlag
      tags := ← fields.withDefault 4 [] (readList readText below)
      parameters := ← fields.optional 5 (readParameters below)
      requestBody := ← fields.optional 6 (readRequestBody below)
      responses := ← fields.withDefault 7 [] (readTable (readResponse (below - 1)) below) }

def pathItemFields : List String :=
  ["get", "post", "put", "patch", "delete", "parameters"]

def readPathItem (depth : Nat) (node : Node) : Decode PathItem := do
  let fields ← readFields pathItemFields depth node
  let readOperation := readOperation (depth - 1)
  pure
    { get := ← fields.optional 0 readOperation
      post := ← fields.optional 1 readOperation
      put := ← fields.optional 2 readOperation
      patch := ← fields.optional 3 readOperation
      delete := ← fields.optional 4 readOperation
      parameters := ← fields.optional 5 (readParameters (depth - 1)) }

def readComponents (depth : Nat) (node : Node) : Decode (List (String × Schema)) := do
  let fields ← readFields ["schemas"] depth node
  fields.withDefault 0 [] (readTable (readSchema (depth - 2)) (depth - 1))

def documentFields : List String :=
  ["openapi", "info", "paths", "components", "tags"]

def readDocument (depth : Nat) (node : Node) : Decode Document := do
  let fields ← readFields documentFields depth node
  let below := depth - 1
  pure
    { openapi := ← fields.optional 0 readText
      info := ← fields.optional 1 (readInfo below)
      paths := ← fields.withDefault 2 [] (readTable (readPathItem (below - 1)) below)
      schemas := ← fields.optional 3 (readComponents below)
      tags := ← fields.withDefault 4 [] (readList (readTag (below - 1)) below)
      source := none }

def TextFormat.read? : TextFormat → String → Option Markup.Document
  | .json => Json.read?
  | .yaml => Yaml.read?

def Document.read? (format : TextFormat) (text : String) : Option Document := do
  let markup ← format.read? text
  let doc ← (readDocument markup.depth markup.root).run markup
  some { doc with source := (readJson markup.depth markup.root).run markup }

def Schema.read? (text : String) : Option Schema := do
  let markup ← Json.read? text
  (readSchema markup.depth markup.root).run markup

end OpenApiCodegen.OpenApi
