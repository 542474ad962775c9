namespace OpenApiCodegen.Toml

inductive Value where
  | text (s : String)
  | flag (b : Bool)
  | other
  | array (items : List Value)
  | table (members : List (String × Value))

end OpenApiCodegen.Toml
