import OpenApiCodegen.Api.Binding
import OpenApiCodegen.Text.Identifier
import OpenApiCodegen.Text.Words

namespace OpenApiCodegen.Api

open OpenApi (Method)

structure Route where
  method : Method
  path : String
  deriving DecidableEq

def Route.pattern (route : Route) : String :=
  PathTemplate.pattern route.path

structure GlobalGroup where
  location : Location
  name : String
  ident : String
  getter : String
  type : DataType
  required : Bool
  routes : List Route

def GlobalGroup.appliesTo (group : GlobalGroup) (method : Method) (path : String) : Bool :=
  group.routes.contains ⟨method, path⟩

def globalUses (api : Api) : List (Operation × Parameter) :=
  api.operations.flatMap fun operation =>
    operation.globals.map fun parameter => (operation, parameter)

def Parameter.key (parameter : Parameter) : Location × String :=
  (parameter.location, parameter.wireName)

def Operation.route (operation : Operation) : Route :=
  ⟨operation.method, operation.path⟩

def GlobalGroup.key (group : GlobalGroup) : Location × String :=
  (group.location, group.name)

def groupOf (parameter : Parameter) : GlobalGroup :=
  { location := parameter.location
    name := parameter.wireName
    ident := Text.orValue (Text.camelCase parameter.wireName)
    getter := ""
    type := parameter.type
    required := parameter.required
    routes := [] }

def GlobalGroup.demand (group : GlobalGroup) (required : Bool) : GlobalGroup :=
  { group with required := group.required || required }

def GlobalGroup.addRoute (group : GlobalGroup) (route : Route) : GlobalGroup :=
  if group.appliesTo route.method route.path then group
  else { group with routes := group.routes ++ [route] }

def changeGroup (key : Location × String) (change : GlobalGroup → GlobalGroup)
    (groups : List GlobalGroup) : List GlobalGroup :=
  groups.map fun group => if group.key = key then change group else group

def joinGroup (groups : List GlobalGroup) (parameter : Parameter) : List GlobalGroup :=
  if groups.any (·.key = parameter.key) then
    changeGroup parameter.key (·.demand parameter.required) groups
  else groups ++ [groupOf parameter]

def attachRoute (groups : List GlobalGroup) (use : Operation × Parameter) : List GlobalGroup :=
  changeGroup use.2.key (·.addRoute use.1.route) groups

def draftGroups (api : Api) : List GlobalGroup :=
  (globalUses api).foldl attachRoute (((globalUses api).map (·.2)).foldl joinGroup [])

def getterBase (groups : List GlobalGroup) (group : GlobalGroup) : String :=
  if groups.any fun other => other.ident = group.ident && other.location ≠ group.location then
    group.ident ++ Text.capitalize group.location.name
  else group.ident

def globalGroups (api : Api) : List GlobalGroup :=
  let groups := draftGroups api
  let bases := Text.numberRepeats (groups.map (getterBase groups))
  (groups.zip bases).map fun (group, base) => { group with getter := base ++ "Getter" }

def reachesGlobals (api : Api) (operations : List Operation) : Bool :=
  (globalGroups api).any fun group =>
    operations.any fun operation => group.appliesTo operation.method operation.path

end OpenApiCodegen.Api
