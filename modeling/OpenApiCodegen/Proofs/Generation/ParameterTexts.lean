import OpenApiCodegen.MobileClient.Files
import OpenApiCodegen.Proofs.MobileClient.DeclarationTexts
import OpenApiCodegen.Proofs.WebClient.DeclarationTexts
import OpenApiCodegen.WebClient.Files

namespace OpenApiCodegen

open Api (GlobalGroup Location Route)

def methodText : OpenApi.Method → String
  | .get => "GET"
  | .post => "POST"
  | .put => "PUT"
  | .patch => "PATCH"
  | .delete => "DELETE"

theorem verb_eq (method : OpenApi.Method) : method.verb = methodText method := by
  cases method <;> decide

namespace WebClient

def signatureLines (operation : Api.Operation) (members : List (List String)) : List String :=
  ["export interface " ++ (Text.pascalCase operation.id ++ "Params") ++ " \x7b"] ++
    members.flatten.map ("  " ++ ·) ++ ["\x7d"]

theorem spells_parametersInterface (api : Api) (operation : Api.Operation)
    {lines : Member → List String} (each : ∀ member, Code.Spells indent member.code (lines member)) :
    Code.Spells indent (parametersInterface api operation).code
      (signatureLines operation ((operation.locals.map (parameterMember api)).map lines)) := by
  have members := Code.Spells.flatMap
    fun member (_ : member ∈ operation.locals.map (parameterMember api)) => each member
  have bare : (parametersInterface api operation).code =
      [.block ("export interface " ++ parametersName operation)
        ((operation.locals.map (parameterMember api)).flatMap Member.code)] := by
    have none : docComment none false = [] := rfl
    simp [Interface.code, parametersInterface, none, angled, toString]
  rw [bare, signatureLines, ← List.flatMap_def]
  exact members.block _ ""

inductive RouteSpelled : Route → String → Prop
  | intro {route : Route} {pattern : String} :
      Text.doubleQuotes.Quotes (Api.PathTemplate.pattern route.path) pattern →
        RouteSpelled route ("\x7b method: \"" ++ methodText route.method ++
          "\", pattern: new RegExp(" ++ pattern ++ ") \x7d,")

inductive RoutesSpelled : GlobalGroup → List String → Prop
  | intro {group : GlobalGroup} {routes : List String} :
      List.Forall₂ RouteSpelled group.routes routes →
        RoutesSpelled group (["const " ++ group.getter ++ "Routes: Route[] = ["] ++
          routes.map ("  " ++ ·) ++ ["];"])

inductive ValueSpelled : GlobalGroup → String → Prop
  | header {group : GlobalGroup} {name : String} : group.location = .header →
      Text.doubleQuotes.Quotes group.name name →
        ValueSpelled group ("config.headers.set(" ++ name ++
          ", Array.isArray(value) ? value.join(\",\") : value);")
  | query {group : GlobalGroup} {name : String} : group.location ≠ .header →
      Text.doubleQuotes.Quotes group.name name →
        ValueSpelled group ("config.params = \x7b ...config.params, " ++ name ++ ": value \x7d;")

/-- The value of a group is put into the requests on its routes if there is one. -/
inductive InjectionSpelled : GlobalGroup → List String → Prop
  | intro {group : GlobalGroup} {value : String} : ValueSpelled group value →
      InjectionSpelled group
        (["if (matches(" ++ group.getter ++ "Routes, config))" ++ " \x7b"] ++
          ["const value = getters." ++ group.getter ++ "();", "if (value !== undefined) \x7b",
            "  " ++ value, "\x7d"].map ("  " ++ ·) ++
          ["\x7d"])

theorem exists_route (route : Route) :
    ∃ line, RouteSpelled route line ∧ Code.Spells indent [routeCode route] [line] := by
  have written : routeCode route = .line ("\x7b method: \"" ++ methodText route.method ++
      "\", pattern: new RegExp(" ++ quoted route.pattern ++ ") \x7d,") := by
    have opened : "\x7b method: \"" = "\x7b " ++ "method: \"" := rfl
    have between : "\", pattern: new RegExp(" = "\"" ++ (", " ++ "pattern: new RegExp(") := rfl
    have closed : ") \x7d," = ")" ++ (" \x7d" ++ ",") := rfl
    rw [routeCode, inBraces, commaSeparated, String.intercalate_cons_of_ne_nil (by simp),
      String.intercalate_singleton, verb_eq, opened, between, closed]
    simp only [String.append_assoc]
  exact ⟨_, .intro (quotes_quoted route.pattern), written ▸ Code.spells_line indent _⟩

theorem exists_routes (group : GlobalGroup) :
    ∃ lines, RoutesSpelled group lines ∧ Code.Spells indent (routesCode group) lines := by
  choose line spelled spells using exists_route
  have routes : List.Forall₂ RouteSpelled group.routes (group.routes.map line) :=
    forall₂_mapped spelled
  have table := Code.Spells.flatMap fun route (_ : route ∈ group.routes) => spells route
  rw [← List.map_eq_flatMap, ← List.map_eq_flatMap] at table
  exact ⟨_, .intro routes, ((Code.spells_line indent ("const " ++ group.getter ++
    "Routes: Route[] = [")).append table.nested).append (Code.spells_line indent "];")⟩

theorem valueSpelled_injectionCode (group : GlobalGroup) : ValueSpelled group (injectionCode group) := by
  have name := quotes_quoted group.name
  unfold injectionCode
  split
  · rename_i header
    exact .header header name
  · rename_i other
    have opened : "config.params = \x7b ...config.params, " =
        "config.params = " ++ ("\x7b " ++ ("...config.params" ++ ", ")) := rfl
    have closed : ": value \x7d;" = ": value" ++ (" \x7d" ++ ";") := rfl
    have value := ValueSpelled.query (fun header => other header) name
    rw [inBraces, commaSeparated, String.intercalate_cons_of_ne_nil (by simp), String.intercalate_singleton]
    rw [opened, closed] at value
    simpa only [String.append_assoc] using value

theorem exists_injection (group : GlobalGroup) :
    ∃ lines, InjectionSpelled group lines ∧ Code.Spells indent (groupCode group) lines := by
  have value := (Code.spells_line indent (injectionCode group)).block "if (value !== undefined)" ""
  have body := (Code.spells_line indent ("const value = getters." ++ group.getter ++ "();")).cons value
  exact ⟨_, .intro (valueSpelled_injectionCode group),
    body.block ("if (matches(" ++ group.getter ++ "Routes, config))") ""⟩

end WebClient

namespace MobileClient

def markText (location : Location) (name : String) : String :=
  match location with
  | .path => "@Path(" ++ name ++ ")"
  | .query => "@Query(" ++ name ++ ")"
  | .header => "@Header(" ++ name ++ ")"
  | .body => "@Body()"
  | .form => "@Part(name: " ++ name ++ ")"
  | .cookie => "@Part(name: " ++ name ++ ")"

inductive ArgumentSpelled (api : Api) : Api.Parameter → String → Prop
  | intro {parameter : Api.Parameter} {name type : String} :
      Text.singleQuotes.Quotes parameter.wireName name →
        (methodParameter api parameter).type.Spelled type →
          ArgumentSpelled api parameter
            (markText parameter.location name ++ " " ++ type ++ " " ++ fieldName parameter.name)

theorem argumentSpelled_code (api : Api) (parameter : Api.Parameter) :
    ArgumentSpelled api parameter (methodParameter api parameter).code := by
  have spelled := ArgumentSpelled.intro (quotes_quoted parameter.wireName)
    (spelled_code (methodParameter api parameter).type)
  have mark : (locationMark parameter).code = markText parameter.location (quoted parameter.wireName) := by
    unfold locationMark markText
    cases parameter.location <;> rfl
  have written : (methodParameter api parameter).code = markText parameter.location
      (quoted parameter.wireName) ++ " " ++ (methodParameter api parameter).type.code ++ " " ++
        fieldName parameter.name := by
    rw [← mark]
    change String.intercalate " " [_, _, _] = _
    rw [String.intercalate_cons_of_ne_nil (by simp), String.intercalate_cons_of_ne_nil (by simp),
      String.intercalate_singleton, ← String.append_assoc, ← String.append_assoc]
    rfl
  exact written ▸ spelled

def signatureLine (returned : String) (operation : Api.Operation) (positional named : List String) :
    String :=
  returned ++ " " ++ fieldName operation.id ++ "(" ++ String.intercalate ", " (positional ++
    if named = [] then [] else ["\x7b" ++ String.intercalate ", " named ++ "\x7d"]) ++ ");"

theorem within_signatureLine (method : Method) (operation : Api.Operation)
    (name : method.name = fieldName operation.id) :
    Code.Within [.line (signatureLine method.returned.code operation (method.positional.map Parameter.code)
      (method.named.map Parameter.code))] method.code := by
  have line : signatureLine method.returned.code operation (method.positional.map Parameter.code)
      (method.named.map Parameter.code) = s!"{method.returned.code} {method.name}(" ++
        commaSeparated (method.positional.map Parameter.code ++ if method.named.isEmpty then [] else
          [inBraces (commaSeparated (method.named.map Parameter.code))]) ++ ");" := by
    rw [name]
    cases method.named <;> rfl
  rw [line]
  exact Code.Within.whole.behind _

inductive RouteSpelled : Route → String → Prop
  | intro {route : Route} {pattern : String} :
      Text.singleQuotes.Quotes (Api.PathTemplate.pattern route.path) pattern →
        RouteSpelled route ("GlobalParameterRoute('" ++ methodText route.method ++ "', " ++ pattern ++
          "),")

inductive RoutesSpelled : GlobalGroup → List String → Prop
  | intro {group : GlobalGroup} {routes : List String} :
      List.Forall₂ RouteSpelled group.routes routes →
        RoutesSpelled group (["static const " ++ ("_" ++ group.getter ++ "Routes") ++ " = ["] ++
          routes.map ("  " ++ ·) ++ ["];"])

/-- The value of a group is put into the requests on its routes if there is one. -/
inductive InjectionSpelled : GlobalGroup → List String → Prop
  | intro {group : GlobalGroup} {carrier name : String} :
      carrier = (if group.location = .header then "headers" else "queryParameters") →
        Text.singleQuotes.Quotes group.name name →
          InjectionSpelled group
            (["if (" ++ ("_" ++ group.getter ++ "Routes") ++ ".any((route) => route.matches(options)))" ++
                " \x7b"] ++
              ["final value = " ++ group.getter ++ "();", "if (value != null) \x7b",
                "  " ++ ("options." ++ carrier ++ "[" ++ name ++ "] = value;"), "\x7d"].map ("  " ++ ·) ++
              ["\x7d"])

theorem exists_route (route : Route) :
    ∃ line, RouteSpelled route line ∧ Code.Spells indent [routeLine route] [line] := by
  refine ⟨_, .intro (quotes_quoted route.pattern), ?_⟩
  rw [← verb_eq]
  exact Code.spells_line indent _

theorem exists_routes (group : GlobalGroup) :
    ∃ lines, RoutesSpelled group lines ∧ Code.Spells indent (routesCode group) lines := by
  choose line spelled spells using exists_route
  have routes : List.Forall₂ RouteSpelled group.routes (group.routes.map line) :=
    forall₂_mapped spelled
  have table := Code.Spells.flatMap fun route (_ : route ∈ group.routes) => spells route
  rw [← List.map_eq_flatMap, ← List.map_eq_flatMap] at table
  exact ⟨_, .intro routes, ((Code.spells_line indent ("static const " ++ routesName group ++
    " = [")).append table.nested).append (Code.spells_line indent "];")⟩

theorem exists_injection (group : GlobalGroup) :
    ∃ lines, InjectionSpelled group lines ∧ Code.Spells indent (injectionCode group) lines := by
  have carrier : targetOf group = if group.location = .header then "headers" else "queryParameters" := by
    unfold targetOf
    cases group.location <;> rfl
  have value := (Code.spells_line indent ("options." ++ targetOf group ++ "[" ++ quoted group.name ++
    "] = value;")).block "if (value != null)" ""
  have body := (Code.spells_line indent ("final value = " ++ group.getter ++ "();")).cons value
  exact ⟨_, .intro carrier (quotes_quoted group.name),
    body.block ("if (" ++ routesName group ++ ".any((route) => route.matches(options)))") ""⟩

end MobileClient

end OpenApiCodegen
