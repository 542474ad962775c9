import OpenApiCodegen.Api.GlobalGroup
import OpenApiCodegen.WebClient.Requests

namespace OpenApiCodegen.WebClient

open Api (GlobalGroup Location Route DataType)

def decodeErrorCode : List Code :=
  [.line "/** Raised when a payload cannot be decoded into a generated model. */",
    .block "export class DecodeError extends Error"
      [.line "constructor(",
        .nested
          [.line "readonly kind: \"UnrecognizedVariant\",",
            .line "readonly model: string,",
            .line "readonly value: string,"],
        .block ")"
          [.line ("super(`$\x7bkind\x7d: $\x7bmodel\x7d has no variant for " ++
              "\"$\x7bvalue\x7d\"`);"),
            .line "this.name = \"DecodeError\";"],
        .blank,
        .block "static unrecognizedVariant(model: string, value: string): DecodeError"
          [.line "return new DecodeError(\"UnrecognizedVariant\", model, value);"]]]

def clientCode (axiosInstance : String) : String :=
  Code.render indent
    (Code.spaced
      [[.line "import axios from \"axios\";"],
        [.line "/** Shared axios instance used by every generated request function. */",
          .line s!"export const {axiosInstance} = axios.create();"],
        decodeErrorCode])

def getterType (group : GlobalGroup) : TypeExpr :=
  let value := if group.type.isArray then TypeExpr.array .text else .text
  let value := if group.required then value else .either [value, .named "undefined"]
  .named ("() => " ++ value.code)

def getterMember (group : GlobalGroup) : Member :=
  { name := group.getter
    type := getterType group
    optional := false
    doc := some s!"{group.location.name} `{group.name}`" }

def gettersInterface (groups : List GlobalGroup) : Interface :=
  { name := "GlobalParameterGetters"
    doc := some "Suppliers of the values sent with every matching request."
    deprecated := false
    parameters := []
    members := groups.map getterMember
    index := none }

def routeInterfaceCode : List Code :=
  [.block "interface Route" [.line "method: string;", .line "pattern: RegExp;"]]

def matchesCode : List Code :=
  [.block "function matches(routes: Route[], config: InternalAxiosRequestConfig): boolean"
    [.line "const method = (config.method ?? \"get\").toUpperCase();",
      .line "const path = new URL(config.url ?? \"\", \"http://localhost\").pathname;",
      .line ("return routes.some((route) => route.method === method && " ++
        "route.pattern.test(path));")]]

def routeCode (route : Route) : Code :=
  .line
    (inBraces
      ["method: \"" ++ route.method.verb ++ "\"", "pattern: new RegExp(" ++
        quoted route.pattern ++ ")"] ++ ",")

def routesCode (group : GlobalGroup) : List Code :=
  [.line s!"const {group.getter}Routes: Route[] = [", .nested (group.routes.map routeCode),
    .line "];"]

def injectionCode (group : GlobalGroup) : String :=
  match group.location with
  | .header =>
    "config.headers.set(" ++ quoted group.name ++
      ", Array.isArray(value) ? value.join(\",\") : value);"
  | _ => "config.params = " ++ inBraces ["...config.params", quoted group.name ++ ": value"] ++ ";"

def groupCode (group : GlobalGroup) : List Code :=
  [.block s!"if (matches({group.getter}Routes, config))"
    [.line s!"const value = getters.{group.getter}();",
      .block "if (value !== undefined)" [.line (injectionCode group)]]]

def interceptorCode (groups : List GlobalGroup) : List Code :=
  docComment
      (some "Inject global parameters into matching requests made through `instance`.") false ++
    [.line "export function installGlobalParameterInterceptor(",
      .nested [.line "instance: AxiosInstance,", .line "getters: GlobalParameterGetters,"],
      .block "): number"
        [.block "return instance.interceptors.request.use((config) =>"
          (groups.flatMap groupCode ++ [.line "return config;"]) ");"]]

def globalParametersCode (groups : List GlobalGroup) : String :=
  let imports :=
    importCode true ["AxiosInstance", "InternalAxiosRequestConfig"] "axios"
  Code.render indent
    (Code.spaced
      ([[imports], (gettersInterface groups).code, routeInterfaceCode, matchesCode] ++
        groups.map routesCode ++ [interceptorCode groups]))

end OpenApiCodegen.WebClient
