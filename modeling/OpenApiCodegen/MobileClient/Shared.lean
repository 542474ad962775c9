import OpenApiCodegen.Api.GlobalGroup
import OpenApiCodegen.MobileClient.Models

namespace OpenApiCodegen.MobileClient

open Api (GlobalGroup Route)

def render (pieces : List (List Code)) : String :=
  Code.render indent (Code.spaced pieces)

def importLine (source : String) : Code :=
  .line s!"import '{source}';"

def decodeErrorCode : String :=
  render
    [[.line "/// Raised when a payload cannot be decoded into a generated model.",
      .block "class DecodeError implements Exception"
        (Code.spaced
          [[.line "const DecodeError._(this.kind, this.model, this.value);"],
            [.line "factory DecodeError.unrecognizedVariant(\x7b",
              .nested [.line "required String model,", .line "required String value,"],
              .line "\x7d) =>",
              .nested
                [.nested [.line "DecodeError._('UnrecognizedVariant', model, value);"]]],
            [.line "final String kind;", .line "final String model;", .line "final String value;"],
            [.line "@override",
              .line ("String toString() => " ++
                "'DecodeError($kind): $model has no variant for \"$value\"';")]])]]

def getterType (group : GlobalGroup) : String :=
  (if group.type.isArray then "List<String>?" else "String?") ++ " Function()"

def routeClass : List Code :=
  [.line "/// A method plus an anchored pattern over the request path.",
    .block "class GlobalParameterRoute"
      (Code.spaced
        [[.line "const GlobalParameterRoute(this.method, this.pattern);"],
          [.line "final String method;", .line "final String pattern;"],
          [.line "bool matches(RequestOptions options) =>",
            .nested
              [.nested
                [.line "options.method.toUpperCase() == method &&",
                  .line "RegExp(pattern).hasMatch(Uri.parse(options.path).path);"]]]])]

def routesName (group : GlobalGroup) : String :=
  s!"_{group.getter}Routes"

def routeLine (route : Route) : Code :=
  .line s!"GlobalParameterRoute('{route.method.verb}', {quoted route.pattern}),"

def routesCode (group : GlobalGroup) : List Code :=
  [.line s!"static const {routesName group} = [", .nested (group.routes.map routeLine),
    .line "];"]

def targetOf (group : GlobalGroup) : String :=
  match group.location with
  | .header => "headers"
  | _ => "queryParameters"

def injectionCode (group : GlobalGroup) : List Code :=
  [.block s!"if ({routesName group}.any((route) => route.matches(options)))"
    [.line s!"final value = {group.getter}();",
      .block "if (value != null)"
        [.line s!"options.{targetOf group}[{quoted group.name}] = value;"]]]

def interceptorClass (groups : List GlobalGroup) : List Code :=
  let constructor :=
    [Code.line "GlobalParameterInterceptor(\x7b",
      .nested (groups.map fun group => .line s!"required this.{group.getter},"),
      .line "\x7d);"]
  let fields := groups.map fun group => Code.line s!"final {getterType group} {group.getter};"
  let handler :=
    [Code.line "@override",
      .block "void onRequest(RequestOptions options, RequestInterceptorHandler handler)"
        (groups.flatMap injectionCode ++ [.line "handler.next(options);"])]
  [.line "/// Adds every global parameter to the requests whose route declares it.",
    .block "class GlobalParameterInterceptor extends Interceptor"
      (Code.spaced (constructor :: fields :: groups.map routesCode ++ [handler]))]

def clientFunction (groups : List GlobalGroup) (client : String) : List Code :=
  let arguments := groups.map fun group => s!"{group.getter}: {group.getter}"
  [.line s!"/// A [{client}] whose requests carry the global parameters.",
    .line s!"{client} restClientWithGlobalParameter(",
    .nested
      ([.line "Dio dio, \x7b", .line "String? baseUrl,"] ++
        groups.map fun group => .line s!"required {getterType group} {group.getter},"),
    .line "\x7d) \x7b",
    .nested
      [.line (s!"dio.interceptors.add(GlobalParameterInterceptor(" ++
          commaSeparated arguments ++ "));"),
        .line s!"return {client}(dio, baseUrl: baseUrl);"],
    .line "\x7d"]

def globalParametersCode (groups : List GlobalGroup) (client clientFile : String) : String :=
  render
    [[importLine dioPackage], [importLine clientFile], routeClass, interceptorClass groups,
      clientFunction groups client]

end OpenApiCodegen.MobileClient
