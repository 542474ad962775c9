import OpenApiCodegen.Api.DataType
import OpenApiCodegen.Number.Power
import OpenApiCodegen.OpenApi.Document

namespace OpenApiCodegen.Api

open OpenApi (Method)

inductive Location where
  | path
  | query
  | header
  | body
  | form
  | cookie
  deriving DecidableEq

def Location.name : Location → String
  | path => "path"
  | query => "query"
  | header => "header"
  | body => "body"
  | form => "form"
  | cookie => "cookie"

structure Parameter where
  name : String
  wireName : String
  location : Location
  required : Bool
  nullable : Bool
  type : DataType
  marked : Bool
  description : Option String

inductive StatusClass where
  | success
  | clientError
  | serverError
  | other
  deriving DecidableEq

def StatusClass.of (status : String) : StatusClass :=
  match status.toList.head? with
  | some '2' => success
  | some '4' => clientError
  | some '5' => serverError
  | _ => other

def StatusClass.baseCode? : StatusClass → Option Nat
  | success => some 200
  | clientError => some 400
  | serverError => some 500
  | other => none

structure Response where
  status : String
  description : Option String
  body : Option DataType

def codeText? (status : String) : Option Nat :=
  let digits := match status.toList with
    | '+' :: rest => rest
    | cs => cs
  if digits.isEmpty || !digits.all Char.isDigit then none
  else
    let code := digits.foldl (fun n c => 10 * n + (c.toNat - '0'.toNat)) 0
    if code < powerOfTwo 16 then some code else none

namespace Response

def statusClass (response : Response) : StatusClass :=
  .of response.status

def code? (response : Response) : Option Nat :=
  (codeText? response.status).or response.statusClass.baseCode?

def isWildcard (response : Response) : Bool :=
  match response.status.toList with
  | [digit, x, y] => digit.toNat < 0x80 && x.toUpper == 'X' && y.toUpper == 'X'
  | _ => false

end Response

structure Operation where
  id : String
  method : Method
  path : String
  summary : Option String
  description : Option String
  deprecated : Bool
  parameters : List Parameter
  responses : List Response

end OpenApiCodegen.Api
