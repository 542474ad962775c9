import OpenApiCodegen.Text.Basic
import OpenApiCodegen.Text.LetterCase

namespace OpenApiCodegen.Text

def opensWord (previous : Char) (rest : List Char) : Bool :=
  isLowercase previous || previous.isDigit ||
    (isUppercase previous && rest.head?.any isLowercase)

def wordsFrom (current : List Char) : List Char → List (List Char)
  | [] => if current.isEmpty then [] else [current.reverse]
  | c :: rest =>
    if isAlphanumeric c then
      match current with
      | [] => wordsFrom [c] rest
      | previous :: _ =>
        if isUppercase c && opensWord previous rest then current.reverse :: wordsFrom [c] rest
        else wordsFrom (c :: current) rest
    else if current.isEmpty then wordsFrom [] rest
    else current.reverse :: wordsFrom [] rest

def words (cs : List Char) : List (List Char) :=
  wordsFrom [] cs

def capitalizeChars : List Char → List Char
  | [] => []
  | c :: rest => upperOf c ++ rest

def capitalizeWord : List Char → List Char
  | [] => []
  | c :: rest => upperOf c ++ rest.flatMap lowerOf

def pascalChars (cs : List Char) : List Char :=
  (words cs).flatMap capitalizeWord

def camelChars (cs : List Char) : List Char :=
  match words cs with
  | [] => []
  | first :: others => lowerAll first ++ others.flatMap capitalizeWord

def separatedChars (separator : Char) (cs : List Char) : List Char :=
  joinWith [separator] ((words cs).map lowerAll)

def splitWords (name : String) : List String :=
  (words name.toList).map String.ofList

def capitalize (name : String) : String :=
  String.ofList (capitalizeChars name.toList)

def uncapitalizeChars : List Char → List Char
  | [] => []
  | c :: rest => lowerOf c ++ rest

def uncapitalize (name : String) : String :=
  String.ofList (uncapitalizeChars name.toList)

def pascalCase (name : String) : String :=
  String.ofList (pascalChars name.toList)

def camelCase (name : String) : String :=
  String.ofList (camelChars name.toList)

def snakeCase (name : String) : String :=
  String.ofList (separatedChars '_' name.toList)

def kebabCase (name : String) : String :=
  String.ofList (separatedChars '-' name.toList)

end OpenApiCodegen.Text
