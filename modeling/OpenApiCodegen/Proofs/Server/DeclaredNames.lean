import Mathlib.Data.List.Basic
import OpenApiCodegen.Proofs.Output.CodeText
import OpenApiCodegen.Proofs.Text.Capitals
import OpenApiCodegen.Server.Files

namespace OpenApiCodegen.Server

open Api (Operation)

def declarators : List (List Char) :=
  [['t', 'y', 'p', 'e', ' '], ['f', 'u', 'n', 'c', ' '], ['v', 'a', 'r', ' '],
    ['c', 'o', 'n', 's', 't', ' ']]

def groups : List (List Char) :=
  [['t', 'y', 'p', 'e', ' ', '('], ['v', 'a', 'r', ' ', '('], ['c', 'o', 'n', 's', 't', ' ', '(']]

def endsName (c : Char) : Bool :=
  c = ' ' || c = '(' || c = '['

def nameAt (text : List Char) : String :=
  String.ofList (text.takeWhile fun c => !endsName c)

/-- The name that a line declares. A method and a group begin with a parenthesis instead of a name. -/
def declared? (line : List Char) : Option String :=
  match declarators.findSome? fun word => word.isPrefixOf? line with
  | some ('(' :: _) => none
  | some rest => some (nameAt rest)
  | none => none

def opensGroup (line : List Char) : Bool :=
  groups.contains line

def lineName? : Code → Option String
  | .line text => some (nameAt text.toList)
  | _ => none

def declaredFrom (grouped : Bool) : List Code → List String
  | [] => []
  | .line text :: rest => (declared? text.toList).toList ++ declaredFrom (opensGroup text.toList) rest
  | .blank :: rest => declaredFrom false rest
  | .nested body :: rest =>
    (if grouped then body.filterMap lineName? else []) ++ declaredFrom false rest
  | .block head _ _ :: rest => (declared? head.toList).toList ++ declaredFrom false rest

def declares (code : List Code) : List String :=
  declaredFrom false code

section Lines

variable {c : Char} {line name tail : List Char}

theorem declared?_eq_none (other : c ∉ ['t', 'f', 'v', 'c']) : declared? (c :: tail) = none := by
  simp only [List.mem_cons, List.not_mem_nil, or_false, not_or] at other
  have none : (declarators.findSome? fun word => word.isPrefixOf? (c :: tail)) = none := by
    simp [declarators, List.isPrefixOf?, Ne.symm other.1, Ne.symm other.2.1, Ne.symm other.2.2.1,
      Ne.symm other.2.2.2]
  rw [declared?, none]

theorem opensGroup_eq_false (other : c ∉ ['t', 'v', 'c']) : opensGroup (c :: tail) = false := by
  have heads : ∀ group ∈ groups, ∀ c ∈ group.head?, c ∈ ['t', 'v', 'c'] := by simp [groups]
  rw [opensGroup, List.contains_eq_mem, decide_eq_false_iff_not]
  exact fun mem => other (heads _ mem c rfl)

theorem opensGroup_of_declared {name : String} (declared : declared? line = some name) :
    opensGroup line = false := by
  have nameless : ∀ group ∈ groups, declared? group = none := by decide
  rw [opensGroup, List.contains_eq_mem, decide_eq_false_iff_not]
  intro mem
  rw [nameless line mem] at declared
  cases declared

theorem nameAt_append (plain : ∀ c ∈ name, endsName c = false)
    (ends : tail.head?.all endsName = true) : nameAt (name ++ tail) = String.ofList name := by
  rw [nameAt, List.takeWhile_append_of_pos fun c mem => by simp [plain c mem]]
  cases tail with
  | nil => simp
  | cons c tail =>
    have stops : endsName c = true := ends
    simp [stops]

theorem declared?_eq_some {word : List Char} (declarator : word ∈ declarators)
    (plain : ∀ c ∈ name, endsName c = false) (ends : tail.head?.all endsName = true)
    (named : name ≠ [] ∨ tail.head? ≠ some '(') :
    declared? (word ++ (name ++ tail)) = some (String.ofList name) := by
  have found : (declarators.findSome? fun other => other.isPrefixOf? (word ++ (name ++ tail))) =
      some (name ++ tail) := by
    simp only [declarators, List.mem_cons, List.not_mem_nil, or_false] at declarator
    rcases declarator with rfl | rfl | rfl | rfl <;> simp [declarators, List.isPrefixOf?]
  have noGroup : (name ++ tail).head? ≠ some '(' := by
    cases name with
    | nil => exact named.resolve_left (by simp)
    | cons c name =>
      rintro ⟨⟩
      exact absurd (plain '(' List.mem_cons_self) (by decide)
  rw [declared?, found, ← nameAt_append plain ends]
  cases read : name ++ tail with
  | nil => rfl
  | cons c others =>
    rw [read] at noGroup
    split
    · rename_i same
      cases same
      exact absurd rfl noGroup
    · rename_i same
      cases same
      rfl
    · rename_i same
      cases same

end Lines

section Comments

variable {code rest : List Code}

theorem declaredFrom_append_blank (grouped : Bool) :
    declaredFrom grouped (code ++ .blank :: rest) = declaredFrom grouped code ++ declares rest := by
  induction code generalizing grouped with
  | nil => rfl
  | cons first code ih => cases first <;> simp [declaredFrom, ih]

theorem declares_spaced (pieces : List (List Code)) :
    declares (Code.spaced pieces) = pieces.flatMap declares := by
  induction pieces with
  | nil => rfl
  | cons first pieces ih =>
    by_cases alone : pieces = []
    · subst alone
      simp [Code.spaced]
    · rw [Code.spaced_cons first alone, List.flatMap_cons, ← ih]
      exact declaredFrom_append_blank false

def IsComment (code : Code) : Prop :=
  ∃ text tail, code = .line text ∧ text.toList = '/' :: tail

theorem declares_comment {comment : List Code} (marked : ∀ line ∈ comment, IsComment line) :
    declares (comment ++ code) = declares code := by
  induction comment with
  | nil => rfl
  | cons first comment ih =>
    obtain ⟨text, tail, rfl, written⟩ := marked first List.mem_cons_self
    have rest := ih fun line mem => marked line (List.mem_cons_of_mem _ mem)
    rw [List.cons_append, declares, declaredFrom, written, declared?_eq_none (by decide),
      opensGroup_eq_false (by decide)]
    exact rest

theorem isComment_marked (text : String) : IsComment (.line ("// " ++ text)) :=
  ⟨_, ['/', ' '] ++ text.toList, rfl, by rw [String.toList_append, String.toList_ofList]; rfl⟩

theorem isComment_of_mem_lineComment {doc : Option String} : ∀ line ∈ lineComment doc, IsComment line := by
  intro line mem
  obtain ⟨text, -, rfl⟩ := List.mem_map.1 mem
  split
  · exact ⟨_, ['/'], rfl, String.toList_ofList⟩
  · rw [show ("//" ++ " " ++ text : String) = "// " ++ text from rfl]
    exact isComment_marked text

theorem declares_lineComment (doc : Option String) : declares (lineComment doc ++ code) = declares code :=
  declares_comment isComment_of_mem_lineComment

theorem declares_docComment (doc : Option String) (deprecated : Bool) (name : String) :
    declares (docComment doc deprecated name ++ code) = declares code := by
  apply declares_comment
  intro line mem
  unfold docComment at mem
  dsimp only at mem
  split at mem
  · rcases List.mem_append.1 mem with mem | mem
    · rcases List.mem_append.1 mem with mem | mem
      · exact isComment_of_mem_lineComment line mem
      · split at mem
        · cases mem
        · obtain rfl := List.mem_singleton.1 mem
          exact ⟨_, ['/'], rfl, String.toList_ofList⟩
    · obtain rfl := List.mem_singleton.1 mem
      exact isComment_marked ("Deprecated: " ++ name ++ " is deprecated.")
  · exact isComment_of_mem_lineComment line mem

end Comments

def Plain (name : String) : Prop :=
  ∀ c ∈ name.toList, endsName c = false

theorem Plain.append {name suffix : String} (plain : Plain name) (rest : Plain suffix) :
    Plain (name ++ suffix) := by
  intro c mem
  rw [String.toList_append, List.mem_append] at mem
  exact mem.elim (plain c) (rest c)

theorem plain_of_capitalized {name : String} (capitalized : Text.Capitalized name.toList) :
    Plain name := by
  intro c mem
  by_contra ends
  have char := capitalized.chars c mem
  simp only [endsName, Bool.not_eq_false, Bool.or_eq_true, decide_eq_true_eq] at ends
  rcases ends with (rfl | rfl) | rfl <;>
    rcases char with char | char | char | char <;> exact absurd char (by decide)

theorem plain_affixes : ∀ affix ∈ ["Values", "Params", "Ctrl", "read"], Plain affix := by
  simp only [List.forall_mem_cons, Plain]
  repeat rw [String.toList_ofList]
  simp [endsName]

section Pieces

variable {name : String}

theorem declared?_written {text : String} {word tail : List Char} (declarator : word ∈ declarators)
    (plain : Plain name) (ends : tail.head?.all endsName = true)
    (named : name.toList ≠ [] ∨ tail.head? ≠ some '(')
    (written : text.toList = word ++ (name.toList ++ tail)) : declared? text.toList = some name := by
  rw [written, declared?_eq_some declarator plain ends named, String.ofList_toList]

theorem declares_record {record : Record} (plain : Plain record.name) :
    declares record.code = [record.name] := by
  have declared : ∀ tail : String, declared?
      ("type " ++ record.name ++ typeParameters record.parameters ++ " struct" ++ tail).toList =
        some record.name := by
    intro tail
    have rest : ((typeParameters record.parameters ++ " struct").toList ++ tail.toList).head? = some ' ' ∨
        ((typeParameters record.parameters ++ " struct").toList ++ tail.toList).head? = some '[' := by
      unfold typeParameters
      split <;> simp [String.toList_append]
    have word : ['t', 'y', 'p', 'e', ' '] ∈ declarators := by decide
    apply declared?_written word plain
    · rcases rest with rest | rest <;> rw [rest] <;> rfl
    · right
      rcases rest with rest | rest <;> rw [rest] <;> decide
    · simp [String.toList_append]
  unfold Record.code
  dsimp only
  rw [declares_docComment]
  split
  · rw [declares, declaredFrom, declared]
    simp [declaredFrom]
  · have whole := declared ""
    rw [String.append_empty] at whole
    rw [declares, declaredFrom, whole]
    simp [declaredFrom]

theorem declared?_receiver (receiver tail : String) :
    declared? ("func " ++ ("(" ++ receiver ++ ") ") ++ tail).toList = none := by
  have found : (declarators.findSome? fun word =>
      word.isPrefixOf? ("func " ++ ("(" ++ receiver ++ ") ") ++ tail).toList) =
        some ('(' :: (receiver ++ ") " ++ tail).toList) := by
    simp [declarators, List.isPrefixOf?, String.toList_append]
  rw [declared?, found]
  rfl

theorem declared?_function (plain : Plain name) (named : name ≠ "") (tail : String) :
    declared? ("func " ++ "" ++ name ++ "(" ++ tail).toList = some name := by
  have word : ['f', 'u', 'n', 'c', ' '] ∈ declarators := by decide
  have ends : ('(' :: tail.toList).head?.all endsName = true := rfl
  exact declared?_written word plain ends (.inl (by simpa using named)) (by simp [String.toList_append])

theorem declares_definition {head close : String} {declared : Option String} {parameters : List String}
    (body : List Code) (first : ∀ tail, declared? (head ++ tail).toList = declared)
    (func : head.toList.head? = some 'f') (closes : close.toList.head? = some ')') :
    declares
        (if 1 < parameters.length then
          [.line head, .nested (parameters.map fun parameter => .line (parameter ++ ",")),
            .block close body]
        else [.block (head ++ commaSeparated parameters ++ close) body]) = declared.toList := by
  obtain ⟨tail, written⟩ : ∃ tail, head.toList = 'f' :: tail := List.head?_eq_some_iff.1 func
  obtain ⟨tail', written'⟩ : ∃ tail, close.toList = ')' :: tail := List.head?_eq_some_iff.1 closes
  have alone := first ""
  rw [String.append_empty] at alone
  split
  · -- no line after the first declares anything, since the last one begins with a parenthesis
    rw [declares, declaredFrom, declaredFrom, declaredFrom, alone, written, written',
      opensGroup_eq_false (by decide), declared?_eq_none (by decide)]
    simp [declaredFrom]
  · rw [declares, declaredFrom, String.append_assoc, first]
    simp [declaredFrom]

theorem head?_resultsCode (results : List String) :
    (")" ++ resultsCode results).toList.head? = some ')' := by
  simp [String.toList_append]

theorem declares_function {function : Function} (plain : Plain function.name) (named : function.name ≠ "")
    (free : function.receiver = none) : declares function.code = [function.name] := by
  unfold Function.code
  dsimp only
  rw [free, declares_lineComment]
  exact declares_definition function.body (declared?_function plain named)
    (by simp [String.toList_append]) (head?_resultsCode _)

theorem declares_method (receiver name : String) (parameters : List (String × String))
    (results : List String) (body : List Code) :
    declares (method receiver name parameters results body) = [] := by
  unfold method Function.code
  dsimp only
  rw [declares_lineComment]
  have first : ∀ tail : String, declared?
      ("func " ++ ("(" ++ receiver ++ ") ") ++ name ++ "(" ++ tail).toList = none := by
    intro tail
    rw [String.append_assoc, String.append_assoc]
    exact declared?_receiver receiver _
  apply declares_definition body first
  · simp [String.toList_append]
  · exact head?_resultsCode results

end Pieces

/-- The names that the declaration of a model makes known. -/
def Declaration.names : Declaration → List String
  | record declared => [declared.name]
  | enumeration declared => [declared.name, declared.name ++ "Values"]
  | union declared => [declared.name]

def operationNames (operation : Operation) : List String :=
  (if hasParameters operation then [parametersName operation, "read" ++ parametersName operation]
    else []) ++ [goName operation ++ "Ctrl"]

theorem declares_values {declared : EnumType} (plain : Plain declared.name) :
    declares declared.valuesCode = [declared.name ++ "Values"] := by
  have values : declared? ("var " ++ declared.name ++ "Values = struct \x7b").toList =
      some (declared.name ++ "Values") := by
    have word : ['v', 'a', 'r', ' '] ∈ declarators := by decide
    have ends : " = struct \x7b".toList.head?.all endsName = true := by
      rw [String.toList_ofList]
      rfl
    have noGroup : " = struct \x7b".toList.head? ≠ some '(' := by
      rw [String.toList_ofList]
      decide
    exact declared?_written word (plain.append (plain_affixes "Values" (by simp))) ends (.inr noGroup)
      (by simp [String.toList_append])
  have comment : ∀ rest : List Code,
      declares (.line s!"// {declared.name}Values holds every {declared.name}." :: rest) =
        declares rest := by
    intro rest
    have marked : ∀ line ∈ [Code.line s!"// {declared.name}Values holds every {declared.name}."],
        IsComment line := by
      intro line mem
      obtain rfl := List.mem_singleton.1 mem
      exact isComment_marked (declared.name ++ "Values holds every " ++ declared.name ++ ".")
    exact declares_comment marked
  have braces : declared? ['\x7d', '\x7b'] = none ∧ declared? ['\x7d'] = none ∧
      opensGroup ['\x7d', '\x7b'] = false := by
    decide
  unfold EnumType.valuesCode
  dsimp only
  rw [comment, declares, declaredFrom, values, opensGroup_of_declared values]
  simp [declaredFrom, braces]

theorem declares_declaration {declaration : Declaration}
    (plain : ∀ name ∈ declaration.names.head?, Plain name) :
    declaration.code.flatMap declares = declaration.names := by
  cases declaration with
  | record declared => simp [Declaration.code, Declaration.names, declares_record (plain _ rfl)]
  | enumeration declared =>
    have named : Plain declared.name := plain _ rfl
    have wrapped : declares declared.wrapper.code = [declared.name] := declares_record named
    simp [Declaration.code, Declaration.names, EnumType.code, declares_method, declares_values named,
      wrapped]
  | union declared =>
    have wrapped : declares declared.wrapper.code = [declared.name] := declares_record (plain _ rfl)
    simp [Declaration.code, Declaration.names, UnionType.code, declares_method, wrapped]

theorem declares_operation (api : Api) (validate : Bool) (operation : Operation) :
    (operationCode api validate operation).flatMap declares = operationNames operation := by
  have named : Plain (goName operation) :=
    plain_of_capitalized (Text.capitalized_pascalCase operation.id)
  have parameters : Plain (parametersName operation) := named.append (plain_affixes "Params" (by simp))
  have struct : declares (parametersStruct api operation).code = [parametersName operation] :=
    declares_record parameters
  have reader : declares (readerCode api operation) = ["read" ++ parametersName operation] :=
    declares_function ((plain_affixes "read" (by simp)).append parameters) (by simp) rfl
  have handler : declares (handlerCode api validate operation) = [goName operation ++ "Ctrl"] :=
    declares_function (named.append (plain_affixes "Ctrl" (by simp))) (by simp) rfl
  unfold operationCode operationNames
  split <;> simp [struct, reader, handler]

end OpenApiCodegen.Server
