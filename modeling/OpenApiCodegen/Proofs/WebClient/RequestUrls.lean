import OpenApiCodegen.Proofs.Api.RequestPaths
import OpenApiCodegen.Proofs.Generation.Units
import OpenApiCodegen.Proofs.Lowering.ParameterKeys

namespace OpenApiCodegen

open Api (Parameter Operation)
open Api.PathTemplate
open Text (splitOn cutAt cutAt_cons cutAt_append cutAt_eq_none splitOn_append splitOn_cons_self)

namespace WebClient

/-- What stands for a part of a URL when the parameters have these values. -/
def UrlPart.text (values : Parameter → List Char) : UrlPart → List Char
  | .fixed text => text.toList
  | .value parameter => values parameter

def Url.text (values : Parameter → List Char) : Url → List Char
  | .plain path => path.toList
  | .template parts => parts.flatMap (UrlPart.text values)

def tokenText (parameters : List Parameter) (values : Parameter → List Char) (token : List Char) :
    List Char :=
  match pathParameter? parameters token with
  | some parameter => values parameter
  | none => '\x7b' :: token ++ ['\x7d']

def pieceText (parameters : List Parameter) (values : Parameter → List Char) : Piece → List Char
  | .fixed text => text
  | .placeholder token => tokenText parameters values token

def filled (parameters : List Parameter) (values : Parameter → List Char) (template : List Char) :
    List Char :=
  (pieces template).flatMap (pieceText parameters values)

section Pieces

variable {parameters : List Parameter} {values : Parameter → List Char} {c : Char}
  {before token rest template : List Char}

@[simp] theorem filled_nil : filled parameters values [] = [] := by
  rw [filled, pieces_plain rfl]
  rfl

theorem filled_char (plain : c ≠ '\x7b') :
    filled parameters values (c :: rest) = c :: filled parameters values rest := by
  have cut := cutAt_cons plain rest
  unfold filled
  cases opened : cutAt '\x7b' rest with
  | none =>
    have opened' : cutAt '\x7b' (c :: rest) = none := by rw [cut, opened, Option.map_none]
    rw [pieces_plain opened, pieces_plain opened']
    simp [pieceText]
  | some found =>
    obtain ⟨before, after⟩ := found
    have opened' : cutAt '\x7b' (c :: rest) = some (c :: before, after) := by
      rw [cut, opened, Option.map_some]
    cases closed : cutAt '\x7d' after with
    | none =>
      rw [pieces_unclosed opened closed, pieces_unclosed opened' closed]
      simp [pieceText]
    | some found =>
      rw [pieces_closed opened closed, pieces_closed opened' closed]
      simp [pieceText]

theorem filled_placeholder (outside : '\x7d' ∉ token) :
    filled parameters values ('\x7b' :: (token ++ '\x7d' :: rest)) =
      tokenText parameters values token ++ filled parameters values rest := by
  have opened : cutAt '\x7b' ('\x7b' :: (token ++ '\x7d' :: rest)) =
      some ([], token ++ '\x7d' :: rest) := by
    simp [cutAt]
  rw [filled, pieces_closed opened (cutAt_append outside)]
  simp [filled, pieceText]

theorem filled_unclosed (outside : '\x7d' ∉ token) :
    filled parameters values ('\x7b' :: token) = '\x7b' :: token := by
  have opened : cutAt '\x7b' ('\x7b' :: token) = some ([], token) := by
    simp [cutAt]
  rw [filled, pieces_unclosed opened (cutAt_eq_none.2 outside)]
  simp [pieceText]

def braced (parameter : Parameter) : List Char :=
  '\x7b' :: parameter.wireName.toList ++ ['\x7d']

theorem name_of_pathParameter? {parameter : Parameter}
    (known : pathParameter? parameters token = some parameter) :
    parameter ∈ parameters ∧ parameter.location = .path ∧ parameter.wireName.toList = token := by
  have fits := List.find?_some known
  simp only [Bool.and_eq_true, beq_iff_eq] at fits
  obtain ⟨location, name⟩ := fits
  exact ⟨List.mem_of_find?_eq_some known, location, by rw [name, String.toList_ofList]⟩

theorem filled_braced (parameters : List Parameter) (template : List Char) :
    filled parameters braced template = template := by
  induction template using template_induction with
  | done => exact filled_nil
  | char c rest plain ih => rw [filled_char plain, ih]
  | placeholder token rest outside ih =>
    have own : tokenText parameters braced token = '\x7b' :: token ++ ['\x7d'] := by
      unfold tokenText
      split
      · rename_i parameter known
        rw [braced, (name_of_pathParameter? known).2.2]
      · rfl
    rw [filled_placeholder outside, own, ih]
    simp
  | unclosed token outside => exact filled_unclosed outside

end Pieces

section Parts

variable {parameters : List Parameter} {values : Parameter → List Char}

theorem text_urlParts (pending : List Char) (pieces : List Piece) :
    (urlParts parameters pending pieces).flatMap (UrlPart.text values) =
      pending ++ pieces.flatMap (pieceText parameters values) := by
  induction pieces generalizing pending with
  | nil =>
    unfold urlParts
    split
    · rename_i empty
      simp [List.isEmpty_iff.1 empty]
    · simp [UrlPart.text]
  | cons piece rest ih =>
    cases piece with
    | fixed text => simp [urlParts, ih, pieceText]
    | placeholder token =>
      cases known : pathParameter? parameters token with
      | none => simp [urlParts, known, ih, pieceText, tokenText]
      | some parameter => simp [urlParts, known, ih, UrlPart.text, pieceText, tokenText]

theorem text_eq_of_fixed {parts : List UrlPart} (fixed : parts.any UrlPart.isValue = false)
    (values values' : Parameter → List Char) :
    parts.flatMap (UrlPart.text values) = parts.flatMap (UrlPart.text values') := by
  refine List.flatMap_congr fun part mem => ?_
  cases part with
  | fixed text => rfl
  | value parameter =>
    have absent := List.any_eq_false.1 fixed _ mem
    exact absurd rfl absent

theorem text_url (path : String) : (url path parameters).text values =
    filled parameters values path.toList := by
  unfold url
  dsimp only
  split
  · exact text_urlParts [] _
  · rename_i fixed
    have apart := text_eq_of_fixed (Bool.eq_false_iff.2 fixed) values braced
    rw [text_urlParts, text_urlParts] at apart
    exact (apart.trans (filled_braced parameters path.toList)).symm

end Parts

def PathValues (parameters : List Parameter) (values : Parameter → List Char) : Prop :=
  ∀ parameter ∈ parameters, parameter.location = .path →
    values parameter ≠ [] ∧ '/' ∉ values parameter

section Agreement

variable {parameters : List Parameter} {values : Parameter → List Char} {token template : List Char}

theorem PathValues.tokenText (valid : PathValues parameters values) (slashless : '/' ∉ token) :
    tokenText parameters values token ≠ [] ∧ '/' ∉ tokenText parameters values token := by
  unfold WebClient.tokenText
  split
  · rename_i parameter known
    obtain ⟨mem, location, -⟩ := name_of_pathParameter? known
    exact valid parameter mem location
  · exact ⟨by simp, by simp [slashless]⟩

theorem requests_filled (valid : PathValues parameters values) (closed : Closed template) :
    Requests template (filled parameters values template) := by
  induction closed with
  | done =>
    rw [filled_nil]
    exact .done
  | char plain _ ih =>
    rw [filled_char plain]
    exact .char plain ih
  | placeholder outside slashless _ ih =>
    rw [filled_placeholder outside]
    obtain ⟨nonempty, without⟩ := valid.tokenText slashless
    exact .placeholder outside nonempty without ih

theorem splitOn_filled_append {before written rest : List Char} (outside : '/' ∉ before)
    (outside' : '/' ∉ written)
    (fills : ∀ after, filled parameters values (before ++ after) =
      written ++ filled parameters values after)
    (split : splitOn '/' (filled parameters values rest) =
      (splitOn '/' rest).map (filled parameters values)) :
    splitOn '/' (filled parameters values (before ++ rest)) =
      (splitOn '/' (before ++ rest)).map (filled parameters values) := by
  rw [fills, splitOn_append outside', splitOn_append outside, split]
  cases splitOn '/' rest with
  | nil => rfl
  | cons head tail => simp [fills]

theorem splitOn_filled (valid : PathValues parameters values) (closed : Closed template) :
    splitOn '/' (filled parameters values template) =
      (splitOn '/' template).map (filled parameters values) := by
  induction closed with
  | done => simp [splitOn]
  | @char c rest plain _ ih =>
    by_cases slash : c = '/'
    · subst slash
      rw [filled_char plain, splitOn_cons_self, splitOn_cons_self, ih, List.map_cons, filled_nil]
    · have outside : '/' ∉ [c] := by simpa using Ne.symm slash
      exact splitOn_filled_append outside outside (fun _ => filled_char plain) ih
  | @placeholder token rest outside slashless _ ih =>
    have without : '/' ∉ '\x7b' :: token ++ ['\x7d'] := by simp [slashless]
    have fills : ∀ after, filled parameters values ('\x7b' :: token ++ ['\x7d'] ++ after) =
        tokenText parameters values token ++ filled parameters values after := by
      intro after
      rw [← filled_placeholder outside]
      simp
    have same : '\x7b' :: (token ++ '\x7d' :: rest) = '\x7b' :: token ++ ['\x7d'] ++ rest := by simp
    rw [same]
    exact splitOn_filled_append without (valid.tokenText slashless).2 fills ih

theorem value_at_position (valid : PathValues parameters values) (closed : Closed template)
    {parameter : Parameter} {position : Position}
    (outside : '\x7d' ∉ parameter.wireName.toList)
    (known : pathParameter? parameters parameter.wireName.toList = some parameter)
    (found : positionFrom? parameter.wireName.toList 0 0 (splitOn '/' template) = some position) :
    (splitOn '/' (filled parameters values template))[position.segment]? = some (values parameter) := by
  obtain ⟨index, place, at_⟩ := placeholder_of_positionFrom? found
  rw [place, Nat.zero_add, splitOn_filled valid closed, List.getElem?_map, at_, Option.map_some,
    filled_placeholder outside, filled_nil, List.append_nil, tokenText, known]

end Agreement

/-- What the client writes for the path of an operation fits its pattern, and the segment of each path
parameter is the value of the parameter. -/
structure PathsAgree (operation : Operation) (values : Parameter → List Char) (url : Url) : Prop where
  matched : matchesPattern (pattern operation.path) (String.ofList (url.text values)) = true
  segments : ∀ parameter ∈ operation.parameters, parameter.location = .path →
    ∃ position, position? operation.path parameter.wireName = some position ∧
      (splitOn '/' (url.text values))[position.segment]? = some (values parameter)

section Operations

variable {doc : OpenApi.Document} {source : Source} {target : Target} {id : Nat} {operation : Operation}
  {values : Parameter → List Char}

theorem position_of_included (included : (id, operation) ∈ source.api.includedOperations target)
    {parameter : Parameter} (mem : parameter ∈ operation.parameters)
    (path : parameter.location = .path) :
    ∃ position, position? operation.path parameter.wireName = some position := by
  have accepted := (Api.mem_includedOperations.1 included).2
  cases found : position? operation.path parameter.wireName with
  | some position => exact ⟨position, rfl⟩
  | none =>
    have unbound : parameter.binding operation.path = .unbound := by
      simp [Parameter.binding, path, found]
    have faulty : target.fault? operation ≠ none := by
      intro none
      have fine := List.findSome?_eq_none_iff.1 none parameter mem
      simp [Target.problem?, unbound] at fine
    obtain ⟨fault, faulty⟩ := Option.ne_none_iff_exists'.1 faulty
    simp [Target.exclusion?, faulty] at accepted

theorem local_of_path {parameter : Parameter} (mem : parameter ∈ operation.parameters)
    (path : parameter.location = .path) : parameter ∈ operation.locals := by
  simp [Operation.locals, Parameter.isGlobal, mem, path]

theorem pathParameter?_of_lowered (lowered : Source.of doc = .ok source)
    (known : operation ∈ source.api.operations) {parameter : Parameter}
    (mem : parameter ∈ operation.parameters) (path : parameter.location = .path) :
    pathParameter? operation.locals parameter.wireName.toList = some parameter := by
  have declared := Lowering.parameterKeys_nodup (lower_of_source lowered) operation known
  have onPath : ∀ {other}, other ∈ operation.parameters → other.location = .path →
      other ∈ operation.parameters.filter fun parameter => !parameter.isPayload := by
    intro other mem path
    simp [Parameter.isPayload, mem, path]
  cases found : pathParameter? operation.locals parameter.wireName.toList with
  | none =>
    have absent := List.find?_eq_none.1 found parameter (local_of_path mem path)
    simp [path] at absent
  | some other =>
    obtain ⟨inside, place, name⟩ := name_of_pathParameter? found
    have key : other.key = parameter.key :=
      Prod.ext (place.trans path.symm) (String.toList_injective name)
    have same := List.inj_on_of_nodup_map declared (onPath (List.mem_of_mem_filter inside) place)
      (onPath mem path) key
    rw [same]

theorem pathsAgree_of_included (lowered : Source.of doc = .ok source)
    (included : (id, operation) ∈ source.api.includedOperations target)
    (closed : BracesClosed operation.path.toList)
    (names : ∀ parameter ∈ operation.parameters, parameter.location = .path →
      '\x7d' ∉ parameter.wireName.toList)
    (valid : PathValues operation.parameters values) :
    PathsAgree operation values (request source.api operation).url := by
  have closed := closed_of_bracesClosed closed
  have validLocals : PathValues operation.locals values := fun parameter mem =>
    valid parameter (List.mem_of_mem_filter mem)
  have known : operation ∈ source.api.operations :=
    List.mem_of_getElem? (Api.mem_includedOperations.1 included).1
  have written : (request source.api operation).url.text values =
      filled operation.locals values operation.path.toList :=
    text_url operation.path
  refine ⟨?_, fun parameter mem path => ?_⟩
  · rw [matchesPattern_pattern, written, String.toList_ofList]
    exact requests_filled validLocals closed
  · obtain ⟨position, found⟩ := position_of_included included mem path
    refine ⟨position, found, ?_⟩
    rw [written]
    exact value_at_position validLocals closed (names parameter mem path)
      (pathParameter?_of_lowered lowered known mem path) found

end Operations

/-- Posts of users, at a path with two parameters. -/
def posts : OpenApi.Document where
  openapi := none
  info := none
  paths :=
    [("/users/{user}/posts/{post}",
      Lowering.reading (["user", "post"].map fun name => Lowering.parameterAt "path" name none) [])]
  schemas := none
  tags := []
  source := none

def postValues (parameter : Parameter) : List Char :=
  if parameter.wireName = "user" then ['7'] else ['a', 'b']

theorem posts_pathsAgree :
    ∃ source, Source.of posts = .ok source ∧
      ∃ id operation, (id, operation) ∈ source.api.includedOperations .webClient ∧
        PathsAgree operation postValues (request source.api operation).url ∧
          String.ofList ((request source.api operation).url.text postValues) = "/users/7/posts/ab" := by
  have seen : (Source.of posts).toOption.map (fun source : Source =>
      decide (∃ entry ∈ source.api.includedOperations .webClient,
        BracesClosed entry.2.path.toList ∧
          (∀ parameter ∈ entry.2.parameters, parameter.location = .path →
            '\x7d' ∉ parameter.wireName.toList) ∧
          (∀ parameter ∈ entry.2.parameters, parameter.location = .path →
            postValues parameter ≠ [] ∧ '/' ∉ postValues parameter) ∧
          String.ofList ((request source.api entry.2).url.text postValues) =
            "/users/7/posts/ab")) = some true := by
    decide +kernel
  obtain ⟨source, lowered, seen⟩ := Lowering.exists_of_toOption_map seen
  obtain ⟨⟨id, operation⟩, included, closed, names, valid, written⟩ := of_decide_eq_true seen
  have agree := pathsAgree_of_included lowered included closed names valid
  exact ⟨source, lowered, id, operation, included, agree, written⟩

end WebClient

end OpenApiCodegen
