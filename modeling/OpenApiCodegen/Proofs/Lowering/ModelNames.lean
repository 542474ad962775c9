import OpenApiCodegen.Proofs.Lowering.DocumentRuns
import OpenApiCodegen.Proofs.Text.Capitals

namespace OpenApiCodegen.Lowering

open Api
open OpenApi (Schema SchemaKind Document NormalDocument componentName)
open Text (Capitalized capitalize capitalized_upperOf capitalized_pascalCase capitalized_camelCase
  capitalized_of_spelled spelled_of_isAlphanumeric)

/-- The names that come from a document have `P`, and what is put behind a name keeps it. -/
structure NameForms (P : String → Prop) : Prop where
  component : ∀ key, P (typeName key)
  operation : ∀ id method path, P (Text.capitalize (operationName id method path))
  inner : ∀ {owner}, P owner → ∀ taken hint, P (freshName taken (owner ++ Text.pascalCase hint))
  form : ∀ {owner}, P owner → P (owner ++ "Form")
  response : ∀ {owner}, P owner → ∀ status, P (owner ++ statusSuffix status)

def Named (P : String → Prop) (draft : Draft) : Prop :=
  ∀ model ∈ draft.models, P model.name

def Names {α : Type} (P : String → Prop) (work : Lower α) (Q : α → Prop) : Prop :=
  Ensures (Named P) work fun _ => Q

def TypesName (P : String → Prop) (reader : TypeReader) : Prop :=
  ∀ schema {owner}, P owner → ∀ hint origin depth,
    Names P (reader schema owner hint origin depth) fun _ => True

namespace Names

variable {α β : Type} {P : String → Prop} {work : Lower α} {Q : α → Prop} {Q' : β → Prop}

theorem pure {a : α} (holds : Q a) : Names P (pure a) Q :=
  Ensures.pure fun _ => holds

theorem failure : Names P (failure : Lower α) Q := by
  rintro _ _ _ - ⟨⟩

theorem bind {next : α → Lower β} (first : Names P work Q)
    (second : ∀ a, Q a → Names P (next a) Q') : Names P (work >>= next) Q' := by
  intro draft b draft' named run
  obtain ⟨a, middle, one, two⟩ := Lower.bind_eq_some.1 run
  obtain ⟨le, named, held⟩ := first _ _ _ named one
  obtain ⟨le', named, holds⟩ := second a held _ _ _ named two
  exact ⟨le_trans le le', named, holds⟩

theorem map {f : α → β} (first : Names P work Q) (holds : ∀ a, Q a → Q' (f a)) :
    Names P (f <$> work) Q' :=
  Ensures.map first fun _ => holds

theorem mapM {f : α → Lower β} {items : List α}
    (each : ∀ item ∈ items, Names P (f item) fun _ => True) :
    Names P (items.mapM f) fun _ => True := by
  intro draft results draft' named run
  obtain ⟨le, named, -⟩ := Ensures.mapM (fun _ _ _ _ held => held) each _ _ _ named run
  exact ⟨le, named, trivial⟩

theorem forM {f : α → Lower Unit} {items : List α}
    (each : ∀ item ∈ items, Names P (f item) fun _ => True) :
    Names P (items.forM f) fun _ => True := by
  induction items with
  | nil => exact .pure trivial
  | cons item rest ih =>
    refine (each item List.mem_cons_self).bind fun _ _ => ?_
    exact ih fun other mem => each other (List.mem_cons_of_mem item mem)

theorem get : Names P (get : Lower Draft) fun _ => True := by
  intro draft seen draft' named run
  obtain ⟨-, rfl⟩ := Lower.get_eq_some.1 run
  exact ⟨le_refl draft, named, trivial⟩

theorem pushModel {model : Model} (own : P model.name) : Names P (pushModel model) fun _ => True := by
  intro draft done draft' named run
  obtain rfl := pushModel_eq_some.1 run
  exact ⟨draft.le_push model, List.forall_mem_cons.2 ⟨own, named⟩, trivial⟩

theorem inlineName (forms : NameForms P) {owner : String} (own : P owner) (hint : String) :
    Names P (inlineName owner hint) P := by
  intro draft name draft' named run
  obtain ⟨rfl, rfl⟩ := inlineName_eq_some.1 run
  exact ⟨draft.le_reserve _, named, forms.inner own draft.taken hint⟩

end Names

section Models

variable {P : String → Prop} {reader : TypeReader} {components : List (String × Schema)}
  {schema : Schema} {name : String} {origin : Origin}

section Readers

variable (types : TypesName P reader) (own : P name)
include types own

theorem lowerProperties_names :
    Names P (lowerProperties components reader name schema).work fun _ => True := by
  rw [work_lowerProperties]
  apply Names.mapM
  rintro ⟨wireName, property⟩ -
  exact (types property own wireName .inlineObject 0).bind fun _ _ => .pure trivial

theorem additionalType_names : Names P (additionalType reader name schema) fun _ => True := by
  unfold additionalType
  split
  · exact (types _ own "Value" .inlineObject 0).map fun _ _ => trivial
  · exact .pure trivial
  · exact .pure trivial

theorem recordModel_names :
    Names P (recordModel components reader name schema origin).work (·.name = name) := by
  rw [work_recordModel]
  apply (lowerProperties_names types own).bind
  intro properties _
  exact (additionalType_names types own).bind fun _ _ => .pure rfl

theorem unionModel_names :
    Names P (unionModel components reader name schema origin).work (·.name = name) := by
  rw [work_unionModel]
  exact (lowerProperties_names types own).bind fun _ _ => .pure rfl

end Readers

variable {n depth : Nat} {scope : Scope}

theorem contribution_names (forms : NameForms P) (types : TypesName P (typeOf n scope))
    (members : ∀ key, Names P (memberProperties n scope key depth).work fun _ => True) (own : P name)
    (member : Schema) : Names P (contribution n scope name depth member) fun _ => True := by
  unfold contribution
  split
  · exact .pure trivial
  · cases member.ref with
    | some ref =>
      refine (members (componentName ref)).bind fun found _ => ?_
      cases found <;> exact .pure trivial
    | none =>
      refine (Names.inlineName forms own "AllOf").bind fun memberName inner => ?_
      refine (recordModel_names types inner).bind fun model same => ?_
      exact (Names.pushModel (same ▸ inner)).bind fun _ _ => .pure trivial

theorem compositionModel_names (forms : NameForms P) (types : TypesName P (typeOf n scope))
    (members : ∀ key, Names P (memberProperties n scope key depth).work fun _ => True) (own : P name) :
    Names P (compositionModel (n + 1) scope name schema origin depth).work (·.name = name) := by
  rw [compositionModel_succ]
  have gathered : Names P (mergeOf n scope name depth schema) fun _ => True :=
    (Names.mapM fun member _ => contribution_names forms types members own member).map
      fun _ _ => trivial
  refine gathered.bind fun merge _ => ?_
  refine (lowerProperties_names types own).bind fun properties _ => ?_
  exact (additionalType_names types own).bind fun _ _ => .pure rfl

theorem modelOf_names (types : TypesName P (typeOf n scope))
    (compositions : ∀ {schema name origin}, P name →
      Names P (compositionModel n scope name schema origin depth).work (·.name = name))
    (own : P name) (kind : SchemaKind) :
    Names P (modelOf n scope kind name schema origin depth) (·.name = name) := by
  cases kind with
  | enumeration => exact .pure rfl
  | union => exact unionModel_names types own
  | composition => exact compositions own
  | record => exact recordModel_names types own
  | typeAlias => exact recordModel_names types own
  | unsupported reason => exact .pure rfl

theorem typeOf_names (forms : NameForms P) (types : TypesName P (typeOf n scope))
    (compositions : ∀ {schema name origin depth}, P name →
      Names P (compositionModel n scope name schema origin depth).work (·.name = name)) :
    TypesName P (typeOf (n + 1) scope) := by
  intro schema owner own hint origin depth
  rw [typeOf_succ]
  cases plan scope.components schema depth with
  | settled type => exact .pure trivial
  | onward passage next =>
    have goes : P (passage.owner owner) := by
      cases passage <;> first | exact own | exact forms.component _
    exact (types next goes _ _ _).map fun _ _ => trivial
  | make kind =>
    rw [Plan.carryOut_make]
    refine (Names.inlineName forms own hint).bind fun name inner => ?_
    refine (modelOf_names types compositions inner kind).bind fun model same => ?_
    exact (Names.pushModel (same ▸ inner)).bind fun _ _ => .pure trivial

theorem lowerComponent_names (forms : NameForms P) (types : ∀ scope, TypesName P (typeOf n scope))
    (compositions : ∀ scope {schema name origin depth}, P name →
      Names P (compositionModel n scope name schema origin depth).work (·.name = name))
    (key : String) (schema : Schema) (depth : Nat) :
    Names P (lowerComponent (n + 1) scope key schema depth).work fun _ => True := by
  rw [lowerComponent_succ]
  refine Names.get.bind fun draft _ => ?_
  split
  · exact .pure trivial
  · split
    · exact .pure trivial
    · have own := forms.component key
      refine (modelOf_names (types _) (compositions _) own _).bind fun model same => ?_
      exact .pushModel (same ▸ own)

theorem lowering_names (forms : NameForms P) (n : Nat) :
    (∀ scope, TypesName P (typeOf n scope)) ∧
      (∀ scope {schema name origin depth}, P name →
        Names P (compositionModel n scope name schema origin depth).work (·.name = name)) ∧
      (∀ scope key depth, Names P (memberProperties n scope key depth).work fun _ => True) ∧
      ∀ scope key schema depth, Names P (lowerComponent n scope key schema depth).work fun _ => True := by
  induction n with
  | zero =>
    exact ⟨fun _ _ _ _ _ _ _ => .failure, fun _ _ _ _ _ _ => .failure, fun _ _ _ => .failure,
      fun _ _ _ _ => .failure⟩
  | succ n ih =>
    obtain ⟨types, compositions, members, lowered⟩ := ih
    refine ⟨?_, ?_, ?_, ?_⟩
    · exact fun scope => typeOf_names forms (types scope) (compositions scope)
    · intro scope schema name origin depth own
      exact compositionModel_names forms (types scope) (fun key => members scope key depth) own
    · intro scope key depth draft found draft' named run
      -- the members are known already, those of another component, or those of a model yet to be made
      rcases memberProperties_run run with ⟨-, rfl, -⟩ | ⟨_, _, _, _, inner, _, run⟩ |
        ⟨target, -, -, -, run, -⟩
      · exact ⟨le_refl draft, named, trivial⟩
      · exact members scope inner (depth + 1) _ _ _ named run
      · obtain ⟨le, named, -⟩ := lowered scope key target (depth + 1) _ _ _ named run
        exact ⟨le, named, trivial⟩
    · exact fun scope => lowerComponent_names forms types compositions

end Models

section Operations

variable {P : String → Prop} {n : Nat} {scope : Scope} {owner : String}

theorem lowerParameters_names (forms : NameForms P) (own : P owner)
    (parameters : List OpenApi.Parameter) :
    Names P (lowerParameters n scope owner parameters) fun _ => True := by
  have types := (lowering_names forms n).1 scope
  refine (Names.mapM fun parameter _ => ?_).bind fun _ _ => .pure trivial
  cases location? parameter.location with
  | none => exact .pure trivial
  | some location =>
    refine Names.map (Q := fun _ => True) ?_ fun _ _ => trivial
    exact (types _ own _ _ _).bind fun _ _ => .pure trivial

theorem formProperties_names (forms : NameForms P) (own : P owner) (schema : Schema) (depth : Nat) :
    Names P (formProperties n scope schema owner depth).work fun _ => True := by
  induction n generalizing schema depth with
  | zero => exact .failure
  | succ n ih =>
    obtain ⟨types, -, members, -⟩ := lowering_names forms n
    rw [formProperties_succ]
    cases schema.ref with
    | some ref => exact (members scope _ depth).map fun _ _ => trivial
    | none =>
      have gathered := Names.mapM fun member (_ : member ∈ schema.allOf.getD []) => ih member (depth + 1)
      refine Names.bind (Q := fun _ => True) (gathered.map fun _ _ => trivial) fun merged _ => ?_
      exact (lowerProperties_names (types scope) own).map fun _ _ => trivial

theorem lowerRequest_names (forms : NameForms P) (own : P owner) (declared : Declared) :
    Names P (lowerRequest n scope owner declared) fun _ => True := by
  unfold lowerRequest
  cases declared.operation.requestBody with
  | none => exact .pure trivial
  | some body =>
    dsimp only
    rw [lowerBody_eq]
    cases sentForm? body.content with
    | some form => exact (formProperties_names forms (forms.form own) form 0).map fun _ _ => trivial
    | none =>
      rcases pickPayload? body.content with _ | ⟨media, schema⟩
      · exact .pure trivial
      · refine Names.map (Q := fun _ => True) ?_ fun _ _ => trivial
        cases schema with
        | none => exact .pure trivial
        | some schema =>
          have types := (lowering_names forms n).1 scope
          exact (types schema own _ _ _).bind fun _ _ => .pure trivial

theorem lowerResponse_names (forms : NameForms P) (own : P owner)
    (entry : String × OpenApi.Response) :
    Names P (lowerResponse n scope owner entry) fun _ => True := by
  rw [lowerResponse_eq]
  refine Names.map (Q := fun _ => True) ?_ fun _ _ => trivial
  unfold lowerPayload
  rcases pickPayload? entry.2.content with _ | ⟨media, _ | schema⟩
  · exact .pure trivial
  · exact .pure trivial
  · have types := (lowering_names forms n).1 scope
    exact (types schema (forms.response own entry.1) _ _ _).map fun _ _ => trivial

theorem lowerOperation_names (forms : NameForms P) {declared : Declared} {operation : Operation}
    {draft draft' : Draft} (named : Named P draft)
    (run : lowerOperation n scope declared draft = .ok (operation, draft')) : Named P draft' := by
  obtain ⟨parameters, body, responses, a, b, one, two, three, -⟩ := lowerOperation_run run
  have own : P (Text.capitalize declared.id) := forms.operation _ _ _
  have first := (lowerParameters_names forms own _ _ _ _ named one).2.1
  have second := (lowerRequest_names forms own declared _ _ _ first two).2.1
  exact (Names.mapM (fun entry _ => lowerResponse_names forms own entry) _ _ _ second three).2.1

theorem lowerOperations_names (forms : NameForms P) {ids : List String} {declared : List Declared}
    {operations : List Operation} {draft draft' : Draft} (named : Named P draft)
    (run : lowerOperations n scope ids declared draft = .ok (operations, draft')) : Named P draft' := by
  have composes : Composes fun draft draft' => Named P draft → Named P draft' :=
    ⟨fun _ => id, fun first second named => second (first named)⟩
  exact (runs_of_lowerOperations composes
    (fun _ _ _ _ _ one named => lowerOperation_names forms named one) run).1 named

theorem named_of_lower (forms : NameForms P) {doc : NormalDocument} {api : Api}
    (run : lower doc = .ok api) : ∀ model ∈ api.models, P model.name := by
  obtain ⟨operations, middle, draft, components, rest, models, -⟩ := lower_run run
  have made : Names P (lowerComponents (callBound doc.document) ⟨doc.document.components, []⟩).work
      fun _ => True := by
    rw [work_lowerComponents]
    exact .forM fun entry _ => (lowering_names forms _).2.2.2 _ entry.1 entry.2 0
  have start : Named P (Draft.start doc.document) := by simp [Named, Draft.start]
  have all := lowerOperations_names forms (made _ _ _ start components).2.1 rest
  intro model mem
  rw [models, List.mem_reverse] at mem
  exact all model mem

end Operations

theorem capitalized_typeName (key : String) : Capitalized (typeName key).toList := by
  unfold typeName
  split
  · rename_i named
    rw [capitalize, String.toList_ofList]
    unfold isTypeName at named
    split at named
    · cases named
    · rename_i c rest written
      obtain ⟨alpha, others⟩ := Bool.and_eq_true_iff.1 named
      rw [written]
      refine capitalized_upperOf (.inl alpha) fun d mem => ?_
      have char := List.all_eq_true.1 others d mem
      simp only [Char.isAlphanum, Bool.or_eq_true, beq_iff_eq] at char
      rcases char with (alpha | digit) | underscore
      · exact .inr (.inl alpha)
      · exact .inr (.inr (.inl digit))
      · exact .inl underscore
  · exact capitalized_pascalCase key

theorem capitalized_operationName (id : Option String) (method path : String) :
    Capitalized (capitalize (operationName id method path)).toList := by
  unfold operationName
  split
  · rename_i name given
    obtain ⟨written, -, rfl⟩ := Option.map_eq_some_iff.1 given
    split
    · exact capitalized_camelCase _
    · exact capitalized_camelCase written
  · exact capitalized_camelCase _

theorem capitalized_numbered {base : String} (capitalized : Capitalized base.toList) (n : Nat) :
    Capitalized (numbered base n).toList := by
  unfold numbered
  split
  · exact capitalized
  · rw [String.toList_append, Nat.toString_eq_repr, Nat.toList_repr]
    exact capitalized.append (.digits fun c => Nat.isDigit_of_mem_toDigits (by decide) (by decide))

theorem capitalized_freshFrom {taken : List String} {base : String}
    (capitalized : Capitalized base.toList) (tries n : Nat) :
    Capitalized (freshFrom taken base tries n).toList := by
  induction tries generalizing n with
  | zero => exact capitalized_numbered capitalized n
  | succ tries ih =>
    unfold freshFrom
    split
    · exact ih (n + 1)
    · exact capitalized_numbered capitalized n

theorem capitalized_statusSuffix (status : String) : Capitalized (statusSuffix status).toList := by
  rw [statusSuffix, capitalize, String.toList_ofList, String.toList_ofList]
  apply capitalized_of_spelled
  intro c mem
  exact spelled_of_isAlphanumeric (List.mem_filter.1 mem).2

theorem nameForms_capitalized : NameForms fun name => Capitalized name.toList where
  component := capitalized_typeName
  operation := capitalized_operationName
  inner own taken hint := by
    apply capitalized_freshFrom
    rw [String.toList_append]
    exact own.append (capitalized_pascalCase hint)
  form own := by
    rw [String.toList_append]
    exact own.append (.letters (by decide) (by decide))
  response own status := by
    rw [String.toList_append]
    exact own.append (capitalized_statusSuffix status)

theorem capitalized_of_lower {doc : NormalDocument} {api : Api} (run : lower doc = .ok api) :
    ∀ model ∈ api.models, Capitalized model.name.toList :=
  named_of_lower nameForms_capitalized run

end OpenApiCodegen.Lowering
