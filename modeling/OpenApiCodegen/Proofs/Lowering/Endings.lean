import OpenApiCodegen.Proofs.Lowering.CallMeasure
import OpenApiCodegen.Proofs.Lowering.Starts

namespace OpenApiCodegen.Lowering

open Api
open OpenApi (Schema SchemaKind Document NormalDocument componentName)

section Outcomes

variable {α β : Type} {draft : Draft}

theorem LowerOperation.bind_eq {work : LowerOperation α} {next : α → LowerOperation β} :
    (work >>= next) draft = (work draft).bind fun result => next result.1 result.2 :=
  rfl

theorem LowerOperation.pure_eq (a : α) : (pure a : LowerOperation α) draft = .ok (a, draft) :=
  rfl

def Unfinished (work : LowerOperation α) : Prop :=
  ∀ draft, work draft = .error .unfinished

theorem Unfinished.bind {work : LowerOperation α} {next : α → LowerOperation β}
    (unfinished : Unfinished work) : Unfinished (work >>= next) := by
  intro draft
  rw [LowerOperation.bind_eq, unfinished draft]
  rfl

theorem Unfinished.of_fails {work : Lower α} (fails : Fails work) : Unfinished (ending work) := by
  intro draft
  simp [ending, fails draft]

theorem Unfinished.ending_bind {work : Lower α} {next : α → LowerOperation β}
    (unfinished : ∀ a, Unfinished (next a)) : Unfinished (ending work >>= next) := by
  intro draft
  rw [LowerOperation.bind_eq]
  unfold ending
  cases work draft with
  | none => rfl
  | some result => exact unfinished result.1 result.2

theorem checkParameters_of_none {operation : String} {parameters : List OpenApi.Parameter}
    (distinct : firstRepeated? [] parameters = none) : checkParameters operation parameters = pure () := by
  simp [checkParameters, distinct]

theorem lowerOperation_of_distinct {bound : Nat} {scope : Scope} {declared : Declared}
    (distinct : declared.Distinct) :
    lowerOperation bound scope declared = lowerChecked bound scope declared := by
  rw [lowerOperation_eq, checkParameters_of_none distinct.1, checkParameters_of_none distinct.2]
  simp only [pure_bind]

theorem lowerOperation_of_not_distinct {bound : Nat} {scope : Scope} {declared : Declared}
    (repeated : ¬ declared.Distinct) :
    ∃ error, error ≠ .unfinished ∧ lowerOperation bound scope declared draft = .error error := by
  rw [lowerOperation_eq]
  unfold checkParameters
  cases shared : firstRepeated? [] declared.shared with
  | some parameter =>
    exact ⟨.duplicateParameter declared.id parameter.location parameter.name, by simp, rfl⟩
  | none =>
    cases own : firstRepeated? [] (declared.operation.parameters.getD []) with
    | some parameter =>
      exact ⟨.duplicateParameter declared.id parameter.location parameter.name, by simp, rfl⟩
    | none => exact absurd ⟨shared, own⟩ repeated

end Outcomes

section Failing

variable {bound : Nat} {scope : Scope}

theorem lowerOperation_unfinished {declared : Declared} {schema : Schema} (distinct : declared.Distinct)
    (asks : AsksFor declared schema)
    (fails : ∀ m owner hint origin, Fails (typeOf m scope schema owner hint origin 0)) :
    Unfinished (lowerOperation bound scope declared) := by
  rw [lowerOperation_of_distinct distinct]
  unfold lowerChecked
  rcases operation_fails bound (Text.capitalize declared.id) asks fails with
    parameters | request | responses
  · exact (Unfinished.of_fails parameters).bind
  · exact Unfinished.ending_bind fun _ => (Unfinished.of_fails request).bind
  · exact Unfinished.ending_bind fun _ => Unfinished.ending_bind fun _ =>
      (Unfinished.of_fails responses).bind

theorem lowerOperation_cases {declared : Declared} (distinct : declared.Distinct) (draft : Draft) :
    lowerOperation bound scope declared draft = .error .unfinished ∨
      ∃ operation draft', lowerOperation bound scope declared draft = .ok (operation, draft') ∧
        operation.id = declared.id := by
  rw [lowerOperation_of_distinct distinct]
  simp only [lowerChecked, LowerOperation.bind_eq, ending]
  rcases lowerParameters bound scope (Text.capitalize declared.id)
    (mergeParameters declared.shared (declared.operation.parameters.getD [])) draft with
    _ | ⟨parameters, a⟩
  · exact .inl rfl
  dsimp only [Except.bind]
  rcases lowerRequest bound scope (Text.capitalize declared.id) declared a with _ | ⟨body, b⟩
  · exact .inl rfl
  dsimp only
  rcases declared.operation.responses.mapM
    (lowerResponse bound scope (Text.capitalize declared.id)) b with _ | ⟨responses, c⟩
  · exact .inl rfl
  · exact .inr ⟨_, _, rfl, rfl⟩

theorem lowerOperations_unfinished {ids : List String} {operations : List Declared}
    {declared : Declared} (attempted : Attempted ids operations declared)
    (unfinished : Unfinished (lowerOperation bound scope declared)) :
    Unfinished (lowerOperations bound scope ids operations) := by
  induction attempted with
  | here distinct => exact unfinished.bind
  | later distinct fresh _ ih =>
    intro draft
    rcases lowerOperation_cases distinct draft with stuck | ⟨operation, draft', run, same⟩
    · rw [lowerOperations, LowerOperation.bind_eq, stuck]
      rfl
    · rw [lowerOperations, LowerOperation.bind_eq, run]
      simp only [Except.bind, same]
      rw [if_neg (by simpa using fresh)]
      exact (ih unfinished).bind draft'

theorem Attempted.distinct {ids : List String} {operations : List Declared} {declared : Declared}
    (attempted : Attempted ids operations declared) : declared.Distinct := by
  induction attempted with
  | here distinct => exact distinct
  | later _ _ _ ih => exact ih

theorem lowerComponents_none (bound : Nat) {doc : Document}
    (distinct : (doc.components.map fun entry => typeName entry.1).Nodup) {key : String}
    {schema : Schema} (mem : (key, schema) ∈ doc.components) (kind : schema.kind ≠ .typeAlias)
    (endless : Endless doc.components (.model schema.kind schema)) :
    (lowerComponents bound ⟨doc.components, []⟩).work (Draft.start doc) = none := by
  cases run : (lowerComponents bound ⟨doc.components, []⟩).work (Draft.start doc) with
  | none => rfl
  | some result =>
    obtain ⟨⟨⟩, draft⟩ := result
    obtain ⟨history, made⟩ :=
      lowerComponents_run (closed_listed doc.components) (fun entry mem => mem) run
    obtain ⟨model, inside, called⟩ := isLowered_iff.1 (made _ mem kind)
    rcases history.origin (reserved_start doc) inside with old | other | ⟨listed, -, -, -, made, -⟩
    · cases old
    · exact absurd called.symm (other _ mem)
    -- names are distinct, so it was made for this component, which fails
    · have same := List.inj_on_of_nodup_map distinct listed mem ((name_of_modelOf made).symm.trans called)
      cases same
      rw [modelOf_fails_of_endless endless] at made
      cases made

theorem lowerAll_unfinished {doc : Document}
    (distinct : (doc.components.map fun entry => typeName entry.1).Nodup) {place : Place}
    (start : Start doc place) (endless : Endless doc.components place) :
    lowerAll bound doc (Draft.start doc) = .error .unfinished := by
  rw [lowerAll_eq, LowerOperation.bind_eq]
  cases start with
  | component mem kind =>
    have fails := lowerComponents_none bound distinct mem kind endless
    simp [ending, fails, Except.bind]
  | operation attempted asks =>
    have unfinished : Unfinished (lowerOperations bound ⟨doc.components, []⟩ [] (declaredOperations doc)) :=
      lowerOperations_unfinished attempted
        (lowerOperation_unfinished attempted.distinct asks fun m owner hint origin => typeOf_fails endless)
    exact Unfinished.ending_bind (fun _ => unfinished) _

end Failing

section Ending

variable {doc : Document} {n : Nat}

def room (doc : Document) : Nat :=
  (doc.components.length + 1) * span doc

theorem room_add_lt_callBound (doc : Document) : room doc + documentWeight doc + 1 < callBound doc := by
  have places := length_allPlaces_le doc
  have spanned : span doc ≤ (documentWeight doc + 2) * (maxDepth + 4) := by
    have wide : (documentWeight doc + 1) * (maxDepth + 3) + (maxDepth + 4) ≤
        (documentWeight doc + 2) * (maxDepth + 4) := by
      simp only [maxDepth]
      omega
    unfold span
    omega
  have inner : room doc ≤ (doc.components.length + 1) * ((documentWeight doc + 2) * (maxDepth + 4)) :=
    Nat.mul_le_mul_left _ spanned
  have outer : callBound doc = (doc.components.length + 1) * ((documentWeight doc + 2) * (maxDepth + 4)) +
      (documentWeight doc + 2) * (maxDepth + 4) := by
    unfold callBound
    rw [Nat.mul_assoc, Nat.succ_mul]
  have weight : documentWeight doc + 1 < (documentWeight doc + 2) * (maxDepth + 4) := by
    simp only [maxDepth]
    omega
  omega

theorem idle_mul_le_room (doc : Document) : idle doc.components [] * span doc + span doc ≤ room doc := by
  have fewer : idle doc.components [] ≤ doc.components.length := List.length_filter_le _ _
  rw [room, Nat.succ_mul]
  exact Nat.add_le_add_right (Nat.mul_le_mul_right _ fewer) _

theorem typeOf_ends {schema : Schema} (bounded : Bounded doc) (above : room doc < n)
    (mem : schema ∈ doc.allSchemas) (finite : ¬ Endless doc.components (.type schema 0))
    (owner hint : String) (origin : Origin) :
    Ends (typeOf n ⟨doc.components, []⟩ schema owner hint origin 0) := by
  have fits := idle_mul_le_room doc
  have counted : placeRank doc (.type schema 0) ≤ (allPlaces doc).length := rank_le_length
  refine (ends_of_measure (closed_sound bounded) (callMeasure doc) callMeasure_lt n).1 ⟨mem, finite⟩ ?_
    owner hint origin
  simp only [callMeasure]
  unfold span at *
  omega

theorem memberProperties_ends_of_room (bounded : Bounded doc) (above : room doc < n) (key : String)
    (depth : Nat) : Ends (memberProperties n ⟨doc.components, []⟩ key depth).work := by
  have fits := idle_mul_le_room doc
  refine (ends_of_measure (closed_sound bounded) (callMeasure doc) callMeasure_lt n).2.2.1 trivial ?_
  simp only [callMeasure]
  unfold span at *
  omega

theorem lowerComponents_ends (bounded : Bounded doc) (above : room doc < n) :
    Ends (lowerComponents n ⟨doc.components, []⟩).work := by
  have fits := idle_mul_le_room doc
  rw [work_lowerComponents]
  refine Ends.forM fun entry mem => ?_
  refine (ends_of_measure (closed_sound bounded) (callMeasure doc) callMeasure_lt n).2.2.2 mem ?_
  simp only [callMeasure]
  unfold span at *
  omega

theorem lowerOperation_ne_unfinished {declared : Declared} (bounded : Bounded doc)
    (listed : declared ∈ declaredOperations doc) (distinct : declared.Distinct)
    (finite : ∀ schema, AsksFor declared schema → ¬ Endless doc.components (.type schema 0))
    (draft : Draft) :
    lowerOperation (callBound doc) ⟨doc.components, []⟩ declared draft ≠ .error .unfinished := by
  have spare := room_add_lt_callBound doc
  have above : room doc < callBound doc := by omega
  have types : ∀ m, room doc < m → ∀ schema, AsksFor declared schema → ∀ owner hint origin,
      Ends (typeOf m ⟨doc.components, []⟩ schema owner hint origin 0) :=
    fun m above schema asks => typeOf_ends bounded above (asks.mem_allSchemas listed) (finite schema asks)
  have parameters : Ends (lowerParameters (callBound doc) ⟨doc.components, []⟩
      (Text.capitalize declared.id)
      (mergeParameters declared.shared (declared.operation.parameters.getD []))) :=
    lowerParameters_ends fun parameter mem travels => types _ above _ (.parameter mem travels)
  have request : Ends (lowerRequest (callBound doc) ⟨doc.components, []⟩
      (Text.capitalize declared.id) declared) := by
    refine lowerRequest_ends (fun m => memberProperties_ends_of_room bounded) types ?_ above
    intro body sent form travels
    have light := weight_le_of_sentForm listed sent travels
    omega
  have responses : Ends (declared.operation.responses.mapM
      (lowerResponse (callBound doc) ⟨doc.components, []⟩ (Text.capitalize declared.id))) :=
    Ends.mapM fun entry mem => lowerResponse_ends fun media schema picked =>
      types _ above _ (.response mem picked)
  rw [lowerOperation_of_distinct distinct]
  obtain ⟨⟨_, a⟩, one⟩ := parameters draft
  obtain ⟨⟨_, b⟩, two⟩ := request a
  obtain ⟨⟨_, c⟩, three⟩ := responses b
  simp only [lowerChecked, LowerOperation.bind_eq, LowerOperation.pure_eq, ending, one, two, three,
    Except.bind]
  intro same
  cases same

theorem lowerOperations_ne_unfinished {bound : Nat} {scope : Scope} {ids : List String}
    {operations : List Declared}
    (each : ∀ declared, Attempted ids operations declared → ∀ draft,
      lowerOperation bound scope declared draft ≠ .error .unfinished) (draft : Draft) :
    lowerOperations bound scope ids operations draft ≠ .error .unfinished := by
  induction operations generalizing ids draft with
  | nil => simp [lowerOperations, LowerOperation.pure_eq]
  | cons first rest ih =>
    rw [lowerOperations, LowerOperation.bind_eq]
    by_cases distinct : first.Distinct
    · rcases lowerOperation_cases distinct draft with stuck | ⟨operation, draft', run, same⟩
      · exact absurd stuck (each first (.here distinct) draft)
      · rw [run]
        simp only [Except.bind, same]
        split
        · simp [fault]
        · rename_i fresh
          have later := ih (fun declared attempted =>
            each declared (.later distinct (by simpa using fresh) attempted)) draft'
          rw [LowerOperation.bind_eq]
          cases run' : lowerOperations bound scope (first.id :: ids) rest draft' with
          | error error => simpa [run', Except.bind] using later
          | ok result => simp [Except.bind, LowerOperation.pure_eq]
    · obtain ⟨error, finished, run⟩ := lowerOperation_of_not_distinct distinct
      rw [run]
      simpa [Except.bind] using finished

theorem Attempted.mem {ids : List String} {operations : List Declared} {declared : Declared}
    (attempted : Attempted ids operations declared) : declared ∈ operations := by
  induction attempted with
  | here => exact List.mem_cons_self
  | later _ _ _ ih => exact List.mem_cons_of_mem _ ih

theorem lowerAll_ne_unfinished
    (finite : ∀ place, Start doc place → ¬ Endless doc.components place) (draft : Draft) :
    lowerAll (callBound doc) doc draft ≠ .error .unfinished := by
  have spare := room_add_lt_callBound doc
  have bounded : Bounded doc := fun entry mem kind => finite _ (.component mem kind)
  obtain ⟨⟨⟨⟩, middle⟩, made⟩ := lowerComponents_ends bounded (n := callBound doc) (by omega) draft
  rw [lowerAll_eq, LowerOperation.bind_eq]
  simp only [ending, made, Except.bind]
  refine lowerOperations_ne_unfinished (fun declared attempted => ?_) middle
  refine lowerOperation_ne_unfinished bounded attempted.mem attempted.distinct ?_
  exact fun schema asks => finite _ (.operation attempted asks)

end Ending

theorem lowerWithin_unfinished_iff {bound : Nat} {doc : NormalDocument} :
    lowerWithin bound doc = .error .unfinished ↔
      lowerAll bound doc.document (Draft.start doc.document) = .error .unfinished := by
  have unfolded : lowerWithin bound doc =
      (lowerAll bound doc.document (Draft.start doc.document)).bind fun result =>
        .ok ⟨doc.document.info.bind (·.title), result.2.models.reverse, result.1⟩ := rfl
  rw [unfolded]
  cases lowerAll bound doc.document (Draft.start doc.document) <;> simp [Except.bind]

/-- Lowering comes to an end when nothing that it starts with is endless. When something is, and no
two components share a name, it has no end, however deep calls may be nested. -/
theorem lower_unfinished (doc : NormalDocument) :
    ((∀ place, Start doc.document place → ¬ Endless doc.document.components place) →
      lower doc ≠ .error .unfinished) ∧
    ((doc.document.components.map fun entry => typeName entry.1).Nodup →
      ∀ place, Start doc.document place → Endless doc.document.components place →
        ∀ bound, lowerWithin bound doc = .error .unfinished) := by
  constructor
  · intro finite unfinished
    exact lowerAll_ne_unfinished finite _ (lowerWithin_unfinished_iff.1 unfinished)
  · intro distinct place start endless bound
    exact lowerWithin_unfinished_iff.2 (lowerAll_unfinished distinct start endless)

def treeReference : Schema := { ref := some "#/components/schemas/Tree" }

def tree : Schema := { additional := some (.schema treeReference) }

def forest : Schema :=
  { typeNames := some (.single "object"), properties := some [("trees", treeReference)] }

/-- The values of a tree are trees, and a forest has trees. -/
def woodland : Document where
  openapi := none
  info := none
  paths := []
  schemas := some [("Tree", tree), ("Forest", forest)]
  tags := []
  source := none

/-- However deep calls may be nested, there is no API for it. -/
theorem woodland_unfinished :
    lower (.of woodland) = .error .unfinished ∧
      ∀ bound, lowerWithin bound (.of woodland) = .error .unfinished := by
  have followed : plan (NormalDocument.of woodland).document.components treeReference 0 =
      .onward (.reference "Tree") tree := rfl
  have expanded : plan (NormalDocument.of woodland).document.components tree 1 =
      .onward .values treeReference := rfl
  have again : Relation.TransGen (Needs (NormalDocument.of woodland).document.components)
      (.type treeReference 0) (.type treeReference 0) :=
    .tail (.single (.onward followed)) (.onward expanded)
  have endless : Endless (NormalDocument.of woodland).document.components (.type treeReference 0) :=
    ⟨_, .refl, again⟩
  have listed : ("Forest", forest) ∈ (NormalDocument.of woodland).document.components :=
    List.mem_cons_of_mem _ List.mem_cons_self
  have content : treeReference ∈ forest.contentsAs .record := List.mem_cons_self
  have distinct : ((NormalDocument.of woodland).document.components.map fun entry =>
      typeName entry.1).Nodup := by
    decide
  have unfinished : ∀ bound, lowerWithin bound (.of woodland) = .error .unfinished := by
    intro bound
    exact lowerWithin_unfinished_iff.2 (lowerAll_unfinished distinct
      (.component listed (by decide)) (endless.of_needs (.content content)))
  exact ⟨unfinished _, unfinished⟩

end OpenApiCodegen.Lowering
