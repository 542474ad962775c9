import OpenApiCodegen.Proofs.Lowering.CallMeasure
import OpenApiCodegen.Proofs.Lowering.InheritedNames
import OpenApiCodegen.Proofs.Lowering.Starts

namespace OpenApiCodegen.Lowering

open Api
open OpenApi (Schema SchemaKind Document NormalDocument componentName)

def Call.Inside (doc : Document) : Call → Prop
  | .type schema _ _ => schema ∈ doc.allSchemas
  | .model _ schema _ _ => schema ∈ doc.allSchemas
  | .member _ _ _ => True
  | .component key schema _ _ => (key, schema) ∈ doc.components

structure Begun (doc : Document) (call : Call) : Prop where
  inside : call.Inside doc
  busy : call.Busy doc.components

section Calls

variable {doc : Document} {schema : Schema} {depth : Nat} {active : List String} {kind : SchemaKind}
  {call call' : Call}

theorem Call.Inside.step (inside : call.Inside doc) (calls : Calls doc.components call call') :
    call'.Inside doc := by
  cases calls with
  | onward planned =>
    rcases plan_onward planned with ⟨key, looked⟩ | child
    · exact mem_allSchemas_of_component (mem_of_lookup looked)
    · exact OpenApi.Document.children_subset_allSchemas inside child
  | made => exact inside
  | content mem =>
    rcases mem_children_of_contentsAs mem with child | ⟨member, child, deeper⟩
    · exact OpenApi.Document.children_subset_allSchemas inside child
    · have whole := OpenApi.Document.children_subset_allSchemas inside child
      exact OpenApi.Document.children_subset_allSchemas whole deeper
  | reference => trivial
  | hop => trivial
  | lower _ looked => exact mem_of_lookup looked
  | entered => exact mem_allSchemas_of_component inside

theorem closed_begun (doc : Document) : Closed doc.components (Begun doc) := by
  rintro call call' ⟨inside, busy⟩ calls
  have listed : Listed doc.components call := by
    cases call with
    | component => exact inside
    | _ => trivial
  exact ⟨inside.step calls, busy.step listed calls⟩

theorem begun_of_idle (inside : call.Inside doc) (idle : call.active = []) : Begun doc call :=
  ⟨inside, by simp [Call.Busy, idle]⟩

end Calls

theorem steps_of_lower {doc : NormalDocument} {api : Api} {R : List String → Draft → Draft → Prop}
    (steps : Steps doc.document.components (Begun doc.document) R) (run : lower doc = .ok api) :
    ∃ draft, R [] (Draft.start doc.document) draft ∧ api.models = draft.models.reverse := by
  have closed : Closed doc.document.components (Begun doc.document) := closed_begun doc.document
  have composes := steps.composes []
  obtain ⟨operations, middle, draft, components, rest, models, -⟩ := lower_run run
  refine ⟨draft, ?_, models⟩
  have made : R [] (Draft.start doc.document) middle := by
    rw [work_lowerComponents] at components
    refine (forM_run composes (fun entry mem draft draft' run => ?_) components).1
    exact (steps_of_run closed steps _).2.2.2 (begun_of_idle mem rfl) run
  have kept : ∀ declared ∈ declaredOperations doc.document,
      KeepsAsked (R []) ⟨doc.document.components, []⟩ declared :=
    fun _ listed => keepsAsked_of_runs composes (steps_of_run closed steps)
      (fun _ mem => begun_of_idle mem rfl) (fun _ _ => begun_of_idle trivial rfl) listed
  refine composes.trans made (runs_of_lowerOperations composes ?_ rest).1
  exact fun declared listed _ _ _ one => lowerOperation_keeps (kept declared listed) one

/-- The model is what the schema became while components were active, and no other models were there
than these. -/
inductive Made (components : List (String × Schema)) (models : List Model) (active : List String)
    (depth : Nat) (kind : SchemaKind) (schema : Schema) (model : Model) : Prop
  | intro {n : Nat} {name : String} {origin : Origin} {before after : Draft} :
      modelOf n ⟨components, active⟩ kind name schema origin depth before = some (model, after) →
        after.models ⊆ models → Made components models active depth kind schema model

/-- The model was made of a schema of the document, for itself or inside a composition. -/
inductive MadeIn (doc : Document) (models : List Model) (model : Model) : Prop
  | intro {active : List String} {depth : Nat} {kind : SchemaKind} {schema : Schema} :
      schema ∈ doc.allSchemas → Unnamed (Begun doc) active kind schema depth →
        Made doc.components models active depth kind schema model → MadeIn doc models model

section Models

variable {doc : Document} {draft draft' : Draft} {model : Model} {models models' : List Model}
  {active : List String} {depth : Nat} {kind : SchemaKind} {schema : Schema}

theorem Unnamed.mem_allSchemas (unnamed : Unnamed (Begun doc) active kind schema depth) :
    schema ∈ doc.allSchemas := by
  rcases unnamed with asked | ⟨whole, asked, inside⟩
  · exact asked.inside
  · refine OpenApi.Document.children_subset_allSchemas asked.inside ?_
    have listed := List.mem_of_mem_filter inside
    simp [Schema.children, listed]

theorem Made.mono {components : List (String × Schema)}
    (made : Made components models active depth kind schema model) (more : models ⊆ models') :
    Made components models' active depth kind schema model := by
  obtain ⟨run, less⟩ := made
  exact ⟨run, List.Subset.trans less more⟩

theorem MadeIn.mono (made : MadeIn doc models model) (more : models ⊆ models') :
    MadeIn doc models' model := by
  obtain ⟨inside, called, made⟩ := made
  exact ⟨inside, called, made.mono more⟩

theorem allMade_push (all : ∀ other ∈ draft.models, MadeIn doc draft.models other)
    (made : MadeIn doc draft.models model) :
    ∀ other ∈ (draft.push model).models, MadeIn doc (draft.push model).models other := by
  have more : draft.models ⊆ (draft.push model).models := List.subset_cons_self model _
  intro other mem
  rcases List.mem_cons.1 mem with rfl | mem
  · exact made.mono more
  · exact (all other mem).mono more

theorem allMade_steps (doc : Document) : Steps doc.components (Begun doc) fun _ draft draft' =>
    (∀ model ∈ draft.models, MadeIn doc draft.models model) →
      ∀ model ∈ draft'.models, MadeIn doc draft'.models model where
  composes _ := ⟨fun _ => id, fun first second all => second (first all)⟩
  inline unnamed _ within run all :=
    allMade_push (within all) ⟨unnamed.mem_allSchemas, unnamed, run, List.Subset.refl _⟩
  component called free kind _ within run all := by
    have goes : Begun doc _ := closed_begun doc called (.entered free kind)
    exact allMade_push (within all) ⟨goes.inside, .inl goes, run, List.Subset.refl _⟩

theorem madeIn_of_lower {doc : NormalDocument} {api : Api} (run : lower doc = .ok api) :
    ∀ model ∈ api.models, MadeIn doc.document api.models model := by
  obtain ⟨draft, all, models⟩ := steps_of_lower (allMade_steps doc.document) run
  have same : ∀ other, other ∈ api.models ↔ other ∈ draft.models := by simp [models]
  intro model mem
  exact (all nofun model ((same model).1 mem)).mono fun other => (same other).2

end Models

end OpenApiCodegen.Lowering
