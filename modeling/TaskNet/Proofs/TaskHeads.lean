import TaskNet.Proofs.SameLookups
import TaskNet.Proofs.SortedPreconditions

/-!
# Heads of tasks

A task that specializes nothing is called by the same text that its own clauses have for their
head, and whatever keeps the call from being written keeps the clauses from it as well. A task that
specializes a generic one is called by the name under which the clauses of the generic one define
it. What the other kind of task says of specializations is not looked at.
-/

namespace TaskNet

/-- The word that a clause of a task of this kind begins with. -/
def TaskKind.keyword : TaskKind → String
  | method => ":method"
  | operator => ":operator"

/-- A call begins with the name of its task. -/
theorem Call.text_eq (kind : TaskKind) (call : Call) :
    call.text kind = "(" ++ kind.marker ++ call.name ++ spaced call.arguments ++ ")" := by
  unfold text application
  simp only [String.append_assoc]

namespace KnowledgeBase

/-- Two knowledge bases that differ at most in the targets of one relation. -/
structure SameUpTo (relation : Relation) (knowledge knowledge' : KnowledgeBase) : Prop where
  label : ∀ entity, knowledge.label entity = knowledge'.label entity
  comment : ∀ entity, knowledge.comment entity = knowledge'.comment entity
  iri : ∀ entity, knowledge.iri entity = knowledge'.iri entity
  related : ∀ entity other, other ≠ relation →
    knowledge.related entity other = knowledge'.related entity other

/-- Agreement on all but one relation is agreement on the calls that do not look at it. -/
theorem SameUpTo.sameCall {relation : Relation} {knowledge knowledge' : KnowledgeBase}
    {kind : TaskKind} (h : SameUpTo relation knowledge knowledge')
    (hrelation : relation ∉ [kind.specialization, kind.parameters, kind.objects])
    (task : EntityId) : knowledge.SameCall knowledge' kind task := by
  simp only [List.mem_cons, List.not_mem_nil, or_false, not_or] at hrelation
  obtain ⟨hspecialization, hparameters, hobjects⟩ := hrelation
  have hsame := h.related task kind.specialization (Ne.symm hspecialization)
  have hgate {gate : Relation} (hgate : relation ≠ gate) :
      knowledge.SameArguments knowledge' task gate := by
    refine ⟨?_, fun _ => h.comment task⟩
    rw [h.related task gate (Ne.symm hgate)]
  exact
    { specialization := ⟨congrArg List.length hsame, congrArg List.head? hsame⟩
      own := fun _ => ⟨h.label task, hgate hparameters⟩
      generic := fun generic _ => h.label generic
      objects := fun _ => hgate hobjects }

end KnowledgeBase

namespace Reading

open Emission

/-- A clause of a method is written from a flow: behind the head stand what the flow requires, and
then in one pair of parentheses the methods and the operators that it calls. -/
def WritesFlow (reading : Reading) (head : String) (flow : EntityId) (clause : String) : Prop :=
  ∃ preconditions methods operators,
    (reading.renderPreconditions flow .mfHasPrecondition).outcome = .ok preconditions ∧
    (Call.textAll .method <$> reading.calls .method flow .hasPostconditionMe).outcome =
      .ok methods ∧
    (Call.textAll .operator <$> reading.calls .operator flow .hasPostconditionOp).outcome =
      .ok operators ∧
    clause = "(:method " ++ head ++ "\n" ++ preconditions ++ "\n(" ++ methods ++ operators ++ "))"

/-- A clause is one of those that define a task. -/
def Defines (reading : Reading) : TaskKind → EntityId → String → Prop
  | .method, task, clause => ∃ clauses, (reading.renderMethod task).outcome = .ok clauses ∧
      clause ∈ clauses
  | .operator, task, clause => (reading.renderOperator task).outcome = .ok clause

variable {reading : Reading} {kind : TaskKind} {task : EntityId}

/-- A task that specializes nothing is called as its clauses are headed. -/
theorem call_eq_head (h : reading.knowledge.related task kind.specialization = []) :
    reading.call kind task = reading.head kind task := by
  have hsingle : reading.single task kind.specialization = pure none := by simp [single, h]
  rw [call, hsingle, pure_bind]
  rfl

theorem renderCall_eq_head (h : reading.knowledge.related task kind.specialization = []) :
    reading.renderCall kind task = Call.text kind <$> reading.head kind task := by
  rw [renderCall, call_eq_head h]

/-- The head of the clauses of a task has the label of the task for its name. -/
theorem label_of_head {head : Call} (h : (reading.head kind task).outcome = .ok head) :
    reading.knowledge.label task = some head.name := by
  obtain ⟨name, hname, h⟩ := outcome_bind_eq_ok_iff.1 h
  obtain ⟨arguments, -, h⟩ := outcome_bind_eq_ok_iff.1 h
  rw [← Except.ok.inj h]
  exact outcome_label_eq_ok_iff.1 hname

/-- A call of a specialized task has the label of the generic one for its name. -/
theorem label_of_call {generic : EntityId} {call : Call}
    (hgeneric : (reading.knowledge.related task kind.specialization).head? = some generic)
    (h : (reading.call kind task).outcome = .ok call) :
    reading.knowledge.label generic = some call.name := by
  obtain ⟨target, htarget, h⟩ := outcome_bind_eq_ok_iff.1 h
  obtain rfl := (eq_head?_of_single htarget).trans hgeneric
  obtain ⟨name, hname, h⟩ := outcome_bind_eq_ok_iff.1 h
  obtain ⟨arguments, -, h⟩ := outcome_bind_eq_ok_iff.1 h
  rw [← Except.ok.inj h]
  exact outcome_label_eq_ok_iff.1 hname

/-- A method is read as its head and one clause for each flow. -/
theorem outcome_method_eq_ok {clauses : List MethodClause}
    (h : (reading.method task).outcome = .ok clauses) :
    ∃ head, (reading.head .method task).outcome = .ok head ∧
      List.Forall₂ (fun flow clause => (reading.flow head flow).outcome = .ok clause)
        (reading.knowledge.related task .hasFlow) clauses := by
  obtain ⟨head, hhead, h⟩ := outcome_bind_eq_ok_iff.1 h
  refine ⟨head, hhead, outcome_forEach_eq_ok_iff.1 ?_⟩
  by_cases hnone : reading.knowledge.related task .hasFlow = []
  · simp only [if_pos hnone] at h
    obtain ⟨-, -, hflows⟩ := outcome_bind_eq_ok_iff.1 h
    exact hflows
  · simpa only [if_neg hnone] using h

theorem writesFlow_of_flow {head : Call} {flow : EntityId} {clause : MethodClause}
    (h : (reading.flow head flow).outcome = .ok clause) :
    reading.WritesFlow (head.text .method) flow clause.text := by
  obtain ⟨preconditions, hpreconditions, h⟩ := outcome_bind_eq_ok_iff.1 h
  obtain ⟨methods, hmethods, h⟩ := outcome_bind_eq_ok_iff.1 h
  obtain ⟨operators, hoperators, h⟩ := outcome_bind_eq_ok_iff.1 h
  obtain rfl := Except.ok.inj h
  refine ⟨Literal.group preconditions, Call.textAll .method methods,
    Call.textAll .operator operators, ?_, ?_, ?_, rfl⟩
  · exact outcome_map_eq_ok_iff.2 ⟨preconditions, hpreconditions, rfl⟩
  · exact outcome_map_eq_ok_iff.2 ⟨methods, hmethods, rfl⟩
  · exact outcome_map_eq_ok_iff.2 ⟨operators, hoperators, rfl⟩

/-- Methods are written as their heads and one clause for each flow, in the order of the flows. -/
theorem exists_head_of_renderMethod {clauses : List String}
    (h : (reading.renderMethod task).outcome = .ok clauses) :
    ∃ head, (reading.head .method task).outcome = .ok head ∧
      List.Forall₂ (reading.WritesFlow (head.text .method))
        (reading.knowledge.related task .hasFlow) clauses := by
  obtain ⟨forms, hforms, rfl⟩ := outcome_map_eq_ok_iff.1 h
  obtain ⟨head, hhead, hflows⟩ := outcome_method_eq_ok hforms
  refine ⟨head, hhead, List.forall₂_map_right_iff.2 ?_⟩
  exact hflows.imp fun flow clause hflow => writesFlow_of_flow hflow

theorem exists_head_of_renderOperator {clause : String}
    (h : (reading.renderOperator task).outcome = .ok clause) :
    ∃ head rest, (reading.head .operator task).outcome = .ok head ∧
      clause = "(:operator " ++ head.text .operator ++ "\n" ++ rest := by
  obtain ⟨form, hform, rfl⟩ := outcome_map_eq_ok_iff.1 h
  obtain ⟨head, hhead, h⟩ := outcome_bind_eq_ok_iff.1 hform
  obtain ⟨preconditions, -, h⟩ := outcome_bind_eq_ok_iff.1 h
  obtain ⟨deletes, -, h⟩ := outcome_bind_eq_ok_iff.1 h
  obtain ⟨adds, -, h⟩ := outcome_bind_eq_ok_iff.1 h
  obtain rfl := Except.ok.inj h
  refine ⟨head, Literal.group preconditions ++ "\n" ++ Literal.group deletes ++ "\n" ++
    Literal.group adds ++ ")", hhead, ?_⟩
  unfold OperatorClause.text
  simp only [String.append_assoc]

/-- Whatever defines a task begins with its head. -/
theorem Defines.exists_head {clause : String} (h : reading.Defines kind task clause) :
    ∃ head rest, (reading.head kind task).outcome = .ok head ∧
      clause = "(" ++ kind.keyword ++ " " ++ head.text kind ++ "\n" ++ rest := by
  cases kind with
  | method =>
    obtain ⟨clauses, hclauses, hmem⟩ := h
    obtain ⟨head, hhead, hflows⟩ := exists_head_of_renderMethod hclauses
    obtain ⟨flow, -, preconditions, methods, operators, -, -, -, rfl⟩ :=
      exists_of_mem_of_forall₂ hflows clause hmem
    refine ⟨head, preconditions ++ "\n(" ++ methods ++ operators ++ "))", hhead, ?_⟩
    simp only [String.append_assoc]
    rfl
  | operator => exact exists_head_of_renderOperator h

/-- What keeps the head of a task from being read keeps its clauses from being written. -/
theorem renderMethod_error_of_head {error : EmitError}
    (h : (reading.head .method task).outcome = .error error) :
    (reading.renderMethod task).outcome = .error error :=
  outcome_map_eq_error_iff.2 (outcome_bind_eq_error_iff.2 (.inl h))

theorem renderOperator_error_of_head {error : EmitError}
    (h : (reading.head .operator task).outcome = .error error) :
    (reading.renderOperator task).outcome = .error error :=
  outcome_map_eq_error_iff.2 (outcome_bind_eq_error_iff.2 (.inl h))

end Reading

/-- Calls and clauses name the same task. A task that specializes nothing is called by the head of
its clauses: of a method there is one clause for each flow, in the order of the flows, and all of
them have this head; what keeps the call from being written keeps the clauses from it. A call of a
task that specializes a generic one names the generic one by its label, as the clauses do that
define it. What is said of specializations of the other kind makes no difference to a call. -/
theorem calls_name_what_clauses_define (reading : Reading) :
    (∀ method, reading.knowledge.related method .meSpecializationOf = [] →
      (∀ clauses, (reading.renderMethod method).outcome = .ok clauses →
        ∃ head, (reading.renderCall .method method).outcome = .ok head ∧
          List.Forall₂ (reading.WritesFlow head) (reading.knowledge.related method .hasFlow)
            clauses) ∧
      ∀ error, (reading.renderCall .method method).outcome = .error error →
        (reading.renderMethod method).outcome = .error error) ∧
    (∀ operator, reading.knowledge.related operator .opSpecializationOf = [] →
      (∀ clause, (reading.renderOperator operator).outcome = .ok clause →
        ∃ head rest, (reading.renderCall .operator operator).outcome = .ok head ∧
          clause = "(:operator " ++ head ++ "\n" ++ rest) ∧
      ∀ error, (reading.renderCall .operator operator).outcome = .error error →
        (reading.renderOperator operator).outcome = .error error) ∧
    (∀ kind task generic text,
      (reading.knowledge.related task kind.specialization).head? = some generic →
        (reading.renderCall kind task).outcome = .ok text →
          ∃ name, reading.knowledge.label generic = some name ∧
            (∃ objects, text = "(" ++ kind.marker ++ name ++ spaced objects ++ ")") ∧
            ∀ clause, reading.Defines kind generic clause → ∃ parameters rest,
              clause = "(" ++ kind.keyword ++ " (" ++ kind.marker ++ name ++ spaced parameters ++
                ")\n" ++ rest) ∧
    ∀ kind other task knowledge', other ≠ kind →
      reading.knowledge.SameUpTo other.specialization knowledge' →
        reading.renderCall kind task =
          Reading.renderCall ⟨knowledge', reading.strict⟩ kind task := by
  refine ⟨fun method hnone => ⟨fun clauses hclauses => ?_, fun error herror => ?_⟩,
    fun operator hnone => ⟨fun clause hclause => ?_, fun error herror => ?_⟩,
    fun kind task generic text hgeneric htext => ?_,
    fun kind other task knowledge' hother hsame => ?_⟩
  · obtain ⟨head, hhead, hflows⟩ := Reading.exists_head_of_renderMethod hclauses
    refine ⟨head.text .method, ?_, hflows⟩
    rw [Reading.renderCall_eq_head hnone]
    exact Emission.outcome_map_eq_ok_iff.2 ⟨head, hhead, rfl⟩
  · rw [Reading.renderCall_eq_head hnone, Emission.outcome_map_eq_error_iff] at herror
    exact Reading.renderMethod_error_of_head herror
  · obtain ⟨head, rest, hhead, hclause⟩ := Reading.exists_head_of_renderOperator hclause
    refine ⟨head.text .operator, rest, ?_, hclause⟩
    rw [Reading.renderCall_eq_head hnone]
    exact Emission.outcome_map_eq_ok_iff.2 ⟨head, hhead, rfl⟩
  · rw [Reading.renderCall_eq_head hnone, Emission.outcome_map_eq_error_iff] at herror
    exact Reading.renderOperator_error_of_head herror
  · obtain ⟨call, hcall, rfl⟩ := Emission.outcome_map_eq_ok_iff.1 htext
    have hname := Reading.label_of_call hgeneric hcall
    refine ⟨call.name, hname, ⟨call.arguments, call.text_eq kind⟩, fun clause hclause => ?_⟩
    obtain ⟨head, rest, hhead, rfl⟩ := hclause.exists_head
    have hsame := (Reading.label_of_head hhead).symm.trans hname
    refine ⟨head.arguments, rest, ?_⟩
    have hopened : " (" = " " ++ "(" := rfl
    have hclosed : ")\n" = ")" ++ "\n" := rfl
    rw [head.text_eq, Option.some.inj hsame, hopened, hclosed]
    simp only [String.append_assoc]
  · have hunread : other.specialization ∉
        [kind.specialization, kind.parameters, kind.objects] := by
      cases kind with
      | method =>
        cases other with
        | method => exact absurd rfl hother
        | operator => decide
      | operator =>
        cases other with
        | method => decide
        | operator => exact absurd rfl hother
    unfold Reading.renderCall
    rw [← Reading.call_congr hsame.iri (hsame.sameCall hunread task)]

/-- A method with two flows that also specializes the operator as if it were one, the operator, and
a task that specializes the method. The list is that of whatever specializes an operator. -/
def ferry (generics : List EntityId) : KnowledgeBase where
  entitiesOfKind _ := []
  related entity relation :=
    match entity.slot, relation with
    | 0, .hasFlow => [.ofSlot 3, .ofSlot 4]
    | 0, .meHasParameter => [.ofSlot 5]
    | 0, .opSpecializationOf => generics
    | 1, .opHasParameter => [.ofSlot 5]
    | 2, .meSpecializationOf => [.ofSlot 0]
    | 2, .meHasObject => [.ofSlot 5]
    | 2, .opSpecializationOf => generics
    | 3, .hasPostconditionOp => [.ofSlot 1]
    | 4, .hasPostconditionMe => [.ofSlot 2]
    | _, _ => []
  label entity :=
    match entity.slot with
    | 0 => some "cross"
    | 1 => some "sail"
    | _ => none
  comment _ := some "Parameters: [car] Objects: [van]"
  iri _ := none

theorem ferry_sameUpTo (generics generics' : List EntityId) :
    (ferry generics).SameUpTo .opSpecializationOf (ferry generics') where
  label _ := rfl
  comment _ := rfl
  iri _ := rfl
  related entity other hother := by
    simp only [ferry]
    split <;> simp_all

/-- The method is called by the head of its two clauses, the operator by the head of its clause and
the specialization by the name of the method, whatever else specializes an operator. -/
theorem ferry_calls_and_clauses :
    (∃ head, (Reading.renderCall ⟨ferry [.ofSlot 1], true⟩ .method (.ofSlot 0)).outcome = .ok head ∧
      List.Forall₂ (Reading.WritesFlow ⟨ferry [.ofSlot 1], true⟩ head) [.ofSlot 3, .ofSlot 4]
        ["(:method (cross ?car)\n()\n((!sail ?car)))",
          "(:method (cross ?car)\n()\n((cross van)))"]) ∧
    (∃ head rest,
      (Reading.renderCall ⟨ferry [], true⟩ .operator (.ofSlot 1)).outcome = .ok head ∧
        "(:operator (!sail ?car)\n()\n()\n())" = "(:operator " ++ head ++ "\n" ++ rest) ∧
    (∃ name, (ferry []).label (.ofSlot 0) = some name ∧
      ∃ objects, "(cross van)" = "(" ++ "" ++ name ++ spaced objects ++ ")") ∧
    Reading.renderCall ⟨ferry [], true⟩ .method (.ofSlot 2) =
      Reading.renderCall ⟨ferry [.ofSlot 1, .ofSlot 0], true⟩ .method (.ofSlot 2) := by
  obtain ⟨hmethod, -, -, -⟩ := calls_name_what_clauses_define ⟨ferry [.ofSlot 1], true⟩
  obtain ⟨-, hoperator, hspecialized, hcross⟩ := calls_name_what_clauses_define ⟨ferry [], true⟩
  refine ⟨?_, ?_, ?_, ?_⟩
  · exact (hmethod (.ofSlot 0) rfl).1 _ rfl
  · exact (hoperator (.ofSlot 1) rfl).1 _ rfl
  · obtain ⟨name, hname, hobjects, -⟩ := hspecialized .method (.ofSlot 2) (.ofSlot 0) _ rfl rfl
    exact ⟨name, hname, hobjects⟩
  · exact hcross .method .operator (.ofSlot 2) _ (by decide) (ferry_sameUpTo _ _)

end TaskNet
