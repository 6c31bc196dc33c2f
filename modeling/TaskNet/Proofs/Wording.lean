import TaskNet.Reading.Text

/-!
# What forms are made of

Every name in a form that is read from a knowledge base is a label of it, and every argument is an
entry of an argument list, as it is written. A condition on the labels and entries of a knowledge
base is therefore a condition on the names and arguments of everything that can be read from it.
-/

namespace TaskNet

/-! ### What an emission yields -/

namespace Emission

variable {α β : Type} {P : α → Prop} {Q : β → Prop}

/-- Whatever value an emission yields satisfies the condition. -/
def Yields (emission : Emission α) (P : α → Prop) : Prop :=
  ∀ value, emission.outcome = .ok value → P value

theorem yields_pure {value : α} (h : P value) : Yields (pure value) P := by
  intro other hother
  cases hother
  exact h

theorem yields_fail (error : EmitError) : Yields (fail error) P := nofun

theorem Yields.bind {emission : Emission α} {next : α → Emission β} (hfirst : emission.Yields P)
    (hnext : ∀ value, P value → (next value).Yields Q) : (emission >>= next).Yields Q := by
  obtain ⟨warnings, error | first⟩ := emission
  · exact nofun
  · intro value hvalue
    exact hnext first (hfirst first rfl) value hvalue

/-- Nothing needs to be known of the first value if every value leads on. -/
theorem yields_bind {emission : Emission α} {next : α → Emission β}
    (hnext : ∀ value, (next value).Yields Q) : (emission >>= next).Yields Q :=
  Yields.bind (P := fun _ => True) (fun _ _ => trivial) fun value _ => hnext value

theorem Yields.map {emission : Emission α} {f : α → β} (h : emission.Yields fun value => Q (f value)) :
    (f <$> emission).Yields Q := by
  rw [map_eq_pure_bind]
  exact h.bind fun _ => yields_pure

/-- What holds of every entry's value holds of all values of a list. -/
theorem yields_forEach {read : β → Emission α} {entries : List β}
    (h : ∀ entry, (read entry).Yields P) :
    (forEach read entries).Yields fun values => ∀ value ∈ values, P value := by
  induction entries with
  | nil => exact yields_pure (by simp)
  | cons entry rest ih =>
    refine (h entry).bind fun value hvalue => ih.bind fun values hvalues => yields_pure ?_
    exact List.forall_mem_cons.2 ⟨hvalue, hvalues⟩

end Emission

/-! ### Conditions on names and arguments -/

/-- Which texts may stand in a form. -/
structure Wording where
  /-- The texts that may be names. -/
  IsName : String → Prop
  /-- The texts that may be arguments, as they are written. -/
  IsArgument : String → Prop

namespace Wording

variable (words : Wording)

/-- Every argument is allowed. -/
def AllowsArguments (arguments : List String) : Prop :=
  ∀ argument ∈ arguments, words.IsArgument argument

/-- The name and the arguments of a literal are allowed. -/
def AllowsLiteral (literal : Literal) : Prop :=
  words.IsName literal.name ∧ words.AllowsArguments literal.arguments

/-- The name and the arguments of a call are allowed. -/
def AllowsCall (call : Call) : Prop :=
  words.IsName call.name ∧ words.AllowsArguments call.arguments

/-- Everything in the clause of a method is allowed. -/
structure AllowsMethodClause (clause : MethodClause) : Prop where
  head : words.AllowsCall clause.head
  preconditions : ∀ literal ∈ clause.preconditions, words.AllowsLiteral literal
  methods : ∀ call ∈ clause.methods, words.AllowsCall call
  operators : ∀ call ∈ clause.operators, words.AllowsCall call

/-- Everything in the clause of an operator is allowed. -/
structure AllowsOperatorClause (clause : OperatorClause) : Prop where
  head : words.AllowsCall clause.head
  preconditions : ∀ literal ∈ clause.preconditions, words.AllowsLiteral literal
  deletes : ∀ literal ∈ clause.deletes, words.AllowsLiteral literal
  adds : ∀ literal ∈ clause.adds, words.AllowsLiteral literal

/-- Everything in a domain is allowed. -/
structure AllowsDomain (form : DomainForm) : Prop where
  name : words.IsName form.name
  methods : ∀ clause ∈ form.methods, words.AllowsMethodClause clause
  operators : ∀ clause ∈ form.operators, words.AllowsOperatorClause clause

/-- Everything in a problem is allowed. -/
structure AllowsProblem (form : ProblemForm) : Prop where
  name : words.IsName form.name
  domain : words.IsName form.domain
  initialStates : ∀ state ∈ form.initialStates, ∀ literal ∈ state, words.AllowsLiteral literal
  goals : ∀ goal ∈ form.goals, ∀ call ∈ goal, words.AllowsCall call

/-- All labels of a knowledge base may be names, and all entries of the argument lists in its
comments may be arguments. -/
structure AllowsKnowledge (knowledge : KnowledgeBase) : Prop where
  label : ∀ entity label, knowledge.label entity = some label → words.IsName label
  argument : ∀ entity comment kind tokens, knowledge.comment entity = some comment →
    ArgumentList.extract kind comment = .ok tokens →
    ∀ token ∈ tokens, words.IsArgument (kind.written token)

end Wording

/-! ### What readings yield -/

namespace Reading

open Emission Wording

variable {reading : Reading} {words : Wording}

theorem yields_label (h : words.AllowsKnowledge reading.knowledge) (entity : EntityId) :
    (reading.label entity).Yields words.IsName := by
  unfold label
  split
  · next label hlabel => exact yields_pure (h.label entity label hlabel)
  · exact yields_fail _

theorem yields_listed (h : words.AllowsKnowledge reading.knowledge) (entity : EntityId)
    (kind : ListKind) : (reading.listed entity kind).Yields words.AllowsArguments := by
  have htokens : (reading.fromComment entity (ArgumentList.extract kind)).Yields
      fun tokens => ∀ token ∈ tokens, words.IsArgument (kind.written token) := by
    unfold fromComment
    cases hcomment : reading.knowledge.comment entity with
    | none => exact yields_fail _
    | some comment =>
      cases hextract : ArgumentList.extract kind comment with
      | error fault =>
        simp only [hextract]
        exact yields_fail _
      | ok tokens =>
        simp only [hextract]
        exact yields_pure (h.argument entity comment kind tokens hcomment hextract)
  refine htokens.bind fun tokens hallowed => yields_pure ?_
  exact List.forall_mem_map.2 hallowed

theorem yields_arguments (h : words.AllowsKnowledge reading.knowledge) (entity : EntityId)
    (relation : Relation) (kind : ListKind) :
    (reading.arguments entity relation kind).Yields words.AllowsArguments := by
  unfold arguments
  split
  · exact yields_pure (by simp [AllowsArguments])
  · exact yields_listed h entity kind

theorem yields_positive (h : words.AllowsKnowledge reading.knowledge) (predicate : EntityId) :
    (reading.positive predicate).Yields words.AllowsLiteral := by
  refine yields_bind fun generic => ?_
  cases generic with
  | none =>
    exact (yields_label h predicate).bind fun name hname =>
      (yields_arguments h predicate _ _).bind fun arguments harguments =>
        yields_pure ⟨hname, harguments⟩
  | some generic =>
    refine (yields_label h generic).bind fun name hname => ?_
    refine yields_bind fun mode => ?_
    have hliteral (arguments : List String) (harguments : words.AllowsArguments arguments) :
        (pure { name, arguments } : Emission Literal).Yields words.AllowsLiteral :=
      yields_pure ⟨hname, harguments⟩
    cases mode with
    | objects => exact (yields_arguments h predicate _ _).bind hliteral
    | parameters => exact (yields_arguments h predicate _ _).bind hliteral
    | mixed => exact (yields_listed h predicate _).bind hliteral

/-- Negation takes name and arguments from the counterpart, and both from its labels and lists. -/
theorem yields_literal (h : words.AllowsKnowledge reading.knowledge) (predicate : EntityId) :
    (reading.literal predicate).Yields words.AllowsLiteral := by
  refine yields_bind fun counterpart => ?_
  cases counterpart with
  | none => exact yields_positive h predicate
  | some counterpart =>
    exact (yields_positive h counterpart).bind fun literal hliteral => yields_pure hliteral

theorem yields_literals (h : words.AllowsKnowledge reading.knowledge) (predicates : List EntityId) :
    (reading.literals predicates).Yields fun literals =>
      ∀ literal ∈ literals, words.AllowsLiteral literal :=
  yields_forEach (yields_literal h)

theorem yields_call (h : words.AllowsKnowledge reading.knowledge) (kind : TaskKind)
    (task : EntityId) : (reading.call kind task).Yields words.AllowsCall := by
  refine yields_bind fun generic => ?_
  cases generic with
  | none =>
    exact (yields_label h task).bind fun name hname =>
      (yields_arguments h task _ _).bind fun arguments harguments => yields_pure ⟨hname, harguments⟩
  | some generic =>
    exact (yields_label h generic).bind fun name hname =>
      (yields_arguments h task _ _).bind fun arguments harguments => yields_pure ⟨hname, harguments⟩

theorem yields_calls (h : words.AllowsKnowledge reading.knowledge) (kind : TaskKind)
    (entity : EntityId) (relation : Relation) :
    (reading.calls kind entity relation).Yields fun calls => ∀ call ∈ calls, words.AllowsCall call :=
  yields_forEach (yields_call h kind)

/-- Sorting preconditions into two groups adds nothing to them. -/
theorem yields_preconditions (h : words.AllowsKnowledge reading.knowledge) (entity : EntityId)
    (relation : Relation) :
    (reading.preconditions entity relation).Yields fun literals =>
      ∀ literal ∈ literals, words.AllowsLiteral literal := by
  have hentry (predicate : EntityId) :
      (reading.precondition predicate).Yields fun entry => words.AllowsLiteral entry.2 :=
    (yields_label h predicate).bind fun label _ =>
      (yields_literal h predicate).bind fun literal hliteral => yields_pure hliteral
  rw [preconditions_eq_map]
  refine Yields.map fun entries hentries literal hliteral => ?_
  obtain ⟨entry, hmem, rfl⟩ := List.mem_map.1 hliteral
  rw [List.mem_append, List.mem_filter, List.mem_filter] at hmem
  exact yields_forEach hentry entries hentries entry (hmem.elim And.left And.left)

theorem yields_head (h : words.AllowsKnowledge reading.knowledge) (kind : TaskKind)
    (task : EntityId) : (reading.head kind task).Yields words.AllowsCall :=
  (yields_label h task).bind fun _ hname =>
    (yields_arguments h task _ _).bind fun _ harguments => yields_pure ⟨hname, harguments⟩

theorem yields_flow (h : words.AllowsKnowledge reading.knowledge) {head : Call}
    (hhead : words.AllowsCall head) (flow : EntityId) :
    (reading.flow head flow).Yields words.AllowsMethodClause :=
  (yields_preconditions h flow _).bind fun _ hpreconditions =>
    (yields_calls h .method flow _).bind fun _ hmethods =>
      (yields_calls h .operator flow _).bind fun _ hoperators =>
        yields_pure ⟨hhead, hpreconditions, hmethods, hoperators⟩

theorem yields_method (h : words.AllowsKnowledge reading.knowledge) (method : EntityId) :
    (reading.method method).Yields fun clauses =>
      ∀ clause ∈ clauses, words.AllowsMethodClause clause := by
  refine (yields_head h .method method).bind fun head hhead => ?_
  have hflows : (forEach (reading.flow head) (reading.knowledge.related method .hasFlow)).Yields
      fun clauses => ∀ clause ∈ clauses, words.AllowsMethodClause clause :=
    yields_forEach (yields_flow h hhead)
  by_cases hnone : reading.knowledge.related method .hasFlow = []
  · simp only [if_pos hnone]
    exact yields_bind fun _ => hflows
  · simp only [if_neg hnone]
    exact hflows

theorem yields_operator (h : words.AllowsKnowledge reading.knowledge) (operator : EntityId) :
    (reading.operator operator).Yields words.AllowsOperatorClause :=
  (yields_head h .operator operator).bind fun _ hhead =>
    (yields_preconditions h operator _).bind fun _ hpreconditions =>
      (yields_literals h _).bind fun _ hdeletes =>
        (yields_literals h _).bind fun _ hadds =>
          yields_pure ⟨hhead, hpreconditions, hdeletes, hadds⟩

/-- A domain that is read has only labels for names and only list entries for arguments. -/
theorem yields_domain (h : words.AllowsKnowledge reading.knowledge) (domain : EntityId) :
    (reading.domain domain).Yields words.AllowsDomain := by
  refine (yields_label h domain).bind fun name hname =>
    (yields_forEach (yields_method h)).bind fun methods hmethods =>
      (yields_forEach (yields_operator h)).bind fun operators hoperators =>
        yields_pure ⟨hname, ?_, hoperators⟩
  intro clause hclause
  obtain ⟨clauses, hclauses, hmem⟩ := List.mem_flatten.1 hclause
  exact hmethods clauses hclauses clause hmem

/-- A problem that is read has only labels for names and only list entries for arguments. -/
theorem yields_problem (h : words.AllowsKnowledge reading.knowledge) (problem : EntityId) :
    (reading.problem problem).Yields words.AllowsProblem := by
  refine (yields_label h problem).bind fun name hname => ?_
  refine yields_bind fun domain => ?_
  cases domain with
  | none => exact yields_fail _
  | some domain =>
    refine (yields_label h domain).bind fun domainName hdomain => ?_
    refine yields_bind fun states => yields_bind fun goals => ?_
    exact (yields_forEach fun state => yields_literals h _).bind fun initialStates hstates =>
      (yields_forEach fun goal => yields_calls h _ goal _).bind fun goals hgoals =>
        yields_pure ⟨hname, hdomain, hstates, hgoals⟩

end Reading

end TaskNet
