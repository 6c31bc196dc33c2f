import TaskNet.Proofs.SelfDelimitingForms
import TaskNet.Proofs.Wording

/-!
# Definitions can be told from their texts

If the labels and list entries of a knowledge base are symbols, and no label begins with an
exclamation mark, then the text of a domain definition tells the domain that was read. The text of
a problem definition tells the problem up to the grouping of its tasks into goals, which is not
written.
-/

namespace TaskNet

open Text (SelfDelimiting IsSymbol)

/-! ### Domains -/

theorem DomainForm.toList_text (form : DomainForm) : form.text.toList =
    "(defdomain ".toList ++ (form.name.toList ++ (" (".toList ++
      ((form.methods.flatMap (fun clause => '\n' :: (clause.text.toList ++ ['\n'])) ++
        form.operators.flatMap fun clause => '\n' :: (clause.text.toList ++ ['\n'])) ++
          "))\n".toList))) := by
  have hbreak : "\n".toList = ['\n'] := rfl
  unfold DomainForm.text DomainForm.clauseTexts
  simp only [String.toList_append, String.toList_join, List.map_append, List.map_map,
    List.flatMap_append, List.flatMap_map, Function.comp_apply, List.append_assoc, hbreak,
    List.cons_append, List.nil_append]

/-- What is written between two line breaks is told as well as without them. -/
theorem selfDelimiting_lines {α : Type} {write : α → List Char} {Good : α → Prop}
    (h : SelfDelimiting write Good fun _ => True) :
    SelfDelimiting (fun value => '\n' :: (write value ++ ['\n'])) Good fun _ => True := by
  intro a b x y ha hb _ _ heq
  simp only [List.cons_append, List.append_assoc, List.cons.injEq, true_and] at heq
  obtain ⟨rfl, hbreak⟩ := h ha hb trivial trivial heq
  exact ⟨rfl, (List.cons.inj hbreak).2⟩

/-- Clauses of methods followed by clauses of operators are told apart. -/
theorem selfDelimiting_clauses :
    SelfDelimiting
      (fun clauses : List MethodClause × List OperatorClause =>
        clauses.1.flatMap (fun clause => '\n' :: (clause.text.toList ++ ['\n'])) ++
          clauses.2.flatMap fun clause => '\n' :: (clause.text.toList ++ ['\n']))
      (fun clauses => (∀ clause ∈ clauses.1, symbols.AllowsMethodClause clause) ∧
        ∀ clause ∈ clauses.2, symbols.AllowsOperatorClause clause) Closes := by
  refine (selfDelimiting_lines selfDelimiting_methodClause).append_flatMap
    (selfDelimiting_lines selfDelimiting_operatorClause) ?_ (fun clause _ => ⟨_, rfl⟩)
    (fun clause _ => ⟨_, rfl⟩) (fun _ => trivial) fun x hx => ⟨trivial, hx.ne_cons (by decide)⟩
  intro clause clause' x y _ _ _ _ h
  simp only [List.cons_append, List.append_assoc, List.cons.injEq, true_and] at h
  exact methodClause_ne_operatorClause clause clause' _ _ h

/-- A domain of symbols can be told from its text. -/
theorem DomainForm.text_injective {form form' : DomainForm} (hform : symbols.AllowsDomain form)
    (hform' : symbols.AllowsDomain form') (h : form.text = form'.text) : form = form' := by
  have hlist := congrArg String.toList h
  rw [toList_text, toList_text] at hlist
  have hopens (rest : List Char) : Text.EndsSymbol (" (".toList ++ rest) := rfl
  have hcloses : Closes "))\n".toList := ⟨")\n".toList, rfl⟩
  obtain ⟨hname, hbody⟩ := Text.selfDelimiting_symbol hform.name.1 hform'.name.1 (hopens _)
    (hopens _) (List.append_cancel_left hlist)
  obtain ⟨hclauses, -⟩ := @selfDelimiting_clauses (form.methods, form.operators)
    (form'.methods, form'.operators) _ _ ⟨hform.methods, hform.operators⟩
    ⟨hform'.methods, hform'.operators⟩ hcloses hcloses (List.append_cancel_left hbody)
  obtain ⟨hmethods, hoperators⟩ := Prod.mk.inj hclauses
  cases form
  cases form'
  rw [mk.injEq]
  exact ⟨hname, hmethods, hoperators⟩

/-! ### Problems -/

theorem ProblemForm.toList_text (form : ProblemForm) : form.text.toList =
    "(defproblem ".toList ++ (form.name.toList ++ (" ".toList ++ (form.domain.toList ++
      ("\n".toList ++
        ((form.initialStates.flatMap (fun state => (Literal.group state).toList ++ ['\n']) ++
          form.goals.flatten.flatMap fun call => (call.text .method).toList) ++
            ")\n".toList))))) := by
  have hgoals : (String.join (form.goals.map (Call.textAll .method))).toList =
      form.goals.flatten.flatMap fun call => (call.text .method).toList := by
    rw [← List.flatMap_id, List.flatMap_assoc]
    simp only [String.toList_join, List.flatMap_map, toList_textAll, id]
  have hbreak : "\n".toList = ['\n'] := rfl
  have hstates : (String.join (form.initialStates.map (Literal.group · ++ "\n"))).toList =
      form.initialStates.flatMap fun state => (Literal.group state).toList ++ ['\n'] := by
    simp only [String.toList_join, List.flatMap_map, String.toList_append, hbreak]
  unfold ProblemForm.text
  simp only [String.toList_append, hgoals, hstates, List.append_assoc]

/-- A group of literals is told from a call: behind its first parenthesis stands another one. -/
theorem group_ne_call {call : Call} (hcall : symbols.AllowsCall call) (literals : List Literal)
    (x y : List Char) :
    (Literal.group literals).toList ++ x ≠ (call.text .method).toList ++ y := by
  obtain ⟨name, arguments⟩ := call
  have hname := (isSymbol_marked .method hcall.1.1)
  have hletters := hname.isDelimiter_eq_false
  obtain ⟨letter, letters, hsplit⟩ := List.exists_cons_of_ne_nil hname.nonempty
  intro h
  simp only [toList_text_call, toList_application, toList_group, hsplit, List.cons_append,
    List.cons.injEq, true_and] at h
  have hletter := hletters letter (by rw [hsplit]; exact List.mem_cons_self)
  cases literals with
  | nil =>
    obtain ⟨rfl, -⟩ := List.cons.inj h
    revert hletter
    decide
  | cons literal literals =>
    obtain ⟨rest, hliteral⟩ := literal_opens literal
    rw [List.flatMap_cons, hliteral] at h
    obtain ⟨rfl, -⟩ := List.cons.inj h
    revert hletter
    decide

/-- Initial states followed by calls are told apart. -/
theorem selfDelimiting_statesAndCalls :
    SelfDelimiting
      (fun parts : List (List Literal) × List Call =>
        parts.1.flatMap (fun state => (Literal.group state).toList ++ ['\n']) ++
          parts.2.flatMap fun call => (call.text .method).toList)
      (fun parts => (∀ state ∈ parts.1, ∀ literal ∈ state, symbols.AllowsLiteral literal) ∧
        ∀ call ∈ parts.2, symbols.AllowsCall call) Closes := by
  have hstates : SelfDelimiting (fun state => (Literal.group state).toList ++ ['\n'])
      (fun state => ∀ literal ∈ state, symbols.AllowsLiteral literal) fun _ => True := by
    intro state state' x y hstate hstate' _ _ h
    simp only [List.append_assoc] at h
    obtain ⟨rfl, hbreak⟩ := selfDelimiting_group hstate hstate' trivial trivial h
    exact ⟨rfl, List.append_cancel_left hbreak⟩
  refine hstates.append_flatMap (selfDelimiting_call .method) ?_ (fun state _ => ?_)
    (fun call _ => call_opens .method call) (fun _ => trivial)
    fun x hx => ⟨trivial, hx.ne_cons (by decide)⟩
  · intro state call x y _ hcall _ _ h
    rw [List.append_assoc] at h
    exact group_ne_call hcall state _ y h
  · exact ⟨_, by rw [toList_group]; rfl⟩

/-- A problem of symbols can be told from its text, apart from the grouping of its tasks. -/
theorem ProblemForm.text_inj {form form' : ProblemForm} (hform : symbols.AllowsProblem form)
    (hform' : symbols.AllowsProblem form') (h : form.text = form'.text) :
    form.name = form'.name ∧ form.domain = form'.domain ∧
      form.initialStates = form'.initialStates ∧ form.goals.flatten = form'.goals.flatten := by
  have hlist := congrArg String.toList h
  rw [toList_text, toList_text] at hlist
  have hblank (rest : List Char) : Text.EndsSymbol (" ".toList ++ rest) := rfl
  have hbreak (rest : List Char) : Text.EndsSymbol ("\n".toList ++ rest) := rfl
  have hcloses : Closes ")\n".toList := ⟨"\n".toList, rfl⟩
  have hcalls {form : ProblemForm} (hform : symbols.AllowsProblem form) :
      ∀ call ∈ form.goals.flatten, symbols.AllowsCall call := by
    intro call hcall
    obtain ⟨goal, hgoal, hmem⟩ := List.mem_flatten.1 hcall
    exact hform.goals goal hgoal call hmem
  obtain ⟨hname, hbehindName⟩ := Text.selfDelimiting_symbol hform.name.1 hform'.name.1 (hblank _)
    (hblank _) (List.append_cancel_left hlist)
  obtain ⟨hdomain, hbehindDomain⟩ := Text.selfDelimiting_symbol hform.domain.1 hform'.domain.1
    (hbreak _) (hbreak _) (List.append_cancel_left hbehindName)
  obtain ⟨hparts, -⟩ := @selfDelimiting_statesAndCalls (form.initialStates, form.goals.flatten)
    (form'.initialStates, form'.goals.flatten) _ _ ⟨hform.initialStates, hcalls hform⟩
    ⟨hform'.initialStates, hcalls hform'⟩ hcloses hcloses (List.append_cancel_left hbehindDomain)
  obtain ⟨hstates, hgoals⟩ := Prod.mk.inj hparts
  exact ⟨hname, hdomain, hstates, hgoals⟩

/-! ### Knowledge bases of symbols -/

/-- All labels of a knowledge base are symbols that do not begin with an exclamation mark, and all
entries of the argument lists in its comments are symbols. -/
structure KnowledgeBase.IsSymbolic (knowledge : KnowledgeBase) : Prop where
  label : ∀ entity label, knowledge.label entity = some label →
    IsSymbol label ∧ label.toList.head? ≠ some '!'
  token : ∀ entity comment kind tokens, knowledge.comment entity = some comment →
    ArgumentList.extract kind comment = .ok tokens → ∀ token ∈ tokens, IsSymbol token

/-- A symbol is a symbol in the form in which a list of any kind is written. -/
theorem isSymbol_written {token : String} (kind : ListKind) (h : IsSymbol token) :
    IsSymbol (kind.written token) := by
  cases kind with
  | parameters =>
    have hmark : IsSymbol "?" := by decide
    exact hmark.append h
  | objects => exact h
  | mixed => exact h

theorem KnowledgeBase.IsSymbolic.allowsKnowledge {knowledge : KnowledgeBase}
    (h : knowledge.IsSymbolic) : symbols.AllowsKnowledge knowledge where
  label := h.label
  argument entity comment kind tokens hcomment htokens token hmem :=
    isSymbol_written kind (h.token entity comment kind tokens hcomment htokens token hmem)

/-- If definitions of two knowledge bases of symbols are rendered as the same text, the same was
read from them: the same domain, or problems that differ at most in the goals that their tasks
belong to. -/
theorem rendered_text_determines_form {reading reading' : Reading}
    (hknowledge : reading.knowledge.IsSymbolic) (hknowledge' : reading'.knowledge.IsSymbolic) :
    (∀ domain domain' text, (reading.renderDomain domain).outcome = .ok text →
      (reading'.renderDomain domain').outcome = .ok text →
      ∃ form, (reading.domain domain).outcome = .ok form ∧
        (reading'.domain domain').outcome = .ok form) ∧
    ∀ problem problem' text, (reading.renderProblem problem).outcome = .ok text →
      (reading'.renderProblem problem').outcome = .ok text →
      ∃ form form', (reading.problem problem).outcome = .ok form ∧
        (reading'.problem problem').outcome = .ok form' ∧
        form.name = form'.name ∧ form.domain = form'.domain ∧
        form.initialStates = form'.initialStates ∧ form.goals.flatten = form'.goals.flatten := by
  have hallows := hknowledge.allowsKnowledge
  have hallows' := hknowledge'.allowsKnowledge
  constructor
  · intro domain domain' text htext htext'
    obtain ⟨form, hform, rfl⟩ := Emission.exists_of_outcome_map htext
    obtain ⟨form', hform', hsame⟩ := Emission.exists_of_outcome_map htext'
    have hallowed := Reading.yields_domain hallows domain form hform
    have hallowed' := Reading.yields_domain hallows' domain' form' hform'
    obtain rfl := DomainForm.text_injective hallowed hallowed' hsame.symm
    exact ⟨form, hform, hform'⟩
  · intro problem problem' text htext htext'
    obtain ⟨form, hform, rfl⟩ := Emission.exists_of_outcome_map htext
    obtain ⟨form', hform', hsame⟩ := Emission.exists_of_outcome_map htext'
    have hallowed := Reading.yields_problem hallows problem form hform
    have hallowed' := Reading.yields_problem hallows' problem' form' hform'
    exact ⟨form, form', hform, hform', ProblemForm.text_inj hallowed hallowed' hsame.symm⟩

/-- A domain with the operator `move`, and a problem whose one task has the name `not`. Entities are
numbered behind `start`. -/
def haulage (start : Nat) : KnowledgeBase where
  entitiesOfKind _ := []
  related entity relation :=
    match entity.number - start, relation with
    | 1, .hasOperator => [.ofSlot (start + 1)]
    | 2, .opHasParameter => [.ofSlot (start + 4)]
    | 3, .hasDomain => [.ofSlot start]
    | 3, .hasInitialState => [.ofSlot (start + 4)]
    | 3, .hasGoal => [.ofSlot (start + 4)]
    | 5, .consistsOfMethod => [.ofSlot (start + 3)]
    | _, _ => []
  label entity :=
    match entity.number - start with
    | 1 => some "haulage"
    | 2 => some "move"
    | 3 => some "errand"
    | 4 => some "not"
    | _ => none
  comment entity := if entity.number - start = 2 then some "Parameters: [truck;town]" else none
  iri _ := none

theorem haulage_isSymbolic (start : Nat) : (haulage start).IsSymbolic := by
  constructor
  · intro entity label hlabel
    simp only [haulage] at hlabel
    split at hlabel <;> cases hlabel <;> exact ⟨by decide, by decide⟩
  · intro entity comment kind tokens hcomment htokens
    simp only [haulage, Option.ite_none_right_eq_some, Option.some.injEq] at hcomment
    obtain ⟨-, rfl⟩ := hcomment
    cases kind with
    | parameters =>
      have hextract : ArgumentList.extract .parameters "Parameters: [truck;town]" =
          .ok ["truck", "town"] := rfl
      obtain rfl := Except.ok.inj (hextract.symm.trans htokens)
      rw [List.forall_mem_cons, List.forall_mem_singleton]
      exact ⟨by decide, by decide⟩
    | objects =>
      have hextract : ArgumentList.extract .objects "Parameters: [truck;town]" =
          .error (.noList .objects) := rfl
      cases hextract.symm.trans htokens
    | mixed =>
      have hextract : ArgumentList.extract .mixed "Parameters: [truck;town]" =
          .error (.noList .mixed) := rfl
      cases hextract.symm.trans htokens

/-- The numbers of the entities are not written, so they make no difference. -/
theorem haulage_text_determines_form :
    (∃ form, (Reading.domain ⟨haulage 0, false⟩ (.ofSlot 0)).outcome = .ok form ∧
      (Reading.domain ⟨haulage 7, true⟩ (.ofSlot 7)).outcome = .ok form) ∧
    ∃ form form', (Reading.problem ⟨haulage 0, false⟩ (.ofSlot 2)).outcome = .ok form ∧
      (Reading.problem ⟨haulage 7, true⟩ (.ofSlot 9)).outcome = .ok form' ∧
      form.name = form'.name ∧ form.domain = form'.domain ∧
      form.initialStates = form'.initialStates ∧ form.goals.flatten = form'.goals.flatten := by
  have hforms := @rendered_text_determines_form ⟨haulage 0, false⟩ ⟨haulage 7, true⟩
    (haulage_isSymbolic 0) (haulage_isSymbolic 7)
  have hdomain : (Reading.renderDomain ⟨haulage 0, false⟩ (.ofSlot 0)).outcome =
      .ok "(defdomain haulage (\n(:operator (!move ?truck ?town)\n()\n()\n())\n))\n" := by rfl
  have hdomain' : (Reading.renderDomain ⟨haulage 7, true⟩ (.ofSlot 7)).outcome =
      .ok "(defdomain haulage (\n(:operator (!move ?truck ?town)\n()\n()\n())\n))\n" := by rfl
  have hproblem : (Reading.renderProblem ⟨haulage 0, false⟩ (.ofSlot 2)).outcome =
      .ok "(defproblem errand haulage\n()\n(not))\n" := by rfl
  have hproblem' : (Reading.renderProblem ⟨haulage 7, true⟩ (.ofSlot 9)).outcome =
      .ok "(defproblem errand haulage\n()\n(not))\n" := by rfl
  exact ⟨hforms.1 _ _ _ hdomain hdomain', hforms.2 _ _ _ hproblem hproblem'⟩

end TaskNet
