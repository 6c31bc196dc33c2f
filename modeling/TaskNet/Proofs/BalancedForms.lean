import TaskNet.Generation
import TaskNet.Proofs.Parentheses
import TaskNet.Proofs.Unambiguity

/-!
# Everything is written as a form

If no label and no list entry of a knowledge base contains a parenthesis, then every literal, call
and clause that is read from it is written as a form, and so is every definition, which ends its
line. Labels and entries may be empty or contain blanks and line breaks, so the parts of a form may
no longer be told apart; but the forms of a program are, and each is the text of one unit.
-/

namespace TaskNet

open Text (IsPlain IsBalanced IsForm isBalanced_flatMap topForms topForms_lines)

/-- Names and arguments without parentheses. -/
def unparenthesized : Wording where
  IsName name := IsPlain name.toList
  IsArgument argument := IsPlain argument.toList

/-! ### Literals and calls -/

theorem isForm_application {name : String} {arguments : List String}
    (hname : IsPlain name.toList) (harguments : unparenthesized.AllowsArguments arguments) :
    IsForm (application name arguments).toList := by
  have hblank : IsPlain [' '] := by decide
  have hspaced : IsBalanced (spaced arguments).toList := by
    rw [toList_spaced]
    exact isBalanced_flatMap fun argument hmem =>
      (hblank.append (harguments argument hmem)).isBalanced
  rw [toList_application, ← List.append_assoc]
  exact (hname.isBalanced.append hspaced).enclose

/-- A negation puts the form of a literal into parentheses of its own. -/
theorem isForm_literal {literal : Literal} (h : unparenthesized.AllowsLiteral literal) :
    IsForm literal.text.toList := by
  obtain ⟨negated, name, arguments⟩ := literal
  have hpositive : IsForm (application name arguments).toList := isForm_application h.1 h.2
  cases negated with
  | false => exact hpositive
  | true =>
    have hnot : IsPlain "not".toList := by decide
    rw [toList_text_negated, ← List.append_assoc]
    exact (hnot.isBalanced.append hpositive.isBalanced).enclose

theorem isForm_group {literals : List Literal}
    (h : ∀ literal ∈ literals, unparenthesized.AllowsLiteral literal) :
    IsForm (Literal.group literals).toList := by
  rw [toList_group]
  have hliterals := isBalanced_flatMap fun literal hmem =>
    (isForm_literal (h literal hmem)).isBalanced
  exact hliterals.enclose

theorem isForm_call {call : Call} (kind : TaskKind) (h : unparenthesized.AllowsCall call) :
    IsForm (call.text kind).toList := by
  have hmarker : IsPlain kind.marker.toList := by cases kind <;> decide
  refine isForm_application ?_ h.2
  rw [String.toList_append]
  exact hmarker.append h.1

/-- Calls that follow each other are balanced, but no form if there are none or several. -/
theorem isBalanced_textAll {calls : List Call} (kind : TaskKind)
    (h : ∀ call ∈ calls, unparenthesized.AllowsCall call) :
    IsBalanced (Call.textAll kind calls).toList := by
  rw [toList_textAll]
  exact isBalanced_flatMap fun call hmem => (isForm_call kind (h call hmem)).isBalanced

/-! ### Clauses -/

theorem isForm_methodClause {clause : MethodClause}
    (h : unparenthesized.AllowsMethodClause clause) : IsForm clause.text.toList := by
  have hword : IsPlain ":method ".toList := by decide
  have hbreak : IsPlain ['\n'] := by decide
  have htasks := ((isBalanced_textAll .method h.methods).append
    (isBalanced_textAll .operator h.operators)).enclose
  have hbody := hword.isBalanced.append <| (isForm_call .method h.head).isBalanced.append <|
    hbreak.isBalanced.append <| (isForm_group h.preconditions).isBalanced.append <|
      hbreak.isBalanced.append htasks.isBalanced
  simpa [MethodClause.toList_text] using hbody.enclose

theorem isForm_operatorClause {clause : OperatorClause}
    (h : unparenthesized.AllowsOperatorClause clause) : IsForm clause.text.toList := by
  have hword : IsPlain ":operator ".toList := by decide
  have hbreak : IsPlain ['\n'] := by decide
  have hbody := hword.isBalanced.append <| (isForm_call .operator h.head).isBalanced.append <|
    hbreak.isBalanced.append <| (isForm_group h.preconditions).isBalanced.append <|
      hbreak.isBalanced.append <| (isForm_group h.deletes).isBalanced.append <|
        hbreak.isBalanced.append (isForm_group h.adds).isBalanced
  simpa [OperatorClause.toList_text] using hbody.enclose

/-! ### Definitions -/

/-- A form that stands on lines of its own. -/
def IsFormLine (text : String) : Prop := ∃ form, IsForm form ∧ text.toList = form ++ ['\n']

/-- Clauses that stand on lines of their own are balanced. -/
theorem isBalanced_lines {α : Type} {write : α → List Char} {clauses : List α}
    (h : ∀ clause ∈ clauses, IsForm (write clause)) :
    IsBalanced (clauses.flatMap fun clause => '\n' :: (write clause ++ ['\n'])) := by
  have hbreak : IsPlain ['\n'] := by decide
  exact isBalanced_flatMap fun clause hmem =>
    hbreak.isBalanced.append ((h clause hmem).isBalanced.append hbreak.isBalanced)

theorem isFormLine_domain {form : DomainForm} (h : unparenthesized.AllowsDomain form) :
    IsFormLine form.text := by
  have hword : IsPlain "defdomain ".toList := by decide
  have hblank : IsPlain [' '] := by decide
  have hclauses :=
    ((isBalanced_lines fun clause hmem => isForm_methodClause (h.methods clause hmem)).append
      (isBalanced_lines fun clause hmem => isForm_operatorClause (h.operators clause hmem))).enclose
  have hbody := hword.isBalanced.append <| h.name.isBalanced.append <|
    hblank.isBalanced.append hclauses.isBalanced
  exact ⟨_, hbody.enclose, by simp [DomainForm.toList_text]⟩

theorem isFormLine_problem {form : ProblemForm} (h : unparenthesized.AllowsProblem form) :
    IsFormLine form.text := by
  have hword : IsPlain "defproblem ".toList := by decide
  have hblank : IsPlain [' '] := by decide
  have hbreak : IsPlain ['\n'] := by decide
  have hstates : IsBalanced
      (form.initialStates.flatMap fun state => (Literal.group state).toList ++ ['\n']) :=
    isBalanced_flatMap fun state hmem =>
      (isForm_group (h.initialStates state hmem)).isBalanced.append hbreak.isBalanced
  have hgoals : IsBalanced (form.goals.flatten.flatMap fun call => (call.text .method).toList) := by
    refine isBalanced_flatMap fun call hmem => ?_
    obtain ⟨goal, hgoal, hcall⟩ := List.mem_flatten.1 hmem
    exact (isForm_call .method (h.goals goal hgoal call hcall)).isBalanced
  have hbody := hword.isBalanced.append <| h.name.isBalanced.append <|
    hblank.isBalanced.append <| h.domain.isBalanced.append <|
      hbreak.isBalanced.append (hstates.append hgoals)
  exact ⟨_, hbody.enclose, by simp [ProblemForm.toList_text]⟩

/-! ### Renderings -/

/-- No label of a knowledge base contains a parenthesis, and no entry of an argument list in its
comments does. -/
structure KnowledgeBase.IsUnparenthesized (knowledge : KnowledgeBase) : Prop where
  label : ∀ entity label, knowledge.label entity = some label → IsPlain label.toList
  token : ∀ entity comment kind tokens, knowledge.comment entity = some comment →
    ArgumentList.extract kind comment = .ok tokens → ∀ token ∈ tokens, IsPlain token.toList

theorem KnowledgeBase.IsUnparenthesized.allowsKnowledge {knowledge : KnowledgeBase}
    (h : knowledge.IsUnparenthesized) : unparenthesized.AllowsKnowledge knowledge where
  label := h.label
  argument entity comment kind tokens hcomment htokens token hmem := by
    have htoken := h.token entity comment kind tokens hcomment htokens token hmem
    cases kind with
    | parameters =>
      have hmark : IsPlain "?".toList := by decide
      have hwritten := hmark.append htoken
      rwa [← String.toList_append] at hwritten
    | objects => exact htoken
    | mixed => exact htoken

/-- Whatever is rendered by a reading is a form: a literal, a call and every clause as it stands, a
definition up to the end of its line. -/
structure Reading.WritesForms (reading : Reading) : Prop where
  literal : ∀ predicate, (reading.renderLiteral predicate).Yields fun text => IsForm text.toList
  call : ∀ kind task, (reading.renderCall kind task).Yields fun text => IsForm text.toList
  method : ∀ method, (reading.renderMethod method).Yields fun texts =>
    ∀ text ∈ texts, IsForm text.toList
  operator : ∀ operator, (reading.renderOperator operator).Yields fun text => IsForm text.toList
  domain : ∀ domain, (reading.renderDomain domain).Yields IsFormLine
  problem : ∀ problem, (reading.renderProblem problem).Yields IsFormLine

theorem Reading.writesForms {reading : Reading} (h : reading.knowledge.IsUnparenthesized) :
    reading.WritesForms where
  literal predicate := .map fun literal hliteral =>
    isForm_literal (yields_literal h.allowsKnowledge predicate literal hliteral)
  call kind task := .map fun call hcall =>
    isForm_call kind (yields_call h.allowsKnowledge kind task call hcall)
  method method := .map fun clauses hclauses => List.forall_mem_map.2 fun clause hmem =>
    isForm_methodClause (yields_method h.allowsKnowledge method clauses hclauses clause hmem)
  operator operator := .map fun clause hclause =>
    isForm_operatorClause (yields_operator h.allowsKnowledge operator clause hclause)
  domain domain := .map fun form hform =>
    isFormLine_domain (yields_domain h.allowsKnowledge domain form hform)
  problem problem := .map fun form hform =>
    isFormLine_problem (yields_problem h.allowsKnowledge problem form hform)

/-- Cutting texts of definitions that follow each other gives them back. -/
theorem topForms_join {texts : List String} (h : ∀ text ∈ texts, IsFormLine text) :
    (topForms (String.join texts).toList).map (fun form => String.ofList (form ++ ['\n'])) =
      texts := by
  choose! form hform htext using h
  have hlines : (String.join texts).toList = (texts.map form).flatMap (· ++ ['\n']) := by
    rw [String.toList_join, List.flatMap_map]
    exact List.flatMap_congr htext
  rw [hlines, topForms_lines (List.forall_mem_map.2 hform), List.map_map]
  refine (List.map_congr_left fun text hmem => ?_).trans (List.map_id texts)
  rw [Function.comp_apply, ← htext text hmem, String.ofList_toList, id]

/-- Without parentheses in labels and list entries everything is rendered as a form, and the forms
of a program are the texts of the units that rendered, each of them once. -/
theorem programs_consist_of_forms {knowledge : KnowledgeBase} (h : knowledge.IsUnparenthesized)
    (settings : Settings) :
    let program := generate knowledge settings
    let forms := topForms program.text.toList
    (settings.reading knowledge).WritesForms ∧
      forms.map (fun form => String.ofList (form ++ ['\n'])) =
        program.units.filterMap (·.text?) ∧
      forms.length = program.units.countP (·.text?.isSome) := by
  intro program forms
  have hwrites : (settings.reading knowledge).WritesForms := Reading.writesForms h
  have hunits : ∀ text ∈ program.units.filterMap (·.text?), IsFormLine text := by
    intro text hmem
    obtain ⟨unit, hunit, htext⟩ := List.mem_filterMap.1 hmem
    obtain ⟨⟨kind, entity⟩, -, rfl⟩ := List.mem_map.1 hunit
    rw [ProgramUnit.text?_eq_some_iff] at htext
    cases kind with
    | domain => exact hwrites.domain entity text htext
    | problem => exact hwrites.problem entity text htext
  have hforms := topForms_join hunits
  have hcount := congrArg List.length hforms
  rw [List.length_map, List.length_filterMap_eq_countP] at hcount
  exact ⟨hwrites, hforms, hcount⟩

/-- A domain without a name, an errand that is named on two lines, and a domain that lacks a label.
The comment has parentheses, but none in its list. -/
def oddlyNamed : KnowledgeBase where
  entitiesOfKind
    | .domain => [.ofSlot 0, .ofSlot 3]
    | .problem => [.ofSlot 1]
    | .other => []
  related entity relation :=
    match entity.slot, relation with
    | 0, .hasOperator => [.ofSlot 2]
    | 1, .hasDomain => [.ofSlot 0]
    | 1, .hasInitialState => [.ofSlot 0]
    | 1, .hasGoal => [.ofSlot 0]
    | 0, .consistsOfMethod => [.ofSlot 2]
    | 2, .opHasParameter => [.ofSlot 2]
    | _, _ => []
  label entity :=
    match entity.slot with
    | 0 => some ""
    | 1 => some "late\nerrand"
    | 2 => some "pick up"
    | _ => none
  comment entity := if entity.slot = 2 then some ":) Parameters: [the truck;;town] (" else none
  iri _ := none

theorem oddlyNamed_isUnparenthesized : oddlyNamed.IsUnparenthesized := by
  constructor
  · intro entity label hlabel
    simp only [oddlyNamed] at hlabel
    split at hlabel <;> cases hlabel <;> decide
  · intro entity comment kind tokens hcomment htokens
    simp only [oddlyNamed, Option.ite_none_right_eq_some, Option.some.injEq] at hcomment
    obtain ⟨-, rfl⟩ := hcomment
    cases kind with
    | parameters =>
      obtain rfl : ["the truck", "town"] = tokens := Except.ok.inj htokens
      decide
    | objects => cases htokens
    | mixed => cases htokens

/-- Two of the three units are rendered, and the program consists of their forms. -/
theorem oddlyNamed_consists_of_forms :
    let forms := topForms (generate oddlyNamed {}).text.toList
    (Settings.reading {} oddlyNamed).WritesForms ∧
      forms.map (fun form => String.ofList (form ++ ['\n'])) =
        ["(defdomain  (\n(:operator (!pick up ?the truck ?town)\n()\n()\n())\n))\n",
          "(defproblem late\nerrand \n()\n(pick up))\n"] ∧
      forms.length = 2 :=
  programs_consist_of_forms oddlyNamed_isUnparenthesized {}

end TaskNet
