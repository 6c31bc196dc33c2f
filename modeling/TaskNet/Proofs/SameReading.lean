import Mathlib.Data.List.Forall2
import TaskNet.Generation

/-!
# Readings of matching knowledge bases

Two knowledge bases match on pairs of entities if paired entities have the same label, the same
comment and the same name in messages, and are related to paired entities in the same order. What is
read from paired entities is then the same, with the same warnings and the same errors: numbers of
entities are never written, and entities that are not reached make no difference. For the readers
of which all others are made, a congruence lemma names the answers that they use.
-/

namespace TaskNet

/-- Two knowledge bases answer alike on pairs of entities, and their answers are pairs again. -/
structure KnowledgeBase.MatchesOn (Paired : EntityId → EntityId → Prop)
    (knowledge knowledge' : KnowledgeBase) : Prop where
  label : ∀ {entity entity'}, Paired entity entity' →
    knowledge.label entity = knowledge'.label entity'
  comment : ∀ {entity entity'}, Paired entity entity' →
    knowledge.comment entity = knowledge'.comment entity'
  describe : ∀ {entity entity'}, Paired entity entity' →
    knowledge.describe entity = knowledge'.describe entity'
  related : ∀ {entity entity'}, Paired entity entity' → ∀ relation,
    List.Forall₂ Paired (knowledge.related entity relation) (knowledge'.related entity' relation)

/-- Whatever is paired on one side is paired with an entry of the other side. -/
theorem exists_of_mem_of_forall₂ {α β : Type} {Paired : α → β → Prop} {entries : List α}
    {entries' : List β} (h : List.Forall₂ Paired entries entries') :
    ∀ entry' ∈ entries', ∃ entry ∈ entries, Paired entry entry' := by
  induction h with
  | nil => exact nofun
  | cons hfirst _ ih =>
    intro entry' hmem
    obtain rfl | hrest := List.mem_cons.1 hmem
    · exact ⟨_, List.mem_cons_self, hfirst⟩
    · obtain ⟨entry, hentry, hpair⟩ := ih entry' hrest
      exact ⟨entry, List.mem_cons_of_mem _ hentry, hpair⟩

/-! ### Equal emissions -/

namespace Emission

variable {α β : Type}

theorem bind_eq {first first' : Emission α} {next next' : α → Emission β} (hfirst : first = first')
    (hnext : ∀ value, next value = next' value) : first >>= next = first' >>= next' := by
  rw [hfirst, funext hnext]

/-- Entries are read alike if paired entries are. -/
theorem forEach_eq {γ : Type} {Paired : α → γ → Prop} {read : α → Emission β}
    {read' : γ → Emission β} {entries : List α} {entries' : List γ}
    (hentries : List.Forall₂ Paired entries entries')
    (hread : ∀ entry entry', Paired entry entry' → read entry = read' entry') :
    forEach read entries = forEach read' entries' := by
  induction hentries with
  | nil => rfl
  | cons hentry _ ih =>
    unfold forEach
    exact bind_eq (hread _ _ hentry) fun value => bind_eq ih fun _ => rfl

end Emission

/-! ### Equal readings -/

namespace Reading

open Emission (bind_eq forEach_eq)

section

variable {reading reading' : Reading} {entity entity' : EntityId}

theorem label_congr (hlabel : reading.knowledge.label entity = reading'.knowledge.label entity')
    (hdescribe : reading.knowledge.describe entity = reading'.knowledge.describe entity') :
    reading.label entity = reading'.label entity' := by
  unfold label
  rw [hlabel, hdescribe]

theorem fromComment_congr {α : Type}
    (hcomment : reading.knowledge.comment entity = reading'.knowledge.comment entity')
    (hdescribe : reading.knowledge.describe entity = reading'.knowledge.describe entity')
    (read : String → Except CommentFault α) :
    reading.fromComment entity read = reading'.fromComment entity' read := by
  unfold fromComment blame
  rw [hcomment, hdescribe]

/-- What is read next from a comment matters only for what the comment in fact yields. -/
theorem fromComment_bind_congr {α β : Type}
    (hcomment : reading.knowledge.comment entity = reading'.knowledge.comment entity')
    (hdescribe : reading.knowledge.describe entity = reading'.knowledge.describe entity')
    {read : String → Except CommentFault α} {next next' : α → Emission β}
    (hnext : ∀ comment value, reading.knowledge.comment entity = some comment →
      read comment = .ok value → next value = next' value) :
    reading.fromComment entity read >>= next = reading'.fromComment entity' read >>= next' := by
  rw [← fromComment_congr hcomment hdescribe]
  unfold fromComment
  cases hcomment : reading.knowledge.comment entity with
  | none => simp only [blame, Emission.fail_bind]
  | some comment =>
    cases hread : read comment with
    | error fault => simp only [hread, blame, Emission.fail_bind]
    | ok value => simp only [hread, blame, pure_bind, hnext comment value hcomment hread]

theorem listed_congr
    (hcomment : reading.knowledge.comment entity = reading'.knowledge.comment entity')
    (hdescribe : reading.knowledge.describe entity = reading'.knowledge.describe entity')
    (kind : ListKind) : reading.listed entity kind = reading'.listed entity' kind :=
  bind_eq (fromComment_congr hcomment hdescribe _) fun _ => rfl

/-- Of the targets of a relation that gates a list, only it matters whether there are any. -/
theorem arguments_congr {relation : Relation}
    (hgate : reading.knowledge.related entity relation = [] ↔
      reading'.knowledge.related entity' relation = [])
    (hcomment : reading.knowledge.related entity relation ≠ [] →
      reading.knowledge.comment entity = reading'.knowledge.comment entity')
    (hdescribe : reading.knowledge.describe entity = reading'.knowledge.describe entity')
    (kind : ListKind) :
    reading.arguments entity relation kind = reading'.arguments entity' relation kind := by
  unfold arguments
  by_cases hnone : reading.knowledge.related entity relation = []
  · rw [if_pos hnone, if_pos (hgate.1 hnone)]
  · rw [if_neg hnone, if_neg fun hnone' => hnone (hgate.2 hnone')]
    exact listed_congr (hcomment hnone) hdescribe kind

/-- Of the targets of a relation that takes one, only their number matters and what is read next
from the first. -/
theorem single_bind_congr {α : Type} {relation : Relation}
    (hstrict : reading.strict = reading'.strict)
    (hdescribe : reading.knowledge.describe entity = reading'.knowledge.describe entity')
    (hcount : (reading.knowledge.related entity relation).length =
      (reading'.knowledge.related entity' relation).length)
    {next next' : Option EntityId → Emission α}
    (hnext : next (reading.knowledge.related entity relation).head? =
      next' (reading'.knowledge.related entity' relation).head?) :
    reading.single entity relation >>= next = reading'.single entity' relation >>= next' := by
  simp only [single, hcount, hdescribe, hstrict]
  by_cases hseveral : 1 < (reading'.knowledge.related entity' relation).length
  · cases reading'.strict with
    | true => simp only [if_pos hseveral, reduceIte, Emission.fail_bind]
    | false =>
      simp only [if_pos hseveral, Bool.false_eq_true, reduceIte, bind_assoc, pure_bind, hnext]
  · simp only [if_neg hseveral, pure_bind, hnext]

end

variable {Paired : EntityId → EntityId → Prop} {knowledge knowledge' : KnowledgeBase}
  {entity entity' : EntityId}

/-- What is read next after a single target may depend on the target itself. -/
theorem single_bind_eq {α : Type} (h : knowledge.MatchesOn Paired knowledge')
    (hpair : Paired entity entity') (strict : Bool) (relation : Relation)
    {next next' : Option EntityId → Emission α} (hnone : next none = next' none)
    (hsome : ∀ {target target'}, Paired target target' →
      next (some target) = next' (some target')) :
    Reading.single ⟨knowledge, strict⟩ entity relation >>= next =
      Reading.single ⟨knowledge', strict⟩ entity' relation >>= next' := by
  have htargets := h.related hpair relation
  have hnext : next (knowledge.related entity relation).head? =
      next' (knowledge'.related entity' relation).head? := by
    revert htargets
    generalize knowledge.related entity relation = targets
    generalize knowledge'.related entity' relation = targets'
    intro htargets
    cases htargets with
    | nil => exact hnone
    | cons hfirst _ => exact hsome hfirst
  exact single_bind_congr (by rfl) (h.describe hpair) htargets.length_eq hnext

theorem label_eq (h : knowledge.MatchesOn Paired knowledge') (hpair : Paired entity entity')
    (strict : Bool) :
    Reading.label ⟨knowledge, strict⟩ entity = Reading.label ⟨knowledge', strict⟩ entity' :=
  label_congr (h.label hpair) (h.describe hpair)

theorem fromComment_eq {α : Type} (h : knowledge.MatchesOn Paired knowledge')
    (hpair : Paired entity entity') (strict : Bool) (read : String → Except CommentFault α) :
    Reading.fromComment ⟨knowledge, strict⟩ entity read =
      Reading.fromComment ⟨knowledge', strict⟩ entity' read :=
  fromComment_congr (h.comment hpair) (h.describe hpair) read

theorem listed_eq (h : knowledge.MatchesOn Paired knowledge') (hpair : Paired entity entity')
    (strict : Bool) (kind : ListKind) :
    Reading.listed ⟨knowledge, strict⟩ entity kind =
      Reading.listed ⟨knowledge', strict⟩ entity' kind :=
  listed_congr (h.comment hpair) (h.describe hpair) kind

theorem arguments_eq (h : knowledge.MatchesOn Paired knowledge') (hpair : Paired entity entity')
    (strict : Bool) (relation : Relation) (kind : ListKind) :
    Reading.arguments ⟨knowledge, strict⟩ entity relation kind =
      Reading.arguments ⟨knowledge', strict⟩ entity' relation kind := by
  have hlength := (h.related hpair relation).length_eq
  refine arguments_congr ?_ (fun _ => h.comment hpair) (h.describe hpair) kind
  rw [← List.length_eq_zero_iff, hlength, List.length_eq_zero_iff]

theorem positive_eq (h : knowledge.MatchesOn Paired knowledge') (hpair : Paired entity entity')
    (strict : Bool) :
    Reading.positive ⟨knowledge, strict⟩ entity =
      Reading.positive ⟨knowledge', strict⟩ entity' := by
  refine single_bind_eq h hpair strict .prSpecializationOf ?_ fun hgeneric => ?_
  · exact bind_eq (label_eq h hpair strict) fun _ =>
      bind_eq (arguments_eq h hpair strict _ _) fun _ => rfl
  · refine bind_eq (label_eq h hgeneric strict) fun _ =>
      bind_eq (fromComment_eq h hpair strict _) fun mode => ?_
    cases mode with
    | objects => exact bind_eq (arguments_eq h hpair strict _ _) fun _ => rfl
    | parameters => exact bind_eq (arguments_eq h hpair strict _ _) fun _ => rfl
    | mixed => exact bind_eq (listed_eq h hpair strict _) fun _ => rfl

theorem literal_eq (h : knowledge.MatchesOn Paired knowledge') (hpair : Paired entity entity')
    (strict : Bool) :
    Reading.literal ⟨knowledge, strict⟩ entity = Reading.literal ⟨knowledge', strict⟩ entity' := by
  refine single_bind_eq h hpair strict .negativeOf ?_ fun hcounterpart => ?_
  · exact positive_eq h hpair strict
  · exact bind_eq (positive_eq h hcounterpart strict) fun _ => rfl

theorem literals_eq (h : knowledge.MatchesOn Paired knowledge') (strict : Bool)
    {predicates predicates' : List EntityId} (hpairs : List.Forall₂ Paired predicates predicates') :
    Reading.literals ⟨knowledge, strict⟩ predicates =
      Reading.literals ⟨knowledge', strict⟩ predicates' :=
  forEach_eq hpairs fun _ _ hpair => literal_eq h hpair strict

theorem call_eq (h : knowledge.MatchesOn Paired knowledge') (hpair : Paired entity entity')
    (strict : Bool) (kind : TaskKind) :
    Reading.call ⟨knowledge, strict⟩ kind entity =
      Reading.call ⟨knowledge', strict⟩ kind entity' := by
  refine single_bind_eq h hpair strict kind.specialization ?_ fun hgeneric => ?_
  · exact bind_eq (label_eq h hpair strict) fun _ =>
      bind_eq (arguments_eq h hpair strict _ _) fun _ => rfl
  · exact bind_eq (label_eq h hgeneric strict) fun _ =>
      bind_eq (arguments_eq h hpair strict _ _) fun _ => rfl

theorem calls_eq (h : knowledge.MatchesOn Paired knowledge') (hpair : Paired entity entity')
    (strict : Bool) (kind : TaskKind) (relation : Relation) :
    Reading.calls ⟨knowledge, strict⟩ kind entity relation =
      Reading.calls ⟨knowledge', strict⟩ kind entity' relation :=
  forEach_eq (h.related hpair relation) fun _ _ htask => call_eq h htask strict kind

theorem preconditions_eq (h : knowledge.MatchesOn Paired knowledge')
    (hpair : Paired entity entity') (strict : Bool) (relation : Relation) :
    Reading.preconditions ⟨knowledge, strict⟩ entity relation =
      Reading.preconditions ⟨knowledge', strict⟩ entity' relation := by
  have hprecondition (predicate predicate' : EntityId) (hpredicate : Paired predicate predicate') :
      Reading.precondition ⟨knowledge, strict⟩ predicate =
        Reading.precondition ⟨knowledge', strict⟩ predicate' :=
    bind_eq (label_eq h hpredicate strict) fun _ =>
      bind_eq (literal_eq h hpredicate strict) fun _ => rfl
  exact bind_eq (forEach_eq (h.related hpair relation) hprecondition) fun _ => rfl

theorem head_eq (h : knowledge.MatchesOn Paired knowledge') (hpair : Paired entity entity')
    (strict : Bool) (kind : TaskKind) :
    Reading.head ⟨knowledge, strict⟩ kind entity =
      Reading.head ⟨knowledge', strict⟩ kind entity' :=
  bind_eq (label_eq h hpair strict) fun _ => bind_eq (arguments_eq h hpair strict _ _) fun _ => rfl

theorem flow_eq (h : knowledge.MatchesOn Paired knowledge') (hpair : Paired entity entity')
    (strict : Bool) (head : Call) :
    Reading.flow ⟨knowledge, strict⟩ head entity = Reading.flow ⟨knowledge', strict⟩ head entity' :=
  bind_eq (preconditions_eq h hpair strict _) fun _ =>
    bind_eq (calls_eq h hpair strict _ _) fun _ =>
      bind_eq (calls_eq h hpair strict _ _) fun _ => rfl

theorem method_eq (h : knowledge.MatchesOn Paired knowledge') (hpair : Paired entity entity')
    (strict : Bool) :
    Reading.method ⟨knowledge, strict⟩ entity = Reading.method ⟨knowledge', strict⟩ entity' := by
  have hflows := h.related hpair .hasFlow
  have hempty : knowledge.related entity .hasFlow = [] ↔
      knowledge'.related entity' .hasFlow = [] := by
    rw [← List.length_eq_zero_iff, hflows.length_eq, List.length_eq_zero_iff]
  refine bind_eq (head_eq h hpair strict .method) fun head => ?_
  have hread := forEach_eq hflows fun _ _ hflow => flow_eq h hflow strict head
  simp only [hempty, h.describe hpair, hread]

theorem operator_eq (h : knowledge.MatchesOn Paired knowledge') (hpair : Paired entity entity')
    (strict : Bool) :
    Reading.operator ⟨knowledge, strict⟩ entity =
      Reading.operator ⟨knowledge', strict⟩ entity' :=
  bind_eq (head_eq h hpair strict .operator) fun _ =>
    bind_eq (preconditions_eq h hpair strict _) fun _ =>
      bind_eq (literals_eq h strict (h.related hpair _)) fun _ =>
        bind_eq (literals_eq h strict (h.related hpair _)) fun _ => rfl

/-- Paired entities are read as the same domain. -/
theorem domain_eq (h : knowledge.MatchesOn Paired knowledge') (hpair : Paired entity entity')
    (strict : Bool) :
    Reading.domain ⟨knowledge, strict⟩ entity = Reading.domain ⟨knowledge', strict⟩ entity' :=
  bind_eq (label_eq h hpair strict) fun _ =>
    bind_eq (forEach_eq (h.related hpair _) fun _ _ hmethod => method_eq h hmethod strict) fun _ =>
      bind_eq (forEach_eq (h.related hpair _) fun _ _ hoperator => operator_eq h hoperator strict)
        fun _ => rfl

/-- What is read next after required targets may depend on the targets themselves. -/
theorem required_bind_eq {α : Type} (h : knowledge.MatchesOn Paired knowledge')
    (hpair : Paired entity entity') (strict : Bool) (relation : Relation)
    {next next' : List EntityId → Emission α}
    (hnext : ∀ {targets targets'}, List.Forall₂ Paired targets targets' →
      next targets = next' targets') :
    Reading.required ⟨knowledge, strict⟩ entity relation >>= next =
      Reading.required ⟨knowledge', strict⟩ entity' relation >>= next' := by
  have htargets := h.related hpair relation
  unfold required
  simp only [h.describe hpair]
  revert htargets
  cases knowledge.related entity relation with
  | nil =>
    intro htargets
    rw [List.forall₂_nil_left_iff.1 htargets]
    rfl
  | cons target targets =>
    intro htargets
    obtain ⟨target', targets', hfirst, hrest, hcons⟩ := List.forall₂_cons_left_iff.1 htargets
    rw [hcons]
    exact hnext (.cons hfirst hrest)

/-- Paired entities are read as the same problem. -/
theorem problem_eq (h : knowledge.MatchesOn Paired knowledge') (hpair : Paired entity entity')
    (strict : Bool) :
    Reading.problem ⟨knowledge, strict⟩ entity = Reading.problem ⟨knowledge', strict⟩ entity' := by
  refine bind_eq (label_eq h hpair strict) fun name =>
    single_bind_eq h hpair strict .hasDomain ?_ fun hdomain => ?_
  · simp only [h.describe hpair]
  · exact bind_eq (label_eq h hdomain strict) fun _ =>
      required_bind_eq h hpair strict _ fun hstates =>
        required_bind_eq h hpair strict _ fun hgoals =>
          bind_eq (forEach_eq hstates fun _ _ hstate => literals_eq h strict (h.related hstate _))
            fun _ => bind_eq (forEach_eq hgoals fun _ _ hgoal => calls_eq h hgoal strict _ _)
              fun _ => rfl

end Reading

/-- Definitions of either kind are rendered alike from paired entities. -/
theorem DefinitionKind.render_eq {Paired : EntityId → EntityId → Prop}
    {knowledge knowledge' : KnowledgeBase} (h : knowledge.MatchesOn Paired knowledge')
    {entity entity' : EntityId} (hpair : Paired entity entity') (kind : DefinitionKind)
    (strict : Bool) :
    kind.render ⟨knowledge, strict⟩ entity = kind.render ⟨knowledge', strict⟩ entity' := by
  cases kind with
  | domain => exact congrArg (DomainForm.text <$> ·) (Reading.domain_eq h hpair strict)
  | problem => exact congrArg (ProblemForm.text <$> ·) (Reading.problem_eq h hpair strict)

end TaskNet
