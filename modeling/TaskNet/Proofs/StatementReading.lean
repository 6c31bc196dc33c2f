import TaskNet.Proofs.DocumentReading

/-!
# What statements say

Statements can be read without any draft. Some are of use: they give a label or a comment as a text,
mark a definition by the local name of its class, or relate two nodes by a property whose local name
is a relation. Loading statements yields what those of use say: entities in the order in which they
are mentioned, what is said last of each, and their relations in order. All others are counted, and
nothing else depends on them, or on the graphs that statements are made in.
-/

namespace TaskNet.Rdf

/-! ### Statements of use -/

namespace Term

/-- The node, if a value is one. -/
def node? : Term → Option Node
  | .node value => some value
  | .literal _ => none

/-- The text, if a value is one. -/
def text? : Term → Option String
  | .node _ => none
  | .literal text => some text

/-- The IRI, if a value is named by one. -/
def iri? (value : Term) : Option String :=
  value.node?.bind fun
    | .iri name => some name
    | .blank _ | .anonymous _ => none

end Term

namespace Statement

/-- A statement is of use for what it says. -/
inductive IsUsedFor (settings : Settings) (statement : Statement) : Use → Prop where
  /-- A label that is a text. -/
  | label (text : String) (hpredicate : statement.predicate = Vocabulary.label)
    (hobject : statement.object = .literal text) : IsUsedFor settings statement (.label text)
  /-- A comment that is a text. -/
  | comment (text : String) (hpredicate : statement.predicate = Vocabulary.comment)
    (hobject : statement.object = .literal text) : IsUsedFor settings statement (.comment text)
  /-- A class that has the local name of a class of definitions. -/
  | kind (name : String) (kind : EntityKind) (hpredicate : statement.predicate = Vocabulary.type)
    (hobject : statement.object = .node (.iri name))
    (hname : settings.marked? (localName name) = some kind) :
    IsUsedFor settings statement (.kind kind)
  /-- Another property that has the local name of a relation, with a node as its value. -/
  | relation (relation : Relation) (object : Node)
    (hpredicate : statement.predicate ∉ [Vocabulary.label, Vocabulary.comment, Vocabulary.type])
    (hname : localName statement.predicate = relation.name)
    (hobject : statement.object = .node object) :
    IsUsedFor settings statement (.relation relation object)

/-- A statement is of use if it says something of use. -/
def IsUsed (settings : Settings) (statement : Statement) : Prop :=
  ∃ use, statement.IsUsedFor settings use

end Statement

/-- Properties with a meaning of their own are no relations. -/
theorem ofName?_localName_eq_none : ∀ property ∈ [Vocabulary.label, Vocabulary.comment,
    Vocabulary.type], Relation.ofName? (localName property) = none := by
  decide

theorem marked?_eq (settings : Settings) (name : String) : settings.marked? name =
    if settings.classify name = .other then none else some (settings.classify name) := by
  unfold Settings.classify Settings.marked?
  split
  · rfl
  · split
    · rfl
    · rfl

namespace Statement

variable {settings : Settings} {statement : Statement}

/-- What is found to be of use is what a statement is of use for. -/
theorem use?_eq_some_iff {use : Use} :
    statement.use? settings = some use ↔ statement.IsUsedFor settings use := by
  constructor
  · intro h
    unfold use? at h
    split at h
    case isTrue hlabel =>
      split at h
      case h_1 text hobject =>
        cases h
        exact .label text hlabel hobject
      case h_2 => cases h
    case isFalse hlabel =>
      split at h
      case isTrue hcomment =>
        split at h
        case h_1 text hobject =>
          cases h
          exact .comment text hcomment hobject
        case h_2 => cases h
      case isFalse hcomment =>
        split at h
        case isTrue htype =>
          split at h
          case h_1 name hobject =>
            simp only at h
            split at h
            case isTrue => cases h
            case isFalse hkind =>
              cases h
              refine .kind name _ htype hobject ?_
              rw [marked?_eq, if_neg hkind]
          case h_2 => cases h
        case isFalse htype =>
          split at h
          case h_1 relation object hrelation hobject =>
            cases h
            refine .relation relation object ?_ (Relation.ofName?_eq_some_iff.1 hrelation) hobject
            simp [hlabel, hcomment, htype]
          case h_2 => cases h
  · intro h
    have hcomment : Vocabulary.comment ≠ Vocabulary.label := by decide
    have htype : Vocabulary.type ≠ Vocabulary.label ∧ Vocabulary.type ≠ Vocabulary.comment := by
      decide
    cases h with
    | label text hpredicate hobject => simp [use?, hpredicate, hobject]
    | comment text hpredicate hobject => simp [use?, hpredicate, hobject, hcomment]
    | kind name kind hpredicate hobject hname =>
      rw [marked?_eq] at hname
      simpa [use?, hpredicate, hobject, htype] using hname
    | relation relation object hpredicate hname hobject =>
      exact use?_of_relation (Relation.ofName?_eq_some_iff.2 hname) hobject

theorem isUsed_iff : statement.IsUsed settings ↔ (statement.use? settings).isSome := by
  rw [Option.isSome_iff_exists]
  exact exists_congr fun use => use?_eq_some_iff.symm

instance : DecidablePred (IsUsed settings) :=
  fun statement => decidable_of_iff ((statement.use? settings).isSome) isUsed_iff.symm

theorem use?_eq_none_iff : statement.use? settings = none ↔ ¬ statement.IsUsed settings := by
  rw [isUsed_iff, Option.not_isSome_iff_eq_none]

/-- The property has the local name of a relation. -/
def NamesRelation (statement : Statement) : Prop :=
  ∃ relation ∈ Relation.all, relation.name = localName statement.predicate

instance (statement : Statement) : Decidable statement.NamesRelation :=
  inferInstanceAs (Decidable (∃ relation ∈ Relation.all,
    relation.name = localName statement.predicate))

/-- The identifiers that occur in a statement of use: its subject, and then its object if it is
related to it. -/
def mentions (statement : Statement) : List Identifier :=
  statement.subject.identifier ::
    if statement.NamesRelation then (statement.object.node?.map Node.identifier).toList else []

end Statement

/-! ### The reading of statements -/

section

variable (settings : Settings) (statements : List Statement)

/-- The statements of use, in order. -/
def used : List Statement :=
  statements.filter (Statement.IsUsed settings)

/-- The identifiers in statements of use, in the order of their first mention. -/
def identifiers : List Identifier :=
  ((used settings statements).flatMap Statement.mentions).eraseDups

/-- The statements of use about an identifier that have this property. -/
def usedFor (identifier : Identifier) (property : String) : List Statement :=
  (used settings statements).filter fun statement =>
    statement.subject.identifier = identifier && statement.predicate = property

/-- What is said last of an identifier. -/
def description (identifier : Identifier) : Description where
  label := lastGiven (·.object.text?) (usedFor settings statements identifier Vocabulary.label)
  comment := lastGiven (·.object.text?) (usedFor settings statements identifier Vocabulary.comment)
  kind := (lastGiven (fun statement => statement.object.iri?.bind fun name =>
    settings.marked? (localName name))
      (usedFor settings statements identifier Vocabulary.type)).getD .other

/-- The objects that an identifier is related to, in order. -/
def targetsOf (identifier : Identifier) (relation : Relation) : List Identifier :=
  ((used settings statements).filter fun statement =>
    statement.subject.identifier = identifier && localName statement.predicate = relation.name
  ).filterMap fun statement => statement.object.node?.map Node.identifier

end

/-- Statements without some that are of no use, and possibly made in other graphs. -/
inductive Trims (settings : Settings) : List Statement → List Statement → Prop where
  /-- There is nothing to leave out. -/
  | nil : Trims settings [] []
  /-- A statement is kept, in the same graph or in another one. -/
  | keep (statement : Statement) (graph : Option Node) {statements kept : List Statement}
    (hrest : Trims settings statements kept) :
    Trims settings (statement :: statements) ({ statement with graph } :: kept)
  /-- A statement that is of no use is left out. -/
  | drop (statement : Statement) (hunused : ¬ statement.IsUsed settings)
    {statements kept : List Statement} (hrest : Trims settings statements kept) :
    Trims settings (statement :: statements) kept

/-! ### Sayings of statements -/

section

variable {settings : Settings} {statement : Statement} {use : Use}

/-- A statement of use names a relation exactly if it is of use for one. -/
theorem Statement.IsUsedFor.namesRelation_iff (h : statement.IsUsedFor settings use) :
    statement.NamesRelation ↔ use.remark.link?.isSome := by
  have hnone {property : String}
      (hproperty : property ∈ [Vocabulary.label, Vocabulary.comment, Vocabulary.type])
      (hpredicate : statement.predicate = property) : ¬ statement.NamesRelation := by
    rintro ⟨relation, -, hname⟩
    have hfound := Relation.ofName?_eq_some_iff.2 hname.symm
    rw [hpredicate, ofName?_localName_eq_none property hproperty] at hfound
    cases hfound
  cases h with
  | label text hpredicate hobject => exact iff_of_false (hnone (by simp) hpredicate) nofun
  | comment text hpredicate hobject => exact iff_of_false (hnone (by simp) hpredicate) nofun
  | kind name kind hpredicate hobject hname =>
    exact iff_of_false (hnone (by simp) hpredicate) nofun
  | relation relation object hpredicate hname hobject =>
    exact iff_of_true ⟨relation, Relation.mem_all relation, hname.symm⟩ rfl

theorem Statement.IsUsedFor.mentions_eq (h : statement.IsUsedFor settings use) :
    Saying.mentions ⟨statement.subject.identifier, use.remark⟩ = statement.mentions := by
  have hnames := h.namesRelation_iff
  unfold Saying.mentions Statement.mentions
  cases h with
  | label text hpredicate hobject =>
    rw [if_neg (mt hnames.1 nofun)]
    rfl
  | comment text hpredicate hobject =>
    rw [if_neg (mt hnames.1 nofun)]
    rfl
  | kind name kind hpredicate hobject hname =>
    rw [if_neg (mt hnames.1 nofun)]
    rfl
  | relation relation object hpredicate hname hobject =>
    rw [if_pos (hnames.2 rfl), hobject]
    rfl

section

/-! The properties with a meaning of their own differ, so each is of use in one way only. -/

theorem Statement.IsUsedFor.label?_eq (h : statement.IsUsedFor settings use) :
    use.remark.label? =
      if statement.predicate = Vocabulary.label then statement.object.text? else none := by
  cases h with
  | label text hpredicate hobject =>
    rw [if_pos hpredicate, hobject]
    rfl
  | comment text hpredicate hobject =>
    rw [if_neg (hpredicate ▸ by decide)]
    rfl
  | kind name kind hpredicate hobject hname =>
    rw [if_neg (hpredicate ▸ by decide)]
    rfl
  | relation stated object hpredicate hname hobject =>
    rw [if_neg fun hlabel => hpredicate (by simp [hlabel])]
    rfl

theorem Statement.IsUsedFor.comment?_eq (h : statement.IsUsedFor settings use) :
    use.remark.comment? =
      if statement.predicate = Vocabulary.comment then statement.object.text? else none := by
  cases h with
  | label text hpredicate hobject =>
    rw [if_neg (hpredicate ▸ by decide)]
    rfl
  | comment text hpredicate hobject =>
    rw [if_pos hpredicate, hobject]
    rfl
  | kind name kind hpredicate hobject hname =>
    rw [if_neg (hpredicate ▸ by decide)]
    rfl
  | relation stated object hpredicate hname hobject =>
    rw [if_neg fun hcomment => hpredicate (by simp [hcomment])]
    rfl

theorem Statement.IsUsedFor.kind?_eq (h : statement.IsUsedFor settings use) :
    use.remark.kind? = if statement.predicate = Vocabulary.type then
      statement.object.iri?.bind fun name => settings.marked? (localName name) else none := by
  cases h with
  | label text hpredicate hobject =>
    rw [if_neg (hpredicate ▸ by decide)]
    rfl
  | comment text hpredicate hobject =>
    rw [if_neg (hpredicate ▸ by decide)]
    rfl
  | kind name kind hpredicate hobject hname =>
    rw [if_pos hpredicate, hobject]
    exact hname.symm
  | relation stated object hpredicate hname hobject =>
    rw [if_neg fun htype => hpredicate (by simp [htype])]
    rfl

end

/-- What is read from statements of use is read from what they say. -/
theorem flatMap_saying?_eq {α : Type} {entries : Saying → List α} {read : Statement → List α}
    (h : ∀ statement use, statement.IsUsedFor settings use →
      entries ⟨statement.subject.identifier, use.remark⟩ = read statement)
    (statements : List Statement) :
    (statements.filterMap (Statement.saying? settings)).flatMap entries =
      (used settings statements).flatMap read := by
  unfold used
  induction statements with
  | nil => rfl
  | cons statement rest ih =>
    rw [List.filterMap_cons, Statement.saying?]
    cases huse : statement.use? settings with
    | none =>
      have hunused := Statement.use?_eq_none_iff.1 huse
      rw [List.filter_cons, if_neg (mt of_decide_eq_true hunused)]
      exact ih
    | some use =>
      have hused := Statement.use?_eq_some_iff.1 huse
      have hmem : statement.IsUsed settings := ⟨use, hused⟩
      rw [List.filter_cons, if_pos (decide_eq_true hmem), List.flatMap_cons, ← ih,
        ← h statement use hused]
      rfl

theorem filterMap_saying?_eq {α : Type} {value? : Saying → Option α} {read? : Statement → Option α}
    (h : ∀ statement use, statement.IsUsedFor settings use →
      value? ⟨statement.subject.identifier, use.remark⟩ = read? statement)
    (statements : List Statement) :
    (statements.filterMap (Statement.saying? settings)).filterMap value? =
      (used settings statements).filterMap read? := by
  rw [List.filterMap_eq_flatMap_toList value?, List.filterMap_eq_flatMap_toList read?]
  refine flatMap_saying?_eq (fun statement use hused => ?_) statements
  rw [h statement use hused]

/-- Statements mention what those of use mention. -/
theorem introduced_saying? (settings : Settings) (statements : List Statement) :
    Saying.introduced (statements.filterMap (Statement.saying? settings)) =
      identifiers settings statements := by
  rw [Saying.introduced, flatMap_saying?_eq fun statement use hused => hused.mentions_eq]
  rfl

/-- The links are the statements of use that name relations. -/
theorem length_links_saying? (settings : Settings) (statements : List Statement) :
    (Saying.links (statements.filterMap (Statement.saying? settings))).length =
      (used settings statements).countP Statement.NamesRelation := by
  have hlinks : (Saying.links (statements.filterMap (Statement.saying? settings))).map
      (fun _ => ()) = (used settings statements).filterMap fun statement =>
        if statement.NamesRelation then some () else none := by
    rw [Saying.links, List.map_filterMap]
    refine filterMap_saying?_eq (fun statement use hused => ?_) statements
    have hnames := hused.namesRelation_iff
    rw [Saying.link?]
    cases hlink : use.remark.link? with
    | none =>
      rw [if_neg (by simp [hnames, hlink])]
      rfl
    | some link =>
      rw [if_pos (by simp [hnames, hlink])]
      rfl
  have hlength := congrArg List.length hlinks
  rw [List.length_map, List.length_filterMap_eq_countP] at hlength
  rw [hlength]
  refine List.countP_congr fun statement _ => ?_
  split
  case isTrue hnames => simp [hnames]
  case isFalse hnames => simp [hnames]

/-- The objects of an identifier are those of the statements that relate it. -/
theorem objects_saying? (settings : Settings) (statements : List Statement)
    (identifier : Identifier) (relation : Relation) :
    Saying.objects (statements.filterMap (Statement.saying? settings)) identifier relation =
      targetsOf settings statements identifier relation := by
  rw [Saying.objects, Saying.links, List.filter_filterMap, List.map_filterMap, targetsOf,
    List.filterMap_filter]
  refine filterMap_saying?_eq (fun statement use hused => ?_) statements
  have hnames := hused.namesRelation_iff
  have hother (hlink : use.remark.link? = none) :
      localName statement.predicate ≠ relation.name := by
    intro hname
    have hsome := hnames.1 ⟨relation, Relation.mem_all relation, hname.symm⟩
    rw [hlink] at hsome
    cases hsome
  cases hused with
  | label text hpredicate hobject =>
    simp [Saying.link?, Use.remark, Remark.link?, hother rfl]
  | comment text hpredicate hobject =>
    simp [Saying.link?, Use.remark, Remark.link?, hother rfl]
  | kind name kind hpredicate hobject hname =>
    simp [Saying.link?, Use.remark, Remark.link?, hother rfl]
  | relation stated object hpredicate hname hobject =>
    have hsame : (decide (localName statement.predicate = relation.name)) =
        decide (stated = relation) := by
      rw [decide_eq_decide, hname, Relation.name_inj]
    rw [hsame, hobject]
    simp only [Saying.link?, Use.remark, Remark.link?, Option.map_some, Option.filter_some]
    split
    · rfl
    · rfl

/-- What is said last of an identifier is what the statements of use about it say last. -/
theorem described_saying? (settings : Settings) (statements : List Statement)
    (identifier : Identifier) :
    Saying.described (statements.filterMap (Statement.saying? settings)) identifier =
      description settings statements identifier := by
  have hgiven {α : Type} (value? : Remark → Option α) (property : String)
      (read? : Statement → Option α)
      (h : ∀ statement use, statement.IsUsedFor settings use → value? use.remark =
        if statement.predicate = property then read? statement else none) :
      lastGiven (Saying.given? value? identifier)
          (statements.filterMap (Statement.saying? settings)) =
        lastGiven read? (usedFor settings statements identifier property) := by
    rw [lastGiven, lastGiven, usedFor, List.filterMap_filter]
    refine congrArg List.getLast? (filterMap_saying?_eq (fun statement use hused => ?_) statements)
    rw [Saying.given?, h statement use hused]
    by_cases hsubject : identifier = statement.subject.identifier
    · simp [hsubject]
    · simp [hsubject, Ne.symm hsubject]
  rw [Saying.described, description,
    hgiven Remark.label? Vocabulary.label _ fun _ _ hused => hused.label?_eq,
    hgiven Remark.comment? Vocabulary.comment _ fun _ _ hused => hused.comment?_eq,
    hgiven Remark.kind? Vocabulary.type _ fun _ _ hused => hused.kind?_eq]

end

/-! ### Loading reads statements -/

/-- A statement counts if it is of no use. -/
theorem skipped_add (settings : Settings) (progress : Progress) (statement : Statement) :
    (progress.add settings statement).skipped =
      progress.skipped + if statement.IsUsed settings then 0 else 1 := by
  unfold Progress.add
  cases huse : statement.use? settings with
  | none => rw [if_neg (Statement.use?_eq_none_iff.1 huse)]
  | some use =>
    rw [if_pos ⟨use, Statement.use?_eq_some_iff.1 huse⟩]
    rfl

/-- All statements of no use count. -/
theorem skipped_load (settings : Settings) (statements : List Statement) :
    (load settings statements).skipped =
      statements.countP fun statement => ¬ statement.IsUsed settings := by
  have hskipped (progress : Progress) :
      (statements.foldl (Progress.add settings) progress).skipped =
        progress.skipped + statements.countP fun statement => ¬ statement.IsUsed settings := by
    induction statements generalizing progress with
    | nil => rfl
    | cons statement rest ih =>
      rw [List.foldl_cons, ih, skipped_add, List.countP_cons]
      by_cases hused : statement.IsUsed settings
      · simp [hused]
      · simp [hused]
        omega
  exact (hskipped {}).trans (Nat.zero_add _)

theorem Trims.filterMap_saying?_eq {settings : Settings} {statements kept : List Statement}
    (h : Trims settings statements kept) :
    kept.filterMap (Statement.saying? settings) =
      statements.filterMap (Statement.saying? settings) := by
  induction h with
  | nil => rfl
  | keep statement graph hrest ih =>
    rw [List.filterMap_cons, List.filterMap_cons, ih]
    rfl
  | drop statement hunused hrest ih =>
    rw [List.filterMap_cons_none, ih]
    rw [Statement.saying?, Statement.use?_eq_none_iff.2 hunused, Option.map_none]

/-- Loading counts the statements that are of no use. Without some of them, and whatever graphs the
others are made in, the knowledge graph is the same. As long as ordinals suffice for the relations,
it has what the statements of use say: entities in the order of their first mention, with the label,
the comment and the kind that are said last, and their relations in order. -/
theorem load_reads (settings : Settings) (statements : List Statement) :
    (load settings statements).skipped =
      statements.countP (fun statement => ¬ statement.IsUsed settings) ∧
    (∀ kept, Trims settings statements kept →
      (load settings kept).graph = (load settings statements).graph) ∧
    (((used settings statements).countP Statement.NamesRelation ≤ UInt32.size) →
      (load settings statements).graph.Holds (identifiers settings statements)
        (description settings statements) (targetsOf settings statements) ∧
      (load settings statements).graph.assertionCount =
        (used settings statements).countP Statement.NamesRelation) := by
  refine ⟨skipped_load settings statements, fun kept htrims => ?_, fun hcount => ?_⟩
  · rw [graph_load, graph_load, htrims.filterMap_saying?_eq]
  · have hlinks := length_links_saying? settings statements
    have htells := tells_foldl_say (hlinks.trans_le hcount)
    have hholds := htells.holds
    have hdescribed : Saying.described (statements.filterMap (Statement.saying? settings)) =
        description settings statements := by
      funext identifier
      exact described_saying? settings statements identifier
    have hobjects : Saying.objects (statements.filterMap (Statement.saying? settings)) =
        targetsOf settings statements := by
      funext identifier relation
      exact objects_saying? settings statements identifier relation
    rw [introduced_saying?, hdescribed, hobjects] at hholds
    rw [graph_load]
    exact ⟨hholds, htells.assertionCount.trans hlinks⟩

/-- A road without a name and its way to stop, in statements of which the second and the last are of
no use. -/
def mixedStatements : List Statement := [
  { subject := .anonymous 0
    predicate := "http://example.org/plan#hasOperator"
    object := .node (.blank "stop") },
  { subject := .iri "urn:hill"
    predicate := Vocabulary.type
    object := .node (.iri "http://example.org/plan#Road") },
  { subject := .blank "stop"
    predicate := Vocabulary.label
    object := .literal "halt"
    graph := some (.iri "urn:drafts") },
  { subject := .anonymous 0
    predicate := Vocabulary.type
    object := .node (.iri "http://example.org/plan#DomainDefinition") },
  { subject := .blank "stop"
    predicate := Vocabulary.label
    object := .literal "stop" },
  { subject := .blank "stop"
    predicate := "http://example.org/plan#hasDomain"
    object := .literal "hill" }]

/-- The hill is no entity, and the way to stop has its last label. Without the hill and in another
graph the same is loaded. -/
theorem mixedStatements_reads : (load {} mixedStatements).skipped = 2 ∧
    (load {} (mixedStatements.head (by decide) :: (mixedStatements.drop 2).map
      fun statement => { statement with graph := none })).graph =
        (load {} mixedStatements).graph ∧
    (load {} mixedStatements).graph.entityCount = 2 ∧
    (load {} mixedStatements).graph.assertionCount = 1 ∧
    (load {} mixedStatements).graph.base.entitiesOfKind .domain = [.ofSlot 0] ∧
    (load {} mixedStatements).graph.base.related (.ofSlot 0) .hasOperator = [.ofSlot 1] ∧
    (load {} mixedStatements).graph.base.label (.ofSlot 1) = some "stop" ∧
    (load {} mixedStatements).graph.base.iri (.ofSlot 1) = some "_:stop" := by
  have hcount : (used {} mixedStatements).countP Statement.NamesRelation ≤ UInt32.size := by
    decide
  obtain ⟨hskipped, hsame, hloaded⟩ := load_reads {} mixedStatements
  obtain ⟨hholds, hassertions⟩ := hloaded hcount
  have hroad : numberIn (identifiers {} mixedStatements) (.anonymous 0) = .ofSlot 0 := by decide
  have hstop : numberIn (identifiers {} mixedStatements) (.named "_:stop") = .ofSlot 1 := by decide
  have hrelated := hholds.related (.anonymous 0) (by decide) .hasOperator
  have hlabel := hholds.label (.named "_:stop") (by decide)
  have hiri := hholds.iri "_:stop" (by decide)
  rw [hroad] at hrelated
  rw [hstop] at hlabel hiri
  refine ⟨hskipped, hsame _ ?_, hholds.entityCount, hassertions, ?_, ?_, hlabel, hiri⟩
  · refine .keep _ _ (.drop _ (by decide) ?_)
    exact .keep _ _ (.keep _ _ (.keep _ _ (.keep _ _ .nil)))
  · rw [hholds.entitiesOfKind]
    decide
  · rw [hrelated]
    decide

end TaskNet.Rdf
