import TaskNet.Proofs.SameSayings

/-!
# Definitions that are rendered

What a draft renders can be told without the numbers of its entities: every definition has a unit,
known by the identifier of the definition, and the definitions of a kind come in the order of their
first mention. If the sayings of two drafts agree, then both have the same units, but possibly in
another order.
-/

namespace TaskNet

/-! ### Units by identifiers -/

namespace KnowledgeGraph

/-- What is emitted for the units of a kind, each with the identifier of the definition. -/
def emissions (graph : KnowledgeGraph) (settings : Settings) (kind : DefinitionKind) :
    List (Option Identifier × Emission String) :=
  ((generate graph.base settings).units.filter (·.kind = kind)).map fun unit =>
    ((graph.profile? unit.entity).map (·.identifier), unit.emission)

/-- A graph renders these definitions of each kind in order, each with what is emitted for it. -/
def Renders (graph : KnowledgeGraph) (settings : Settings)
    (definitions : DefinitionKind → List Identifier)
    (emission : DefinitionKind → Identifier → Emission String) : Prop :=
  ∀ kind, graph.emissions settings kind =
    (definitions kind).map fun identifier => (some identifier, emission kind identifier)

end KnowledgeGraph

/-- The text of definitions: domains come before problems, and what failed has no text. -/
def written (definitions : DefinitionKind → List Identifier)
    (emission : DefinitionKind → Identifier → Emission String) : String :=
  String.join ([DefinitionKind.domain, .problem].flatMap fun kind =>
    (definitions kind).filterMap fun identifier => (emission kind identifier).outcome.toOption)

/-- The text of a graph is that of the definitions that it renders. -/
theorem KnowledgeGraph.Renders.text_eq {graph : KnowledgeGraph} {settings : Settings}
    {definitions : DefinitionKind → List Identifier}
    {emission : DefinitionKind → Identifier → Emission String}
    (h : graph.Renders settings definitions emission) :
    (generate graph.base settings).text = written definitions emission := by
  have htexts (kind : DefinitionKind) :
      ((generate graph.base settings).units.filter (·.kind = kind)).filterMap (·.text?) =
        (definitions kind).filterMap fun identifier =>
          (emission kind identifier).outcome.toOption := by
    have hemissions := congrArg
      (List.filterMap fun entry : Option Identifier × Emission String =>
        entry.2.outcome.toOption) (h kind)
    rw [emissions, List.filterMap_map, List.filterMap_map] at hemissions
    exact hemissions
  rw [Program.text, units_generate, List.filterMap_append, htexts, htexts, written,
    List.flatMap_cons, List.flatMap_singleton]

/-! ### Definitions in the order of their first mention -/

namespace Saying

variable {sayings sayings' : List Saying}

/-- The definitions of a kind among what is said, in the order of their first mention. -/
def definitions (sayings : List Saying) (kind : DefinitionKind) : List Identifier :=
  (introduced sayings).filter fun identifier =>
    (described sayings identifier).kind = kind.entityKind

/-- Something is said of every definition. -/
theorem exists_subject_of_kind {identifier : Identifier} {kind : DefinitionKind}
    (h : (described sayings identifier).kind = kind.entityKind) :
    ∃ saying ∈ sayings, identifier = saying.subject := by
  by_contra hnone
  have hdefault : described sayings identifier = {} := by
    apply described_eq_default
    intro saying hsaying hsame
    exact hnone ⟨saying, hsaying, hsame⟩
  rw [hdefault] at h
  cases kind with
  | domain => cases h
  | problem => cases h

theorem mem_definitions {identifier : Identifier} {kind : DefinitionKind} :
    identifier ∈ definitions sayings kind ↔
      (described sayings identifier).kind = kind.entityKind := by
  rw [definitions, List.mem_filter, decide_eq_true_eq, and_iff_right_iff_imp]
  intro h
  obtain ⟨saying, hsaying, rfl⟩ := exists_subject_of_kind h
  exact subject_mem_introduced saying hsaying

/-- If sayings agree, then they have the same definitions up to their order. -/
theorem definitions_perm (hagree : Agree sayings sayings') (kind : DefinitionKind) :
    (definitions sayings kind).Perm (definitions sayings' kind) := by
  have hnodup (sayings : List Saying) : (definitions sayings kind).Nodup :=
    (nodup_eraseDups _).filter _
  rw [List.perm_ext_iff_of_nodup (hnodup sayings) (hnodup sayings')]
  intro identifier
  rw [mem_definitions, mem_definitions, hagree.described]

end Saying

/-! ### What drafts render -/

namespace Draft

/-- What is emitted for the entity with an identifier. -/
def emission (draft : Draft) (settings : Settings) (kind : DefinitionKind)
    (identifier : Identifier) : Emission String :=
  kind.render (settings.reading draft.freeze.base) (draft.mention identifier).1

variable {draft draft' : Draft} {sayings sayings' : List Saying}

theorem emission_eq {identifier : Identifier} {id : EntityId}
    (hfind : draft.find? identifier = some id) (settings : Settings) (kind : DefinitionKind) :
    draft.emission settings kind identifier =
      kind.render (settings.reading draft.freeze.base) id := by
  rw [emission, mention_of_find?_eq_some hfind]

namespace Outlines

/-- What is mentioned is found. -/
theorem exists_find? (h : draft.Outlines sayings) {identifier : Identifier}
    (hmem : identifier ∈ Saying.introduced sayings) :
    ∃ id, draft.find? identifier = some id := by
  rw [← Option.ne_none_iff_exists']
  intro hnone
  rw [h.wellFormed.find?_eq_none_iff, h.identifiers] at hnone
  exact hnone hmem

/-- A draft renders the definitions among what was said. -/
theorem renders (h : draft.Outlines sayings) (settings : Settings) :
    draft.freeze.Renders settings (Saying.definitions sayings) (draft.emission settings) := by
  intro kind
  have hfind : ∀ profile ∈ draft.profiles, draft.find? profile.identifier = some profile.id :=
    fun profile hprofile => (h.wellFormed.find? _ _).2 ⟨profile, hprofile, rfl, rfl⟩
  have hkind : ∀ profile ∈ draft.profiles.toList, decide (draft.freeze.kind profile.id =
      kind.entityKind) = decide ((Saying.described sayings profile.identifier).kind =
        kind.entityKind) := by
    intro profile hprofile
    rw [Array.mem_toList_iff] at hprofile
    obtain ⟨found, hfound, -, hdescribed⟩ := h.profile?_freeze (hfind profile hprofile)
    rw [KnowledgeGraph.kind, hfound, ← hdescribed]
    rfl
  have hdefinitions : Saying.definitions sayings kind =
      (draft.profiles.toList.filter fun profile =>
        draft.freeze.kind profile.id = kind.entityKind).map (·.identifier) := by
    rw [Saying.definitions, ← h.identifiers, Draft.identifiers, List.filter_map,
      List.filter_congr hkind]
    rfl
  rw [KnowledgeGraph.emissions, filter_units_generate, KnowledgeGraph.entitiesOfKind_base,
    h.wellFormed.ids_freeze, hdefinitions, List.filter_map, List.map_map, List.map_map,
    List.map_map]
  refine List.map_congr_left fun profile hprofile => ?_
  have hmem := Array.mem_toList_iff.1 (List.mem_filter.1 hprofile).1
  obtain ⟨found, hfound, hidentifier, -⟩ := h.profile?_freeze (hfind profile hmem)
  simp only [Function.comp_apply, Job.run, hfound, Option.map_some, hidentifier,
    emission_eq (hfind profile hmem)]

/-- Definitions are rendered alike by drafts of sayings that agree, so what is emitted by one of them
stands for what is emitted by the other. -/
theorem renders_alike (h : draft.Outlines sayings) (h' : draft'.Outlines sayings')
    (hagree : Saying.Agree sayings sayings')
    (hnames : ∀ identifier ∈ Saying.introduced sayings', identifier.isAnonymous = false)
    (settings : Settings) :
    draft'.freeze.Renders settings (Saying.definitions sayings') (draft.emission settings) := by
  intro kind
  rw [h'.renders settings kind]
  refine List.map_congr_left fun identifier hmem' => ?_
  have hmem := (Saying.definitions_perm hagree kind).mem_iff.2 hmem'
  have hintroduced' := (List.mem_filter.1 hmem').1
  obtain ⟨id, hfind⟩ := h.exists_find? (List.mem_filter.1 hmem).1
  obtain ⟨id', hfind'⟩ := h'.exists_find? hintroduced'
  obtain ⟨name, rfl⟩ := Identifier.exists_eq_named (hnames identifier hintroduced')
  have hmatches := h.matchesOn h' hagree
  have hemission : draft.emission settings kind (.named name) =
      draft'.emission settings kind (.named name) := by
    rw [emission_eq hfind, emission_eq hfind']
    exact DefinitionKind.render_eq hmatches ⟨name, hfind, hfind'⟩ kind settings.strictAmbiguity
  rw [hemission]

end Outlines

end Draft

end TaskNet
