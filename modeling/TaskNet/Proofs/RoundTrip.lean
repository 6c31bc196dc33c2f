import TaskNet.Proofs.Codecs
import TaskNet.Proofs.KeptTexts

/-!
# Texts that are read back

Every value of a domain type is read back from its JSON text, on one line or on several, as long as
its numbers fit their width. In particular the summary of a knowledge base is read back from what is
printed of it.
-/

namespace TaskNet

open Json (Value Restores)

/-- A value is read back from its text in both layouts. -/
def IsReadBack {α : Type} (encode : α → Value) (decode : Value → Option α) (value : α) : Prop :=
  (Value.parse? (encode value).compactText.toList).bind decode = some value ∧
  (Value.parse? (encode value).prettyText.toList).bind decode = some value

namespace Json.Restores

variable {α : Type} {encode : α → Value} {decode : Value → Option α} {value : α}

/-- A text that spells what a value is written as is read as the value. -/
theorem bind_parse? (h : Restores encode decode value) {text behind : List Char}
    (hspells : Token.Spells text (encode value).tokens)
    (hbehind : ∀ c ∈ behind, Token.isBlank c) :
    (Value.parse? (text ++ behind)).bind decode = some value := by
  rw [h.isPlain.parse?_of_spells hspells hbehind, Option.bind_some, h.decode_encode]

theorem isReadBack (h : Restores encode decode value) : IsReadBack encode decode value := by
  have hcompact := h.bind_parse? h.isPlain.spells_compact (List.forall_mem_nil _)
  have hpretty := h.bind_parse? (h.isPlain.spells_pretty 0) (List.forall_mem_nil _)
  rw [List.append_nil] at hcompact hpretty
  unfold IsReadBack Value.compactText Value.prettyText
  rw [String.toList_ofList, String.toList_ofList]
  exact ⟨hcompact, hpretty⟩

end Json.Restores

/-! ### Summaries of knowledge graphs -/

namespace KnowledgeGraph

variable {graph : KnowledgeGraph}

theorem number_le_entityCount {kind : EntityKind} :
    ∀ entity ∈ graph.base.entitiesOfKind kind, entity.number ≤ graph.entityCount := by
  intro entity hentity
  have hslot := EntityId.mem_first.1 (List.mem_filter.1 hentity).1
  have hpos := entity.pos
  unfold EntityId.slot at hslot
  omega

/-- An entity is related no more often than there are assertions. -/
theorem length_related_le (entity : EntityId) (relation : Relation) :
    (graph.related entity relation).length ≤ graph.assertionCount := by
  unfold related
  split
  · rw [List.length_map, List.length_mergeSort]
    exact Nat.le_trans (List.length_filter_le _ _) (List.length_filter_le _ _)
  · exact Nat.zero_le _

/-- The numbers in the summary of a graph fit if those of entities and assertions do. -/
theorem fits_summary (hentities : graph.entityCount < UInt64.size)
    (hassertions : graph.assertionCount < UInt64.size) : graph.base.summary.Fits := by
  have hrelated (entity : EntityId) (relation : Relation) :
      (graph.base.related entity relation).length < UInt64.size :=
    Nat.lt_of_le_of_lt (graph.length_related_le entity relation) hassertions
  constructor
  · intro domain hdomain
    obtain ⟨entity, hentity, rfl⟩ := List.mem_map.1 hdomain
    have hnumber := number_le_entityCount entity hentity
    exact ⟨Nat.lt_of_le_of_lt hnumber hentities, hrelated _ _, hrelated _ _⟩
  · intro problem hproblem
    obtain ⟨entity, hentity, rfl⟩ := List.mem_map.1 hproblem
    have hnumber := number_le_entityCount entity hentity
    exact ⟨Nat.lt_of_le_of_lt hnumber hentities, hrelated _ _, hrelated _ _⟩

end KnowledgeGraph

namespace CommandLine

/-- What is printed of a summary as JSON is read back. -/
theorem listing_is_read_back {options : Inspect} (hjson : options.json = true)
    {summary : Summary} (hfits : summary.Fits) :
    (Value.parse? (options.listing summary).toList).bind Summary.ofJson? = some summary := by
  have hrestores := Summary.restores hfits
  have hnewline : ∀ c ∈ ['\n'], Json.Token.isBlank c := by simp [Json.Token.isBlank]
  rw [Inspect.listing, if_pos hjson, String.toList_append, Value.prettyText, String.toList_ofList]
  exact hrestores.bind_parse? (hrestores.isPlain.spells_pretty 0) hnewline

end CommandLine

/-- Values of all types that are written as JSON are read back from their texts in both layouts.
Numbers of entities and counts have to fit 64 bits, and ordinals 32. What a run prints of the
definitions in a knowledge base as JSON is read as the summary of this knowledge base. -/
theorem written_values_are_read_back :
    (∀ relation, IsReadBack Relation.toJson Relation.ofJson? relation) ∧
    (∀ id : EntityId, id.number < UInt64.size → IsReadBack EntityId.toJson EntityId.ofJson? id) ∧
    (∀ kind, IsReadBack EntityKind.toJson EntityKind.ofJson? kind) ∧
    (∀ entity : Entity, entity.id.number < UInt64.size →
      IsReadBack Entity.toJson Entity.ofJson? entity) ∧
    (∀ assertion : Assertion, assertion.subject.number < UInt64.size →
      assertion.object.number < UInt64.size → assertion.ordinal < UInt32.size →
        IsReadBack Assertion.toJson Assertion.ofJson? assertion) ∧
    (∀ link : Link, link.ordinal < UInt32.size → IsReadBack Link.toJson Link.ofJson? link) ∧
    (∀ settings, IsReadBack Settings.toJson Settings.ofJson? settings) ∧
    (∀ document, IsReadBack KnowledgeDocument.toJson KnowledgeDocument.ofJson? document) ∧
    (∀ record, IsReadBack EntityRecord.toJson EntityRecord.ofJson? record) ∧
    (∀ record, IsReadBack RelationRecord.toJson RelationRecord.ofJson? record) ∧
    (∀ summary : Summary, summary.Fits → IsReadBack Summary.toJson Summary.ofJson? summary) ∧
    ∀ (arguments : List String) (folder : Folder) (options : CommandLine.Inspect)
      (settings : Settings) (graph : KnowledgeGraph),
      CommandLine.Request.parse? arguments = some (.inspect options) → options.json = true →
      ((CommandLine.loadSource CommandLine.Session.console options.toSource id).run
        { folder }).1 = .ok (settings, graph) →
      graph.entityCount < UInt64.size → graph.assertionCount < UInt64.size →
        (CommandLine.Session.run arguments folder).1 = .success ∧
          (Value.parse? (CommandLine.Session.run arguments folder).2.printed.toList).bind
            Summary.ofJson? = some graph.base.summary := by
  refine ⟨fun relation => relation.restores.isReadBack,
    fun id hid => (EntityId.restores hid).isReadBack,
    fun kind => kind.restores.isReadBack,
    fun entity hid => (Entity.restores hid).isReadBack,
    fun assertion hsubject hobject hordinal =>
      (Assertion.restores hsubject hobject hordinal).isReadBack,
    fun link hordinal => (Link.restores hordinal).isReadBack,
    fun settings => settings.restores.isReadBack,
    fun document => document.restores.isReadBack,
    fun record => record.restores.isReadBack,
    fun record => record.restores.isReadBack,
    fun summary hfits => (Summary.restores hfits).isReadBack, ?_⟩
  intro arguments folder options settings graph hrequest hjson hload hentities hassertions
  have hrun : CommandLine.Session.run arguments folder = (.success,
      { folder, printed := "" ++ options.listing graph.base.summary }) := by
    rw [← CommandLine.run_inspect hload]
    exact CommandLine.run_of_parse? hrequest folder
  rw [hrun]
  refine ⟨rfl, ?_⟩
  simp only [String.empty_append]
  exact CommandLine.listing_is_read_back hjson (graph.fits_summary hentities hassertions)

/-- The summary that is printed of a road is read back, and so is a label that has to be escaped. -/
theorem roads_listing_is_read_back :
    let first : EntityId := .ofSlot 0
    let road : Entity := { id := first, iri := "urn:road", label := some "a \"road\"\n\x01" }
    IsReadBack EntityId.toJson EntityId.ofJson? first ∧
    IsReadBack Entity.toJson Entity.ofJson? road ∧
    IsReadBack Assertion.toJson Assertion.ofJson? ⟨first, .hasMethod, first, 0⟩ ∧
    IsReadBack Link.toJson Link.ofJson? ⟨.hasMethod, 4294967295⟩ ∧
    IsReadBack Summary.toJson Summary.ofJson? CommandLine.roadsGraph.base.summary ∧
    (Value.parse? (CommandLine.Session.run ["inspect", "roads.json", "--json"]
      CommandLine.roads).2.printed.toList).bind Summary.ofJson? =
        some { domains := [⟨1, "urn:road", some "Road", 0, 0⟩] } := by
  intro first road
  obtain ⟨-, hid, -, hentity, hassertion, hlink, -, -, -, -, hsummary, hinspect⟩ :=
    written_values_are_read_back
  have hfirst : first.number < UInt64.size := by decide
  have hentities : CommandLine.roadsGraph.entityCount < UInt64.size := by decide
  have hassertions : CommandLine.roadsGraph.assertionCount < UInt64.size := by decide
  have hfits := CommandLine.roadsGraph.fits_summary hentities hassertions
  have hprinted := hinspect ["inspect", "roads.json", "--json"] CommandLine.roads
    { input := "roads.json", json := true } {} CommandLine.roadsGraph (by decide +kernel) rfl
    (by decide +kernel) hentities hassertions
  refine ⟨hid first hfirst, hentity road hfirst, hassertion _ hfirst hfirst (by decide),
    hlink _ (by decide), hsummary _ hfits, hprinted.2.trans ?_⟩
  decide +kernel

end TaskNet
