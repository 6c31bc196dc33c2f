import Mathlib.Data.List.Nodup
import Mathlib.Data.List.Perm.Subperm
import TaskNet.Proofs.RecordFields

/-!
# Which values are documents

A JSON value is decoded as a document if and only if it is one of the values that give a document,
and then it is decoded as the one document that it gives. Each of the three kinds of records may be
an object, with its members in any order, or an array.
-/

namespace TaskNet

open Json

/-! ### Values that give a field -/

namespace Json

variable {α : Type}

/-- An optional text is given by a text, or by null if there is none. -/
def IsOptionalText (text? : Option String) (value : Value) : Prop :=
  value = .ofOption .string text?

/-- A list is given by an array, item by item. -/
def IsListOf (isGivenBy : α → Value → Prop) (values : List α) (value : Value) : Prop :=
  ∃ items, value = .array items ∧ List.Forall₂ isGivenBy values items

/-- The value of a field that may be left out is given by a member, or it is the default and no
member has the name of the field. -/
def MayGive (isGivenBy : α → Value → Prop) (default : α) (members : List (String × Value))
    (name : String) (value : α) : Prop :=
  (∃ given, (name, given) ∈ members ∧ isGivenBy value given) ∨
    name ∉ members.map (·.1) ∧ value = default

/-- A decoder succeeds on the values that give a result, with this result. -/
structure Decodes (decode : Value → Option α) (isGivenBy : α → Value → Prop) : Prop where
  eq_some_iff : ∀ {value : Value} {result : α}, decode value = some result ↔ isGivenBy result value

theorem decodes_string : Decodes Value.asString? fun text value => value = .string text where
  eq_some_iff {value text} := by cases value <;> simp [Value.asString?]

theorem decodes_optionalText : Decodes (Value.asOption? Value.asString?) IsOptionalText where
  eq_some_iff {value text?} := by
    unfold IsOptionalText
    cases value <;> cases text? <;> simp [Value.asOption?, Value.asString?, Value.ofOption]

namespace Decodes

variable {decode : Value → Option α} {isGivenBy : α → Value → Prop}

theorem mapM_eq_some_iff (h : Decodes decode isGivenBy) {items : List Value} {values : List α} :
    items.mapM decode = some values ↔ List.Forall₂ isGivenBy values items := by
  induction items generalizing values with
  | nil => simp [eq_comm]
  | cons item items ih =>
    simp only [List.mapM_cons, Option.bind_eq_bind, Option.bind_eq_some_iff, Option.pure_def,
      Option.some.injEq, h.eq_some_iff, ih, List.forall₂_cons_right_iff]
    constructor
    · rintro ⟨value, hvalue, rest, hrest, rfl⟩
      exact ⟨value, rest, hvalue, hrest, rfl⟩
    · rintro ⟨value, rest, hvalue, hrest, rfl⟩
      exact ⟨value, hvalue, rest, hrest, rfl⟩

theorem list (h : Decodes decode isGivenBy) :
    Decodes (Value.asList? decode) (IsListOf isGivenBy) where
  eq_some_iff {value values} := by
    unfold IsListOf
    cases value <;> simp [Value.asList?, h.mapM_eq_some_iff]

variable {fields : Fields} {name : String}

theorem required_eq_some_iff (h : Decodes decode isGivenBy)
    (hnodup : (fields.given.map (·.1)).Nodup) {result : α} :
    fields.required name decode = some result ↔
      ∃ given, (name, given) ∈ fields.given ∧ isGivenBy result given := by
  simp only [Fields.required, Fields.get?, Option.bind_eq_some_iff, lookup_eq_some_iff_mem hnodup,
    h.eq_some_iff]

theorem withDefault_eq_some_iff (h : Decodes decode isGivenBy)
    (hnodup : (fields.given.map (·.1)).Nodup) {default result : α} :
    fields.withDefault name default decode = some result ↔
      MayGive isGivenBy default fields.given name result := by
  unfold MayGive Fields.withDefault Fields.get?
  simp only [← lookup_eq_none_iff_notMem, ← lookup_eq_some_iff_mem hnodup, ← h.eq_some_iff]
  cases fields.given.lookup name with
  | none => simp [eq_comm]
  | some given => simp

end Decodes

/-- Members that include those of a closed record are these, in some order. -/
theorem perm_of_subset {members expected : List (String × Value)}
    (hnodup : (members.map (·.1)).Nodup) (hnames : members.map (·.1) ⊆ expected.map (·.1))
    (hexpected : (expected.map (·.1)).Nodup) (hsubset : expected ⊆ members) :
    members.Perm expected := by
  have hlength := (List.subperm_of_subset hnodup hnames).length_le
  rw [List.length_map, List.length_map] at hlength
  have hsubperm := List.subperm_of_subset (List.Nodup.of_map _ hexpected) hsubset
  exact (hsubperm.perm_of_length_le hlength).symm

end Json

open Json

/-! ### Relation records -/

namespace RelationRecord

variable {record : RelationRecord} {fields : Fields}

/-- A relation record is given by its two texts, under their names or in order. -/
inductive IsGivenBy (record : RelationRecord) : Value → Prop
  | object {members : List (String × Value)} :
      members.Perm [("relation", .string record.relation), ("target", .string record.target)] →
        IsGivenBy record (.object members)
  | array : IsGivenBy record (.array [.string record.relation, .string record.target])

/-- Members hold the fields of a relation record. -/
structure IsHeldBy (record : RelationRecord) (members : List (String × Value)) : Prop where
  relation : ("relation", .string record.relation) ∈ members
  target : ("target", .string record.target) ∈ members

/-- The relation record in the fields that a value gives. -/
def ofFields? (fields : Fields) : Option RelationRecord := do
  let relation ← fields.required "relation" Value.asString?
  let target ← fields.required "target" Value.asString?
  return { relation, target }

theorem decodesRecord : DecodesRecord ["relation", "target"] ofJson? ofFields? where
  nodup := by decide
  decode_eq _ := rfl
  read_eq fields fields' h := by
    have htext := ignoresOrder_asString?
    unfold ofFields?
    rw [h.required_eq "relation" htext, h.required_eq "target" htext]

theorem ofFields?_eq_some_iff (hnodup : (fields.given.map (·.1)).Nodup) :
    ofFields? fields = some record ↔ record.IsHeldBy fields.given := by
  simp only [ofFields?, Option.bind_eq_bind, Option.bind_eq_some_iff, Option.pure_def,
    Option.some.injEq, decodes_string.required_eq_some_iff hnodup]
  constructor
  · rintro ⟨relation, ⟨_, hrelation, rfl⟩, target, ⟨_, htarget, rfl⟩, rfl⟩
    exact ⟨hrelation, htarget⟩
  · rintro ⟨hrelation, htarget⟩
    exact ⟨_, ⟨_, hrelation, rfl⟩, _, ⟨_, htarget, rfl⟩, rfl⟩

theorem decodes : Decodes ofJson? IsGivenBy where
  eq_some_iff {value record} := by
    rw [decodesRecord.decode_eq_some_iff_of_read ofFields?_eq_some_iff]
    constructor
    · rintro ⟨fields, hgiven, hrelation, htarget⟩
      cases hgiven with
      | object hnodup hnames =>
        exact .object (perm_of_subset hnodup hnames (by simp) (by simp [hrelation, htarget]))
      | @array items hlength =>
        match items with
        | [] => simp at hrelation
        | [_] => simp at htarget
        | [first, second] =>
          obtain rfl : Value.string record.relation = first := by simpa using hrelation
          obtain rfl : Value.string record.target = second := by simpa using htarget
          exact .array
        | _ :: _ :: _ :: _ => simp at hlength
    · rintro (hperm | _)
      · have hkeys := hperm.map (·.1)
        have hgiven := Fields.IsGivenBy.object (hkeys.nodup_iff.2 decodesRecord.nodup) hkeys.subset
        exact ⟨_, hgiven, hperm.mem_iff.2 (by simp), hperm.mem_iff.2 (by simp)⟩
      · exact ⟨_, .array (Nat.le_refl _), by simp, by simp⟩

end RelationRecord

/-! ### Entity records -/

namespace EntityRecord

variable {record : EntityRecord} {fields : Fields}

/-- The fields of an entity record, in order. -/
def fieldNames : List String := ["id", "label", "comment", "types", "relations"]

/-- Members hold the fields of an entity record. -/
structure IsHeldBy (record : EntityRecord) (members : List (String × Value)) : Prop where
  id : ("id", .string record.id) ∈ members
  label : MayGive IsOptionalText none members "label" record.label
  comment : MayGive IsOptionalText none members "comment" record.comment
  types : MayGive (IsListOf fun name value => value = .string name) [] members "types" record.types
  relations : MayGive (IsListOf RelationRecord.IsGivenBy) [] members "relations" record.relations

/-- An entity record is given by an object whose members are some of its fields, none of them twice,
or by an array of its first fields, in order. -/
inductive IsGivenBy (record : EntityRecord) : Value → Prop
  | object {members : List (String × Value)} :
      (members.map (·.1)).Nodup → members.map (·.1) ⊆ fieldNames → record.IsHeldBy members →
        IsGivenBy record (.object members)
  | array {items : List Value} :
      items.length ≤ fieldNames.length → record.IsHeldBy (fieldNames.zip items) →
        IsGivenBy record (.array items)

/-- The entity record in the fields that a value gives. -/
def ofFields? (fields : Fields) : Option EntityRecord := do
  let id ← fields.required "id" Value.asString?
  let label ← fields.withDefault "label" none (Value.asOption? Value.asString?)
  let comment ← fields.withDefault "comment" none (Value.asOption? Value.asString?)
  let types ← fields.withDefault "types" [] (Value.asList? Value.asString?)
  let relations ← fields.withDefault "relations" [] (Value.asList? RelationRecord.ofJson?)
  return { id, label, comment, types, relations }

theorem decodesRecord : DecodesRecord fieldNames ofJson? ofFields? where
  nodup := by decide
  decode_eq _ := rfl
  read_eq fields fields' h := by
    have htext := ignoresOrder_asString?
    have hrelation := RelationRecord.decodesRecord.ignoresOrder
    unfold ofFields?
    rw [h.required_eq "id" htext, h.withDefault_eq "label" none htext.asOption?,
      h.withDefault_eq "comment" none htext.asOption?, h.withDefault_eq "types" [] htext.asList?,
      h.withDefault_eq "relations" [] hrelation.asList?]

theorem ofFields?_eq_some_iff (hnodup : (fields.given.map (·.1)).Nodup) :
    ofFields? fields = some record ↔ record.IsHeldBy fields.given := by
  simp only [ofFields?, Option.bind_eq_bind, Option.bind_eq_some_iff, Option.pure_def,
    Option.some.injEq, decodes_string.required_eq_some_iff hnodup,
    decodes_optionalText.withDefault_eq_some_iff hnodup,
    decodes_string.list.withDefault_eq_some_iff hnodup,
    RelationRecord.decodes.list.withDefault_eq_some_iff hnodup]
  constructor
  · rintro ⟨id, ⟨_, hid, rfl⟩, label, hlabel, comment, hcomment, types, htypes, relations,
      hrelations, rfl⟩
    exact ⟨hid, hlabel, hcomment, htypes, hrelations⟩
  · rintro ⟨hid, hlabel, hcomment, htypes, hrelations⟩
    exact ⟨_, ⟨_, hid, rfl⟩, _, hlabel, _, hcomment, _, htypes, _, hrelations, rfl⟩

theorem decodes : Decodes ofJson? IsGivenBy where
  eq_some_iff {value record} := by
    rw [decodesRecord.decode_eq_some_iff_of_read ofFields?_eq_some_iff]
    constructor
    · rintro ⟨fields, ⟨hnodup, hnames⟩ | hlength, hheld⟩
      · exact .object hnodup hnames hheld
      · exact .array hlength hheld
    · rintro (⟨hnodup, hnames, hheld⟩ | ⟨hlength, hheld⟩)
      · exact ⟨_, .object hnodup hnames, hheld⟩
      · exact ⟨_, .array hlength, hheld⟩

/-- The members that may as well be left out. -/
def omissible : List (String × Value) :=
  [("label", .null), ("comment", .null), ("types", .array []), ("relations", .array [])]

theorem ofJson?_cons_omissible {name : String} {value : Value} {members : List (String × Value)}
    (hmember : (name, value) ∈ omissible) (habsent : name ∉ members.map (·.1)) :
    ofJson? (.object ((name, value) :: members)) = ofJson? (.object members) := by
  have hlookup := lookup_eq_none_iff_notMem.2 habsent
  simp only [omissible, List.mem_cons, List.not_mem_nil, or_false, Prod.mk.injEq] at hmember
  apply decodesRecord.decode_object_cons _ habsent
  · unfold ofFields? Fields.required Fields.withDefault Fields.get?
    obtain ⟨rfl, rfl⟩ | ⟨rfl, rfl⟩ | ⟨rfl, rfl⟩ | ⟨rfl, rfl⟩ := hmember <;>
      simp [List.lookup_cons, hlookup, Value.asOption?, Value.asList?]
  · obtain ⟨rfl, -⟩ | ⟨rfl, -⟩ | ⟨rfl, -⟩ | ⟨rfl, -⟩ := hmember <;> decide

end EntityRecord

/-! ### Documents -/

namespace KnowledgeDocument

variable {document : KnowledgeDocument} {fields : Fields}

/-- A document is given by the array of its records, as the only member or the only item. -/
inductive IsGivenBy (document : KnowledgeDocument) : Value → Prop
  | object {items : List Value} :
      List.Forall₂ EntityRecord.IsGivenBy document.entities items →
        IsGivenBy document (.object [("entities", .array items)])
  | array {items : List Value} :
      List.Forall₂ EntityRecord.IsGivenBy document.entities items →
        IsGivenBy document (.array [.array items])

/-- A member holds the records of a document. -/
def IsHeldBy (document : KnowledgeDocument) (members : List (String × Value)) : Prop :=
  ∃ items, ("entities", .array items) ∈ members ∧
    List.Forall₂ EntityRecord.IsGivenBy document.entities items

/-- The document in the fields that a value gives. -/
def ofFields? (fields : Fields) : Option KnowledgeDocument := do
  let entities ← fields.required "entities" (Value.asList? EntityRecord.ofJson?)
  return { entities }

theorem decodesRecord : DecodesRecord ["entities"] ofJson? ofFields? where
  nodup := by decide
  decode_eq _ := rfl
  read_eq fields fields' h := by
    unfold ofFields?
    rw [h.required_eq "entities" EntityRecord.decodesRecord.ignoresOrder.asList?]

theorem ofFields?_eq_some_iff (hnodup : (fields.given.map (·.1)).Nodup) :
    ofFields? fields = some document ↔ document.IsHeldBy fields.given := by
  simp only [ofFields?, Option.bind_eq_bind, Option.bind_eq_some_iff, Option.pure_def,
    Option.some.injEq, EntityRecord.decodes.list.required_eq_some_iff hnodup]
  constructor
  · rintro ⟨entities, ⟨_, hentities, items, rfl, hitems⟩, rfl⟩
    exact ⟨items, hentities, hitems⟩
  · rintro ⟨items, hentities, hitems⟩
    exact ⟨_, ⟨_, hentities, items, rfl, hitems⟩, rfl⟩

theorem decodes : Decodes ofJson? IsGivenBy where
  eq_some_iff {value document} := by
    rw [decodesRecord.decode_eq_some_iff_of_read ofFields?_eq_some_iff]
    constructor
    · rintro ⟨fields, hgiven, items, hentities, hitems⟩
      cases hgiven with
      | @object members hnodup hnames =>
        have hperm : members.Perm [("entities", .array items)] :=
          perm_of_subset hnodup hnames (by simp) (by simp [hentities])
        rw [List.perm_singleton.1 hperm]
        exact .object hitems
      | @array given hlength =>
        match given with
        | [] => simp at hentities
        | [only] =>
          obtain rfl : Value.array items = only := by simpa using hentities
          exact .array hitems
        | _ :: _ :: _ => simp at hlength
    · rintro (hitems | hitems)
      · exact ⟨_, .object decodesRecord.nodup (List.Subset.refl _), _, by simp, hitems⟩
      · exact ⟨_, .array (Nat.le_refl _), _, by simp, hitems⟩

end KnowledgeDocument

/-- Decoding a value succeeds on exactly the values that give a document, and the document is the
one that they give: an array of records as the only member or item; each record with its identifier,
with a text or null for its label and its comment, and with arrays of class names and of relations,
of which all but the identifier may be left out for none; each relation with its two texts. The same
holds of single records. No order of members makes a difference, in whatever objects of the value,
nor does it whether a record is spelled as an array or as an object, or whether what it lacks is
spelled out or left out. -/
theorem documents_accepted_exactly :
    (∀ value document, KnowledgeDocument.ofJson? value = some document ↔
      document.IsGivenBy value) ∧
    (∀ value record, EntityRecord.ofJson? value = some record ↔ record.IsGivenBy value) ∧
    (∀ value record, RelationRecord.ofJson? value = some record ↔ record.IsGivenBy value) ∧
    (∀ value value', Relation.ReflTransGen Value.Permutes value value' →
      KnowledgeDocument.ofJson? value = KnowledgeDocument.ofJson? value' ∧
      EntityRecord.ofJson? value = EntityRecord.ofJson? value' ∧
      RelationRecord.ofJson? value = RelationRecord.ofJson? value') ∧
    (∀ items, items.length ≤ 1 → KnowledgeDocument.ofJson? (.array items) =
      KnowledgeDocument.ofJson? (.object (["entities"].zip items))) ∧
    (∀ items, items.length ≤ 5 → EntityRecord.ofJson? (.array items) =
      EntityRecord.ofJson? (.object (EntityRecord.fieldNames.zip items))) ∧
    (∀ items, items.length ≤ 2 → RelationRecord.ofJson? (.array items) =
      RelationRecord.ofJson? (.object (["relation", "target"].zip items))) ∧
    ∀ name value members, (name, value) ∈ EntityRecord.omissible → name ∉ members.map (·.1) →
      EntityRecord.ofJson? (.object ((name, value) :: members)) =
        EntityRecord.ofJson? (.object members) := by
  refine ⟨fun _ _ => KnowledgeDocument.decodes.eq_some_iff,
    fun _ _ => EntityRecord.decodes.eq_some_iff, fun _ _ => RelationRecord.decodes.eq_some_iff, ?_,
    fun _ => KnowledgeDocument.decodesRecord.decode_array,
    fun _ => EntityRecord.decodesRecord.decode_array,
    fun _ => RelationRecord.decodesRecord.decode_array,
    fun _ _ _ => EntityRecord.ofJson?_cons_omissible⟩
  intro value value' hpermutes
  exact ⟨KnowledgeDocument.decodesRecord.ignoresOrder.eq_of_reflTransGen hpermutes,
    EntityRecord.decodesRecord.ignoresOrder.eq_of_reflTransGen hpermutes,
    RelationRecord.decodesRecord.ignoresOrder.eq_of_reflTransGen hpermutes⟩

/-- A document of a depot, whose relation comes before what the depot is called. -/
def depot : Value :=
  .object [("entities", .array [
    .object [
      ("relations", .array [
        .object [("target", .string "urn:load"), ("relation", .string "hasOperator")]]),
      ("label", .string "Depot"),
      ("id", .string "urn:depot")],
    .array [.string "urn:load", .null]])]

/-- The document of the depot, with both objects in the order of their fields. -/
def orderedDepot : Value :=
  .object [("entities", .array [
    .object [
      ("id", .string "urn:depot"),
      ("label", .string "Depot"),
      ("relations", .array [
        .object [("relation", .string "hasOperator"), ("target", .string "urn:load")]])],
    .array [.string "urn:load", .null]])]

/-- The document of the depot is accepted in both orders, and as the same one; so is its second
record as an object, with its null or without. -/
theorem depot_accepted :
    KnowledgeDocument.ofJson? depot = some { entities := [
      { id := "urn:depot", label := some "Depot", relations := [⟨"hasOperator", "urn:load"⟩] },
      { id := "urn:load" }] } ∧
    KnowledgeDocument.ofJson? depot = KnowledgeDocument.ofJson? orderedDepot ∧
    EntityRecord.ofJson? (.array [.string "urn:load", .null]) =
      EntityRecord.ofJson? (.object [("id", .string "urn:load"), ("label", .null)]) ∧
    EntityRecord.ofJson? (.object [("label", .null), ("id", .string "urn:load")]) =
      EntityRecord.ofJson? (.object [("id", .string "urn:load")]) := by
  obtain ⟨-, -, -, hpermutes, -, harray, -, homissible⟩ := documents_accepted_exactly
  refine ⟨by rfl, (hpermutes depot orderedDepot ?_).1, harray _ (by decide),
    homissible _ _ _ (.head _) (by decide)⟩
  -- First the members of the relation change places, and then those of the record around it.
  apply Relation.ReflTransGen.head
  · exact .member "entities" [] [] (.item [] _ (.member "relations" [] _
      (.item [] [] (.object (.swap _ _ _)))))
  · exact .single (.member "entities" [] [] (.item [] _ (.object (List.reverse_perm [_, _, _]))))

end TaskNet
