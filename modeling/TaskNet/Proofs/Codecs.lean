import TaskNet.Codec
import TaskNet.Document.Record
import TaskNet.Proofs.ReadTokens

/-!
# Values of the domain types that are restored

Every domain type is written as a plain JSON value and restored from it. Fields are found under
their names, whether or not others are left out; a field that is left out has the value for which
it is left out. Only numbers that do not fit their width are not restored.
-/

namespace TaskNet

open Json (Value Fields)

namespace Json

/-- What a value is written as is plain, and the value is restored from it. -/
structure Restores {α : Type} (encode : α → Value) (decode : Value → Option α) (value : α) :
    Prop where
  isPlain : (encode value).IsPlain
  decode_encode : decode (encode value) = some value

/-! ### Simple values -/

theorem restores_string (text : String) : Restores .string Value.asString? text :=
  ⟨.string text, rfl⟩

/-- Numbers below a bound are restored. -/
theorem restores_natural {bound count : Nat} (h : count < bound) :
    Restores .natural (Value.asNatural? bound) count :=
  ⟨.natural count, if_pos h⟩

/-- An optional text is null if there is none. -/
theorem restores_option (text? : Option String) :
    Restores (Value.ofOption .string) (Value.asOption? Value.asString?) text? := by
  cases text? with
  | none => exact ⟨.null, rfl⟩
  | some text => exact ⟨.string text, rfl⟩

/-- Lists are restored item by item. -/
theorem restores_list {α : Type} {encode : α → Value} {decode : Value → Option α}
    {values : List α} (h : ∀ value ∈ values, Restores encode decode value) :
    Restores (fun values => .array (values.map encode)) (Value.asList? decode) values where
  isPlain := by
    refine .array _ fun item hitem => ?_
    obtain ⟨value, hvalue, rfl⟩ := List.mem_map.1 hitem
    exact (h value hvalue).isPlain
  decode_encode := by
    rw [Value.asList?, List.mapM_map]
    induction values with
    | nil => rfl
    | cons value rest ih =>
      obtain ⟨hvalue, hrest⟩ := List.forall_mem_cons.1 h
      rw [List.mapM_cons, Function.comp_apply, hvalue.decode_encode, ih hrest]
      rfl

/-! ### Fields -/

namespace Fields

/-- The members of an object are the fields of a record if all are fields and none stands twice. -/
theorem ofValue?_object {names : List String} {members : List (String × Value)}
    (hnodup : (members.map (·.1)).Nodup) (hnames : members.map (·.1) ⊆ names) (closed : Bool) :
    ofValue? names closed (.object members) = some { given := members, named := true } := by
  have hknown : ∀ member ∈ members, member.1 ∈ names := fun member hmember =>
    hnames (List.mem_map_of_mem hmember)
  have hall : members.filter (·.1 ∈ names) = members :=
    List.filter_eq_self.2 fun member hmember => decide_eq_true (hknown member hmember)
  have hclosed : closed → members.all (·.1 ∈ names) := fun _ =>
    List.all_eq_true.2 fun member hmember => decide_eq_true (hknown member hmember)
  simp only [ofValue?, hall]
  exact if_pos ⟨hnodup, hclosed⟩

/-- The member for a field that may be left out. -/
def optional (name : String) (value? : Option Value) : List (String × Value) :=
  (value?.map (name, ·)).toList

theorem lookup_optional (name field : String) (value? : Option Value) :
    (optional field value?).lookup name = if name = field then value? else none := by
  cases value? with
  | none => simp [optional]
  | some value =>
    by_cases hname : name = field
    · simp [optional, hname]
    · have hother : (name == field) = false := beq_eq_false_iff_ne.2 hname
      simp [optional, hname, List.lookup_cons, hother]

theorem sublist_optional (name : String) (value? : Option Value) :
    ((optional name value?).map (·.1)).Sublist [name] := by
  cases value? with
  | none => exact List.nil_sublist _
  | some value => exact List.Sublist.refl _

theorem isPlain_of_mem_optional {name : String} {value? : Option Value}
    (h : ∀ value ∈ value?, value.IsPlain) :
    ∀ member ∈ optional name value?, member.2.IsPlain := by
  intro member hmember
  obtain ⟨value, hvalue, rfl⟩ := Option.map_eq_some_iff.1 (Option.mem_toList.1 hmember)
  exact h value hvalue

/-- A field that is left out has its default, and any other one what is restored from it. -/
theorem withDefault_eq {α : Type} {fields : Fields} {name : String} {default value : α}
    {decode : Value → Option α} (hnone : fields.get? name = none → value = default)
    (hsome : ∀ given, fields.get? name = some given → decode given = some value) :
    fields.withDefault name default decode = some value := by
  unfold withDefault
  cases hgiven : fields.get? name with
  | none => rw [hnone hgiven]
  | some given => exact hsome given hgiven

end Fields

/-- A record is restored from an object with some of its fields, in order, if the fields are plain
and the record is restored from them. -/
theorem restores_object {α : Type} {encode : α → Value} {decode : Value → Option α}
    {names : List String} {members : List (String × Value)} {closed : Bool}
    {read : Fields → Option α} {value : α} (hencode : encode value = .object members)
    (hdecode : ∀ given, decode given = (Fields.ofValue? names closed given >>= read))
    (hnames : (members.map (·.1)).Sublist names) (hnodup : names.Nodup)
    (hplain : ∀ member ∈ members, member.2.IsPlain)
    (hread : read { given := members, named := true } = some value) :
    Restores encode decode value where
  isPlain := by
    rw [hencode]
    exact .object members hplain
  decode_encode := by
    rw [hencode, hdecode, Fields.ofValue?_object (hnodup.sublist hnames) hnames.subset,
      Option.bind_eq_bind, Option.bind_some, hread]

end Json

open Json (Restores restores_object restores_string restores_natural restores_option restores_list)

theorem Relation.restores (relation : Relation) : Restores toJson ofJson? relation where
  isPlain := .string relation.name
  decode_encode := by cases relation <;> rfl

theorem EntityKind.restores (kind : EntityKind) : Restores toJson ofJson? kind where
  isPlain := .string kind.name
  decode_encode := by cases kind <;> rfl

theorem EntityId.restores {id : EntityId} (h : id.number < UInt64.size) :
    Restores toJson ofJson? id where
  isPlain := .natural id.number
  decode_encode := by
    rw [ofJson?, toJson, (restores_natural h).decode_encode, Option.bind_some, ofNumber?,
      dif_pos id.pos]

theorem Entity.restores {entity : Entity} (h : entity.id.number < UInt64.size) :
    Restores toJson ofJson? entity := by
  have hid := EntityId.restores h
  have hkind := entity.kind.restores
  have hlabel := restores_option entity.label
  have hcomment := restores_option entity.comment
  refine restores_object rfl (fun _ => rfl) (List.Sublist.refl _) (by decide) ?_ ?_
  · simp [hid.isPlain, Value.IsPlain.string, hkind.isPlain, hlabel.isPlain, hcomment.isPlain]
  · simp [Fields.required, Fields.nullable, Fields.get?, List.lookup_cons, hid.decode_encode,
      Value.asString?, hkind.decode_encode, hlabel.decode_encode, hcomment.decode_encode]

theorem Assertion.restores {assertion : Assertion}
    (hsubject : assertion.subject.number < UInt64.size)
    (hobject : assertion.object.number < UInt64.size)
    (hordinal : assertion.ordinal < UInt32.size) : Restores toJson ofJson? assertion := by
  have hsubject := EntityId.restores hsubject
  have hrelation := assertion.relation.restores
  have hobject := EntityId.restores hobject
  have hordinal := restores_natural hordinal
  refine restores_object rfl (fun _ => rfl) (List.Sublist.refl _) (by decide) ?_ ?_
  · simp [hsubject.isPlain, hrelation.isPlain, hobject.isPlain, hordinal.isPlain]
  · simp [Fields.required, Fields.get?, List.lookup_cons, hsubject.decode_encode,
      hrelation.decode_encode, hobject.decode_encode, hordinal.decode_encode]

theorem Link.restores {link : Link} (hordinal : link.ordinal < UInt32.size) :
    Restores toJson ofJson? link := by
  have hrelation := link.relation.restores
  have hordinal := restores_natural hordinal
  refine restores_object rfl (fun _ => rfl) (List.Sublist.refl _) (by decide) ?_ ?_
  · simp [hrelation.isPlain, hordinal.isPlain]
  · simp [Fields.required, Fields.get?, List.lookup_cons, hrelation.decode_encode,
      hordinal.decode_encode]

theorem Settings.restores (settings : Settings) : Restores toJson ofJson? settings := by
  refine restores_object rfl (fun _ => rfl) (List.Sublist.refl _) (by decide) ?_ ?_
  · simp [Value.IsPlain.string, Value.IsPlain.bool]
  · simp [Fields.withDefault, Fields.get?, List.lookup_cons, Value.asString?, Value.asBool?]

theorem RelationRecord.restores (record : RelationRecord) :
    Restores toJson ofJson? record := by
  refine restores_object rfl (fun _ => rfl) (List.Sublist.refl _) (by decide) ?_ ?_
  · simp [Value.IsPlain.string]
  · simp [Fields.required, Fields.get?, List.lookup_cons, Value.asString?]

namespace EntityRecord

/-- The value for a list, unless it is empty. -/
def listed? {α : Type} (encode : α → Value) (values : List α) : Option Value :=
  if values = [] then none else some (.array (values.map encode))

/-- The members of the object for a record: all fields but the identifier may be left out. -/
def members (record : EntityRecord) : List (String × Value) :=
  [("id", .string record.id)] ++ Fields.optional "label" (record.label.map .string) ++
    Fields.optional "comment" (record.comment.map .string) ++
    Fields.optional "types" (listed? .string record.types) ++
    Fields.optional "relations" (listed? RelationRecord.toJson record.relations)

theorem toJson_eq (record : EntityRecord) : record.toJson = .object record.members := by
  have htext (name : String) (text? : Option String) :
      (text?.map fun text => (name, Value.string text)).toList =
        Fields.optional name (text?.map .string) := by
    cases text? with
    | none => rfl
    | some text => rfl
  have hlist {α : Type} (name : String) (encode : α → Value) (values : List α) :
      (if values = [] then [] else [(name, Value.array (values.map encode))]) =
        Fields.optional name (listed? encode values) := by
    unfold listed?
    split
    · rfl
    · rfl
  rw [toJson, htext, htext, hlist, hlist, members]

/-- Every field is found under its name. -/
theorem get?_members (record : EntityRecord) :
    let fields : Fields := { given := record.members, named := true }
    fields.get? "id" = some (.string record.id) ∧
    fields.get? "label" = record.label.map .string ∧
    fields.get? "comment" = record.comment.map .string ∧
    fields.get? "types" = listed? .string record.types ∧
    fields.get? "relations" = listed? RelationRecord.toJson record.relations := by
  simp [Fields.get?, members, List.lookup_append, Fields.lookup_optional, List.lookup_cons]

theorem sublist_members (record : EntityRecord) : (record.members.map (·.1)).Sublist
    ["id", "label", "comment", "types", "relations"] := by
  unfold members
  simp only [List.map_append]
  exact ((((List.Sublist.refl ["id"]).append (Fields.sublist_optional _ _)).append
    (Fields.sublist_optional _ _)).append (Fields.sublist_optional _ _)).append
      (Fields.sublist_optional _ _)

theorem isPlain_of_mem_listed? {α : Type} {encode : α → Value} {decode : Value → Option α}
    {values : List α} (h : ∀ value ∈ values, Restores encode decode value) :
    ∀ value ∈ listed? encode values, value.IsPlain := by
  intro value hvalue
  unfold listed? at hvalue
  split at hvalue
  case isTrue => cases hvalue
  case isFalse =>
    cases hvalue
    exact (restores_list h).isPlain

theorem isPlain_of_mem_text {text? : Option String} :
    ∀ value ∈ text?.map Value.string, value.IsPlain := by
  intro value hvalue
  obtain ⟨text, -, rfl⟩ := Option.map_eq_some_iff.1 hvalue
  exact .string text

/-- A text that is left out is none. -/
theorem withDefault_text {fields : Fields} {name : String} {text? : Option String}
    (h : fields.get? name = text?.map .string) :
    fields.withDefault name none (Value.asOption? Value.asString?) = some text? := by
  cases text? with
  | none => exact Fields.withDefault_eq (fun _ => rfl) fun _ hgiven => by simp [h] at hgiven
  | some text =>
    refine Fields.withDefault_eq (fun hnone => by simp [h] at hnone) fun given hgiven => ?_
    rw [h, Option.map_some, Option.some.injEq] at hgiven
    rw [← hgiven]
    rfl

/-- A list that is left out is empty. -/
theorem withDefault_list {α : Type} {encode : α → Value} {decode : Value → Option α}
    {values : List α} (hvalues : ∀ value ∈ values, Restores encode decode value)
    {fields : Fields} {name : String} (h : fields.get? name = listed? encode values) :
    fields.withDefault name [] (Value.asList? decode) = some values := by
  unfold listed? at h
  split at h
  case isTrue hnone =>
    subst hnone
    exact Fields.withDefault_eq (fun _ => rfl) fun _ hgiven => by simp [h] at hgiven
  case isFalse =>
    refine Fields.withDefault_eq (fun hnone => by simp [h] at hnone) fun given hgiven => ?_
    rw [h, Option.some.injEq] at hgiven
    rw [← hgiven]
    exact (restores_list hvalues).decode_encode

end EntityRecord

open EntityRecord in
theorem EntityRecord.restores (record : EntityRecord) : Restores toJson ofJson? record := by
  have htypes : ∀ name ∈ record.types, Restores .string Value.asString? name :=
    fun name _ => restores_string name
  have hrelations : ∀ link ∈ record.relations,
      Restores RelationRecord.toJson RelationRecord.ofJson? link :=
    fun link _ => link.restores
  refine restores_object record.toJson_eq (fun _ => rfl) record.sublist_members (by decide)
    (fun member hmember => ?_) ?_
  · simp only [members, List.mem_append, List.mem_singleton] at hmember
    obtain (((rfl | hlabel) | hcomment) | htype) | hrelation := hmember
    · exact .string record.id
    · exact Fields.isPlain_of_mem_optional isPlain_of_mem_text member hlabel
    · exact Fields.isPlain_of_mem_optional isPlain_of_mem_text member hcomment
    · exact Fields.isPlain_of_mem_optional (isPlain_of_mem_listed? htypes) member htype
    · exact Fields.isPlain_of_mem_optional (isPlain_of_mem_listed? hrelations) member hrelation
  · obtain ⟨hid, hlabel, hcomment, htype, hrelation⟩ := record.get?_members
    simp only [Fields.required, hid, Option.bind_some, Value.asString?,
      withDefault_text hlabel, withDefault_text hcomment, withDefault_list htypes htype,
      withDefault_list hrelations hrelation, Option.bind_eq_bind]
    rfl

/-- What a record does not give is left out. -/
example : EntityRecord.toJson { id := "urn:road" } = .object [("id", .string "urn:road")] := rfl

theorem KnowledgeDocument.restores (document : KnowledgeDocument) :
    Restores toJson ofJson? document := by
  have hentities : Restores (fun records => .array (records.map EntityRecord.toJson))
      (Value.asList? EntityRecord.ofJson?) document.entities :=
    restores_list fun record _ => record.restores
  refine restores_object rfl (fun _ => rfl) (List.Sublist.refl _) (by decide) ?_ ?_
  · simp [hentities.isPlain]
  · simp [Fields.required, Fields.get?, hentities.decode_encode]

/-! ### Summaries -/

/-- The numbers of a summary fit their width. -/
def DomainSummary.Fits (domain : DomainSummary) : Prop :=
  domain.id < UInt64.size ∧ domain.methods < UInt64.size ∧ domain.operators < UInt64.size

/-- The numbers of a summary fit their width. -/
def ProblemSummary.Fits (problem : ProblemSummary) : Prop :=
  problem.id < UInt64.size ∧ problem.initialStates < UInt64.size ∧ problem.goals < UInt64.size

/-- The numbers of a summary fit their width. -/
structure Summary.Fits (summary : Summary) : Prop where
  domains : ∀ domain ∈ summary.domains, domain.Fits
  problems : ∀ problem ∈ summary.problems, problem.Fits

theorem DomainSummary.restores {domain : DomainSummary} (h : domain.Fits) :
    Restores toJson ofJson? domain := by
  have hid := restores_natural h.1
  have hlabel := restores_option domain.label
  have hmethods := restores_natural h.2.1
  have hoperators := restores_natural h.2.2
  refine restores_object rfl (fun _ => rfl) (List.Sublist.refl _) (by decide) ?_ ?_
  · simp [hid.isPlain, Value.IsPlain.string, hlabel.isPlain, hmethods.isPlain, hoperators.isPlain]
  · simp [Fields.required, Fields.nullable, Fields.get?, List.lookup_cons, hid.decode_encode,
      Value.asString?, hlabel.decode_encode, hmethods.decode_encode, hoperators.decode_encode]

theorem ProblemSummary.restores {problem : ProblemSummary} (h : problem.Fits) :
    Restores toJson ofJson? problem := by
  have hid := restores_natural h.1
  have hlabel := restores_option problem.label
  have hdomain := restores_option problem.domain
  have hstates := restores_natural h.2.1
  have hgoals := restores_natural h.2.2
  refine restores_object rfl (fun _ => rfl) (List.Sublist.refl _) (by decide) ?_ ?_
  · simp [hid.isPlain, Value.IsPlain.string, hlabel.isPlain, hdomain.isPlain, hstates.isPlain,
      hgoals.isPlain]
  · simp [Fields.required, Fields.nullable, Fields.get?, List.lookup_cons, hid.decode_encode,
      Value.asString?, hlabel.decode_encode, hdomain.decode_encode, hstates.decode_encode,
      hgoals.decode_encode]

theorem Summary.restores {summary : Summary} (h : summary.Fits) :
    Restores toJson ofJson? summary := by
  have hdomains : Restores (fun domains => .array (domains.map DomainSummary.toJson))
      (Value.asList? DomainSummary.ofJson?) summary.domains :=
    restores_list fun domain hdomain => DomainSummary.restores (h.domains domain hdomain)
  have hproblems : Restores (fun problems => .array (problems.map ProblemSummary.toJson))
      (Value.asList? ProblemSummary.ofJson?) summary.problems :=
    restores_list fun problem hproblem => ProblemSummary.restores (h.problems problem hproblem)
  refine restores_object rfl (fun _ => rfl) (List.Sublist.refl _) (by decide) ?_ ?_
  · simp [hdomains.isPlain, hproblems.isPlain]
  · simp [Fields.required, Fields.get?, List.lookup_cons, hdomains.decode_encode,
      hproblems.decode_encode]

end TaskNet
