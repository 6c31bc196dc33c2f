import Mathlib.Data.List.Forall2
import Mathlib.Logic.Relation
import TaskNet.Proofs.Codecs

/-!
# The fields of closed records

Which values give the fields of a closed record, and what decoders of such records have in common:
they take the fields by name, so that neither the order of members nor the choice between an object
and an array makes a difference.
-/

namespace TaskNet.Json

variable {α : Type}

/-! ### Members by name -/

section Members

variable {members permuted : List (String × Value)} {name : String} {value : Value}

/-- Among members of distinct names, the one that is found is the one that is there. -/
theorem lookup_eq_some_iff_mem (hnodup : (members.map (·.1)).Nodup) :
    members.lookup name = some value ↔ (name, value) ∈ members := by
  induction members with
  | nil => simp
  | cons first rest ih =>
    rw [List.map_cons, List.nodup_cons] at hnodup
    rw [List.lookup_cons, List.mem_cons, ← ih hnodup.2]
    by_cases hname : name = first.1
    · subst hname
      have hrest : rest.lookup first.1 ≠ some value := fun hfound =>
        hnodup.1 (List.mem_map.2 ⟨_, (ih hnodup.2).1 hfound, rfl⟩)
      simp [hrest, Prod.ext_iff, eq_comm]
    · have hother : (name == first.1) = false := beq_eq_false_iff_ne.2 hname
      simp [hother, hname, Prod.ext_iff]

theorem lookup_eq_none_iff_notMem : members.lookup name = none ↔ name ∉ members.map (·.1) := by
  rw [List.lookup_eq_none_iff, List.mem_map]
  constructor
  · rintro h ⟨member, hmember, rfl⟩
    simpa using h member hmember
  · intro h member hmember
    exact bne_iff_ne.2 fun hname => h ⟨member, hmember, hname.symm⟩

theorem lookup_eq_of_perm (hperm : members.Perm permuted) (hnodup : (members.map (·.1)).Nodup) :
    members.lookup name = permuted.lookup name := by
  have hnodup' : (permuted.map (·.1)).Nodup := (hperm.map _).nodup_iff.1 hnodup
  refine Option.ext fun value => ?_
  rw [lookup_eq_some_iff_mem hnodup, lookup_eq_some_iff_mem hnodup', hperm.mem_iff]

/-- Items in order are the fields of the first names. -/
theorem sublist_zip (names : List String) (items : List Value) :
    ((names.zip items).map (·.1)).Sublist names := by
  induction names generalizing items with
  | nil => simp
  | cons name names ih =>
    cases items with
    | nil => exact List.nil_sublist _
    | cons item items => exact (ih items).cons_cons name

end Members

/-! ### Fields that a value gives -/

namespace Fields

variable {names : List String} {fields : Fields} {value : Value}

/-- What a value gives for the fields of a closed record: the members of an object, which all are
fields and none of which stands twice, or the items of an array as the first fields, in order. -/
inductive IsGivenBy (names : List String) : Fields → Value → Prop
  | object {members : List (String × Value)} :
      (members.map (·.1)).Nodup → members.map (·.1) ⊆ names →
        IsGivenBy names { given := members, named := true } (.object members)
  | array {items : List Value} :
      items.length ≤ names.length →
        IsGivenBy names { given := names.zip items, named := false } (.array items)

/-- No field is given twice. -/
theorem IsGivenBy.nodup (h : fields.IsGivenBy names value) (hnames : names.Nodup) :
    (fields.given.map (·.1)).Nodup := by
  cases h with
  | object hnodup hknown => exact hnodup
  | array hlength => exact hnames.sublist (sublist_zip _ _)

theorem ofValue?_eq_some_iff :
    ofValue? names true value = some fields ↔ fields.IsGivenBy names value := by
  constructor
  · intro h
    cases value with
    | object members =>
      obtain ⟨⟨hnodup, hclosed⟩, hfields⟩ := Option.ite_none_right_eq_some.1 h
      have hknown : ∀ member ∈ members, member.1 ∈ names := fun member hmember =>
        of_decide_eq_true (List.all_eq_true.1 (hclosed rfl) member hmember)
      have hall : members.filter (·.1 ∈ names) = members :=
        List.filter_eq_self.2 fun member hmember => decide_eq_true (hknown member hmember)
      rw [hall] at hnodup hfields
      obtain rfl := Option.some.inj hfields
      exact .object hnodup (List.forall_mem_map.2 hknown)
    | array items =>
      obtain ⟨hlength, hfields⟩ := Option.ite_none_right_eq_some.1 h
      obtain rfl := Option.some.inj hfields
      exact .array hlength
    | _ => cases h
  · rintro (⟨hnodup, hnames⟩ | hlength)
    · exact ofValue?_object hnodup hnames true
    · exact if_pos hlength

end Fields

/-! ### Members in another order -/

/-- The members of one object, anywhere in a value, come in another order. -/
inductive Value.Permutes : Value → Value → Prop
  | object {members permuted : List (String × Value)} :
      members.Perm permuted → Permutes (.object members) (.object permuted)
  | item {item item' : Value} (before after : List Value) :
      Permutes item item' →
        Permutes (.array (before ++ item :: after)) (.array (before ++ item' :: after))
  | member {value value' : Value} (name : String) (before after : List (String × Value)) :
      Permutes value value' →
        Permutes (.object (before ++ (name, value) :: after))
          (.object (before ++ (name, value') :: after))

theorem Value.Permutes.symm {value value' : Value} (h : value.Permutes value') :
    value'.Permutes value := by
  induction h with
  | object hperm => exact .object hperm.symm
  | item before after _ ih => exact .item before after ih
  | member name before after _ ih => exact .member name before after ih

/-- Members of the same name with values that are equal, up to the order of members in them. -/
structure AlikeMembers (member member' : String × Value) : Prop where
  name : member.1 = member'.1
  value : Relation.ReflGen Value.Permutes member.2 member'.2

theorem forall₂_middle {β : Type} {R : β → β → Prop} (hrefl : ∀ x, R x x) {x x' : β}
    (before after : List β) (h : R x x') :
    List.Forall₂ R (before ++ x :: after) (before ++ x' :: after) :=
  List.rel_append (List.forall₂_same.2 fun x _ => hrefl x)
    (.cons h (List.forall₂_same.2 fun x _ => hrefl x))

theorem AlikeMembers.map_fst_eq {members members' : List (String × Value)}
    (h : List.Forall₂ AlikeMembers members members') :
    members.map (·.1) = members'.map (·.1) := by
  induction h with
  | nil => rfl
  | cons hmember _ ih => rw [List.map_cons, List.map_cons, hmember.name, ih]

/-- Alike items in order are alike fields. -/
theorem AlikeMembers.zip {items items' : List Value}
    (h : List.Forall₂ (Relation.ReflGen Value.Permutes) items items') (names : List String) :
    List.Forall₂ AlikeMembers (names.zip items) (names.zip items') := by
  induction names generalizing items items' with
  | nil => exact .nil
  | cons name names ih =>
    cases h with
    | nil => exact .nil
    | cons hitem hrest => exact .cons ⟨rfl, hitem⟩ (ih hrest)

/-- A decoder to which the order of members makes no difference. -/
def IgnoresOrder (decode : Value → Option α) : Prop :=
  ∀ ⦃value value' : Value⦄, value.Permutes value' → decode value = decode value'

section IgnoresOrder

variable {decode : Value → Option α} {value value' : Value}

theorem IgnoresOrder.eq_of_reflGen (hdecode : IgnoresOrder decode)
    (h : Relation.ReflGen Value.Permutes value value') : decode value = decode value' := by
  cases h with
  | refl => rfl
  | single hstep => exact hdecode hstep

/-- The members of any number of objects may come in another order. -/
theorem IgnoresOrder.eq_of_reflTransGen (hdecode : IgnoresOrder decode)
    (h : Relation.ReflTransGen Value.Permutes value value') : decode value = decode value' := by
  induction h with
  | refl => rfl
  | tail _ hstep ih => exact ih.trans (hdecode hstep)

theorem ignoresOrder_asString? : IgnoresOrder Value.asString? := by
  intro value value' h
  cases h <;> rfl

theorem IgnoresOrder.asOption? (hdecode : IgnoresOrder decode) :
    IgnoresOrder (Value.asOption? decode) := by
  intro value value' h
  have hsome := congrArg (Option.map some) (hdecode h)
  cases h <;> exact hsome

theorem IgnoresOrder.asList? (hdecode : IgnoresOrder decode) :
    IgnoresOrder (Value.asList? decode) := by
  intro value value' h
  cases h with
  | object _ => rfl
  | member _ _ _ _ => rfl
  | item before after hitem =>
    simp only [Value.asList?, List.mapM_append, List.mapM_cons, hdecode hitem]

end IgnoresOrder

/-! ### Decoders of closed records -/

namespace Fields

/-- Fields that hold the same values up to the order of members in them. -/
def Alike (fields fields' : Fields) : Prop :=
  ∀ name, Option.Rel (Relation.ReflGen Value.Permutes) (fields.get? name) (fields'.get? name)

namespace Alike

variable {fields fields' : Fields} {decode : Value → Option α}

theorem of_get?_eq (h : ∀ name, fields.get? name = fields'.get? name) : fields.Alike fields' := by
  intro name
  rw [h name]
  cases fields'.get? name with
  | none => exact .none
  | some value => exact .some .refl

theorem required_eq (h : fields.Alike fields') (name : String) (hdecode : IgnoresOrder decode) :
    fields.required name decode = fields'.required name decode := by
  have hname := h name
  unfold required
  generalize fields.get? name = value?, fields'.get? name = value?' at hname
  cases hname with
  | none => rfl
  | some hvalue => exact hdecode.eq_of_reflGen hvalue

theorem withDefault_eq (h : fields.Alike fields') (name : String) (default : α)
    (hdecode : IgnoresOrder decode) :
    fields.withDefault name default decode = fields'.withDefault name default decode := by
  have hname := h name
  unfold withDefault
  generalize fields.get? name = value?, fields'.get? name = value?' at hname
  cases hname with
  | none => rfl
  | some hvalue => exact hdecode.eq_of_reflGen hvalue

/-- Fields that are given by members of the same names with alike values. -/
theorem of_forall₂ (h : List.Forall₂ AlikeMembers fields.given fields'.given) :
    fields.Alike fields' := by
  intro name
  unfold get?
  generalize fields.given = given, fields'.given = given' at h
  induction h with
  | nil => exact .none
  | @cons member member' _ _ hmember _ ih =>
    rw [List.lookup_cons, List.lookup_cons, ← hmember.name]
    cases name == member.1 with
    | true => exact .some hmember.value
    | false => exact ih

end Alike

/-- If the members of an object come in another order, the value gives alike fields. -/
theorem IsGivenBy.permutes {names : List String} {fields : Fields} {value value' : Value}
    (hgiven : fields.IsGivenBy names value) (h : value.Permutes value') :
    ∃ fields' : Fields, fields'.IsGivenBy names value' ∧ fields.Alike fields' := by
  cases h with
  | object hperm =>
    obtain ⟨hnodup, hnames⟩ := hgiven
    have hkeys := hperm.map (·.1)
    exact ⟨_, .object (hkeys.nodup_iff.1 hnodup) (List.Subset.trans hkeys.symm.subset hnames),
      .of_get?_eq fun _ => lookup_eq_of_perm hperm hnodup⟩
  | @member held held' name before after hheld =>
    obtain ⟨hnodup, hnames⟩ := hgiven
    have hmember : AlikeMembers (name, held) (name, held') := ⟨rfl, .single hheld⟩
    have halike := forall₂_middle (fun _ => ⟨rfl, .refl⟩) before after hmember
    rw [AlikeMembers.map_fst_eq halike] at hnodup hnames
    exact ⟨_, .object hnodup hnames, .of_forall₂ halike⟩
  | item before after hitem =>
    cases hgiven with
    | array hlength =>
      have halike := forall₂_middle (fun _ => .refl) before after (Relation.ReflGen.single hitem)
      rw [halike.length_eq] at hlength
      exact ⟨_, .array hlength, .of_forall₂ (AlikeMembers.zip halike names)⟩

end Fields

/-- A decoder of closed records with these fields, which it reads by name. -/
structure DecodesRecord (names : List String) (decode : Value → Option α)
    (read : Fields → Option α) : Prop where
  nodup : names.Nodup
  decode_eq : ∀ value, decode value = (Fields.ofValue? names true value).bind read
  read_eq : ∀ ⦃fields fields' : Fields⦄, fields.Alike fields' → read fields = read fields'

namespace DecodesRecord

variable {names : List String} {decode : Value → Option α} {read : Fields → Option α}

/-- What is decoded is what is read from the fields that are given. -/
theorem decode_eq_some_iff (h : DecodesRecord names decode read) {value : Value} {record : α} :
    decode value = some record ↔
      ∃ fields : Fields, fields.IsGivenBy names value ∧ read fields = some record := by
  simp only [h.decode_eq, Option.bind_eq_some_iff, Fields.ofValue?_eq_some_iff]

/-- If a record is read where members hold it, it is decoded where the given members hold it. -/
theorem decode_eq_some_iff_of_read (h : DecodesRecord names decode read)
    {holds : α → List (String × Value) → Prop}
    (hread : ∀ {fields : Fields} {record : α}, (fields.given.map (·.1)).Nodup →
      (read fields = some record ↔ holds record fields.given)) {value : Value} {record : α} :
    decode value = some record ↔
      ∃ fields : Fields, fields.IsGivenBy names value ∧ holds record fields.given :=
  h.decode_eq_some_iff.trans <| exists_congr fun _ => and_congr_right fun hgiven =>
    hread (hgiven.nodup h.nodup)

theorem ignoresOrder (h : DecodesRecord names decode read) : IgnoresOrder decode := by
  have hkept {value value' : Value} (hpermutes : value.Permutes value') {record : α}
      (hdecode : decode value = some record) : decode value' = some record := by
    obtain ⟨fields, hgiven, hread⟩ := h.decode_eq_some_iff.1 hdecode
    obtain ⟨fields', hgiven', halike⟩ := hgiven.permutes hpermutes
    exact h.decode_eq_some_iff.2 ⟨fields', hgiven', (h.read_eq halike).symm.trans hread⟩
  intro value value' hpermutes
  exact Option.ext fun record => ⟨hkept hpermutes, hkept hpermutes.symm⟩

/-- The items of an array may as well be members of an object under the names of their fields. -/
theorem decode_array (h : DecodesRecord names decode read) {items : List Value}
    (hlength : items.length ≤ names.length) :
    decode (.array items) = decode (.object (names.zip items)) := by
  have hsublist := sublist_zip names items
  have harray := Fields.ofValue?_eq_some_iff.2 (.array hlength)
  have hobject := Fields.ofValue?_object (h.nodup.sublist hsublist) hsublist.subset true
  rw [h.decode_eq, h.decode_eq, harray, hobject]
  exact h.read_eq (.of_get?_eq fun _ => rfl)

/-- A member that is read like an absent one may be left out. -/
theorem decode_object_cons (h : DecodesRecord names decode read) {name : String} {value : Value}
    {members : List (String × Value)} (hname : name ∈ names) (habsent : name ∉ members.map (·.1))
    (hread : read { given := (name, value) :: members, named := true } =
      read { given := members, named := true }) :
    decode (.object ((name, value) :: members)) = decode (.object members) := by
  refine Option.ext fun record => ?_
  rw [h.decode_eq_some_iff, h.decode_eq_some_iff]
  constructor
  · rintro ⟨_, ⟨hnodup, hnames⟩, hrecord⟩
    rw [List.map_cons] at hnodup hnames
    exact ⟨_, .object (List.nodup_cons.1 hnodup).2 (List.subset_of_cons_subset hnames),
      hread.symm.trans hrecord⟩
  · rintro ⟨_, ⟨hnodup, hnames⟩, hrecord⟩
    exact ⟨_, .object (List.nodup_cons.2 ⟨habsent, hnodup⟩) (List.cons_subset.2 ⟨hname, hnames⟩),
      hread.trans hrecord⟩

end DecodesRecord

end TaskNet.Json
