import TaskNet.Relation

/-!
# Local names

Which relation an IRI denotes is settled by how it ends. Behind the last number sign stands the
local name, and a slash separates it only where there is no number sign. Names of relations have
neither of the two in them and differ from each other, so an IRI denotes at most one relation, and
none at all if it goes on behind the name, spells it otherwise or puts a slash into its fragment.
-/

namespace TaskNet

/-- An IRI ends in a name: it is the name alone, or the name stands behind a number sign, or behind
a slash if there is no number sign. -/
def EndsInName (iri name : String) : Prop :=
  iri = name ∨ (∃ front, iri = front ++ "#" ++ name) ∨
    '#' ∉ iri.toList ∧ ∃ front, iri = front ++ "/" ++ name

theorem EndsInName.isSuffix {iri name : String} (h : EndsInName iri name) :
    name.toList <:+ iri.toList := by
  obtain rfl | ⟨front, rfl⟩ | ⟨-, front, rfl⟩ := h
  · exact List.suffix_rfl
  · exact ⟨(front ++ "#").toList, (String.toList_append ..).symm⟩
  · exact ⟨(front ++ "/").toList, (String.toList_append ..).symm⟩

/-- A separator that is not in the end of a text stands in front of all of it. -/
theorem suffix_of_separator_suffix {separator : Char} {text back name : List Char}
    (hback : back <:+ text) (hname : separator :: name <:+ text) (hnotMem : separator ∉ back) :
    back <:+ name := by
  rcases List.suffix_or_suffix_of_suffix hback hname with hwithin | hwithin
  · rcases List.suffix_cons_iff.1 hwithin with rfl | hsuffix
    · exact absurd List.mem_cons_self hnotMem
    · exact hsuffix
  · exact absurd (hwithin.subset List.mem_cons_self) hnotMem

/-- Where an IRI ends in a text without separators, a name that it ends in ends in this text. -/
theorem EndsInName.suffix_of_append {front text name : String} (h : EndsInName (front ++ text) name)
    (hsign : '#' ∉ text.toList) (hslash : '/' ∉ text.toList) : text.toList <:+ name.toList := by
  have htext : text.toList <:+ (front ++ text).toList :=
    ⟨front.toList, (String.toList_append ..).symm⟩
  obtain hall | ⟨before, heq⟩ | ⟨-, before, heq⟩ := h
  · rw [← hall]
    exact htext
  · exact suffix_of_separator_suffix htext ⟨before.toList, by simp [heq]⟩ hsign
  · exact suffix_of_separator_suffix htext ⟨before.toList, by simp [heq]⟩ hslash

/-- Texts are the same but for case if their characters are. -/
theorem toLower_eq_iff {text other : String} : text.toLower = other.toLower ↔
    text.toList.map Char.toLower = other.toList.map Char.toLower := by
  have hmap (text : String) : text.toLower.toList = text.toList.map Char.toLower :=
    String.toList_map
  rw [← String.toList_inj, hmap, hmap]

/-- Where there is a number sign, the local name is what stands behind the last one. -/
theorem localName_eq_iff_of_mem {iri name : String} (h : '#' ∈ iri.toList) :
    localName iri = name ↔ '#' ∉ name.toList ∧ ∃ front, iri = front ++ "#" ++ name := by
  rw [localName, if_pos h, Text.ofList_afterLast_eq_iff]
  refine and_congr_right fun hname => or_iff_right ?_
  rintro rfl
  exact hname h

/-- Where there is no number sign, the local name is what stands behind the last slash, or all. -/
theorem localName_eq_iff_of_notMem {iri name : String} (h : '#' ∉ iri.toList) :
    localName iri = name ↔
      '/' ∉ name.toList ∧ (iri = name ∨ ∃ front, iri = front ++ "/" ++ name) := by
  rw [localName, if_neg h]
  exact Text.ofList_afterLast_eq_iff

/-- Without separators in it, a name is the local name of the IRIs that end in it. -/
theorem localName_eq_iff {iri name : String} (hsign : '#' ∉ name.toList)
    (hslash : '/' ∉ name.toList) : localName iri = name ↔ EndsInName iri name := by
  by_cases h : '#' ∈ iri.toList
  · have hne : iri ≠ name := by
      rintro rfl
      exact hsign h
    rw [localName_eq_iff_of_mem h, EndsInName, or_iff_right hne,
      or_iff_left fun hboth => hboth.1 h, and_iff_right hsign]
  · have hno : ¬∃ front, iri = front ++ "#" ++ name := by
      rintro ⟨front, rfl⟩
      simp at h
    rw [localName_eq_iff_of_notMem h, EndsInName, or_iff_right hno, and_iff_right h,
      and_iff_right hslash]

namespace Relation

/-- Names of relations have no separators in them. -/
theorem separators_notMem_name (relation : Relation) :
    '#' ∉ relation.name.toList ∧ '/' ∉ relation.name.toList := by
  cases relation <;> decide

/-- No name of a relation stands within another one unless at its end. -/
theorem name_not_suffix_dropLast (relation other : Relation) :
    ¬relation.name.toList <:+ other.name.toList.dropLast := by
  have hall : ∀ relation ∈ all, ∀ other ∈ all,
      ¬relation.name.toList <:+ other.name.toList.dropLast := by decide +kernel
  exact hall relation relation.mem_all other other.mem_all

/-- No name of a relation ends in another one, whatever the case. -/
theorem eq_of_map_toLower_suffix {relation other : Relation}
    (h : relation.name.toList.map Char.toLower <:+ other.name.toList.map Char.toLower) :
    relation = other := by
  have hall : ∀ relation ∈ all, ∀ other ∈ all,
      relation.name.toList.map Char.toLower <:+ other.name.toList.map Char.toLower →
        relation = other := by
    decide +kernel
  exact hall relation relation.mem_all other other.mem_all h

theorem ofIri?_eq_some_iff {iri : String} {relation : Relation} :
    ofIri? iri = some relation ↔ EndsInName iri relation.name := by
  obtain ⟨hsign, hslash⟩ := relation.separators_notMem_name
  rw [ofIri?, ofName?_eq_some_iff, localName_eq_iff hsign hslash]

theorem ofIri?_eq_none_iff {iri : String} :
    ofIri? iri = none ↔ ∀ relation : Relation, ¬EndsInName iri relation.name := by
  simp only [Option.eq_none_iff_forall_ne_some, ne_eq, ofIri?_eq_some_iff]

/-- An IRI that ends with a separator denotes no relation. -/
theorem ofIri?_append_separator {c : Char} (hc : c = '#' ∨ c = '/') (front : String) :
    ofIri? (front ++ String.singleton c) = none := by
  refine ofIri?_eq_none_iff.2 fun relation h => ?_
  obtain ⟨hsign, hslash⟩ := relation.separators_notMem_name
  have hsuffix := h.isSuffix
  rw [String.toList_append, String.toList_singleton, List.suffix_concat_iff] at hsuffix
  obtain hnil | ⟨rest, hname, -⟩ := hsuffix
  · cases relation <;> cases hnil
  · obtain rfl | rfl := hc
    · exact hsign (by simp [hname])
    · exact hslash (by simp [hname])

/-- A name with one more character behind it denotes no relation. -/
theorem ofIri?_name_append (relation : Relation) (front : String) (c : Char) :
    ofIri? (front ++ relation.name ++ String.singleton c) = none := by
  by_cases hc : c = '#' ∨ c = '/'
  · exact ofIri?_append_separator hc _
  obtain ⟨hsign', hslash'⟩ := not_or.1 hc
  refine ofIri?_eq_none_iff.2 fun other h => ?_
  obtain ⟨hsign, hslash⟩ := relation.separators_notMem_name
  rw [String.append_assoc] at h
  obtain ⟨before, hname⟩ := h.suffix_of_append (by simp [hsign, Ne.symm hsign'])
    (by simp [hslash, Ne.symm hslash'])
  refine name_not_suffix_dropLast relation other ⟨before, ?_⟩
  rw [← hname, String.toList_append, String.toList_singleton, ← List.append_assoc,
    List.dropLast_concat]

/-- A name in another case denotes no relation. -/
theorem ofIri?_toLower_eq {relation : Relation} {name : String}
    (hcase : name.toLower = relation.name.toLower) (hne : name ≠ relation.name) (front : String) :
    ofIri? (front ++ name) = none := by
  rw [toLower_eq_iff] at hcase
  have hnotMem : ∀ separator, separator ∉ relation.name.toList.map Char.toLower →
      separator.toLower = separator → separator ∉ name.toList := by
    intro separator hlower hsame hmem
    rw [← hcase] at hlower
    exact hlower (List.mem_map.2 ⟨separator, hmem, hsame⟩)
  refine ofIri?_eq_none_iff.2 fun other h => ?_
  have hends := h.suffix_of_append (hnotMem '#' (by cases relation <;> decide) (by decide))
    (hnotMem '/' (by cases relation <;> decide) (by decide))
  -- The name that the IRI ends in can only be that of the relation, and is as long as the text.
  have hlower := hends.map Char.toLower
  rw [hcase] at hlower
  obtain rfl := eq_of_map_toLower_suffix hlower
  refine hne (String.toList_inj.1 (hends.eq_of_length ?_))
  rw [← List.length_map Char.toLower, hcase, List.length_map]

/-- A slash in the fragment does not separate a name. -/
theorem ofIri?_fragment_slash (front between : String) (relation : Relation) :
    ofIri? (front ++ "#" ++ between ++ "/" ++ relation.name) = none := by
  refine ofIri?_eq_none_iff.2 fun other h => ?_
  obtain ⟨hsign, -⟩ := relation.separators_notMem_name
  obtain ⟨hother, hslash⟩ := other.separators_notMem_name
  have hmem : '#' ∈ (front ++ "#" ++ between ++ "/" ++ relation.name).toList := by simp
  obtain ⟨-, before, hsame⟩ := (localName_eq_iff_of_mem hmem).1
    ((localName_eq_iff hother hslash).2 h)
  have hbehindSlash : '/' :: relation.name.toList <:+
      (front ++ "#" ++ between ++ "/" ++ relation.name).toList :=
    ⟨(front ++ "#" ++ between).toList, by simp⟩
  have hbehindSign : '#' :: other.name.toList <:+
      (front ++ "#" ++ between ++ "/" ++ relation.name).toList :=
    ⟨before.toList, by simp [String.toList_inj.2 hsame]⟩
  -- What stands behind the number sign would have the slash in it.
  have hwithin := suffix_of_separator_suffix hbehindSlash hbehindSign (by simp [hsign])
  exact hslash (hwithin.subset List.mem_cons_self)

end Relation

/-- A relation is denoted by the IRIs that end in its name behind their last number sign, or behind
their last slash if they have no number sign, or with nothing in front of it, and by no others. No
IRI denotes two relations. What stands behind a last number sign is a local name whatever stands in
front of it. No relation is denoted where a name goes on or is written in another case, where a
slash in the fragment stands before it, or where a separator ends the IRI. -/
theorem iris_denote_by_local_name :
    (∀ iri relation, Relation.ofIri? iri = some relation ↔ EndsInName iri relation.name) ∧
    (∀ iri relation other, EndsInName iri (Relation.name relation) →
      EndsInName iri (Relation.name other) → relation = other) ∧
    (∀ front name, '#' ∉ name.toList → localName (front ++ "#" ++ name) = name) ∧
    (∀ relation front c,
      Relation.ofIri? (front ++ Relation.name relation ++ String.singleton c) = none) ∧
    (∀ relation front name, name.toLower = (Relation.name relation).toLower →
      name ≠ relation.name → Relation.ofIri? (front ++ name) = none) ∧
    (∀ relation front between,
      Relation.ofIri? (front ++ "#" ++ between ++ "/" ++ Relation.name relation) = none) ∧
    ∀ front, Relation.ofIri? (front ++ "#") = none ∧ Relation.ofIri? (front ++ "/") = none := by
  refine ⟨fun iri relation => Relation.ofIri?_eq_some_iff, fun iri relation other h hother => ?_,
    fun front name hname => ?_, Relation.ofIri?_name_append,
    fun relation front name hcase hne => Relation.ofIri?_toLower_eq hcase hne front,
    fun relation front between => Relation.ofIri?_fragment_slash front between relation,
    fun front => ⟨?_, ?_⟩⟩
  · have hfound := Relation.ofIri?_eq_some_iff.2 h
    rw [Relation.ofIri?_eq_some_iff.2 hother] at hfound
    exact (Option.some.inj hfound).symm
  · have hmem : '#' ∈ (front ++ "#" ++ name).toList := by simp
    exact (localName_eq_iff_of_mem hmem).2 ⟨hname, front, rfl⟩
  · exact Relation.ofIri?_append_separator (.inl rfl) front
  · exact Relation.ofIri?_append_separator (.inr rfl) front

/-- Slashes behind a number sign belong to the local name, and a name in lower case is no name. -/
theorem slashed_fragment_and_lower_case :
    localName ("http://ex.org/o#a" ++ "#" ++ "b/hasFlow") = "b/hasFlow" ∧
      Relation.ofIri? ("http://ex.org/o#" ++ "hasflow") = none ∧
      ∀ relation, Relation.ofIri? "http://ex.org/hasFlow" = some relation →
        .hasFlow = relation := by
  have hsign : '#' ∉ "b/hasFlow".toList := by decide +kernel
  have hcase : "hasflow".toLower = (Relation.name .hasFlow).toLower :=
    toLower_eq_iff.2 (by decide +kernel)
  have hne : "hasflow" ≠ Relation.name .hasFlow := by decide +kernel
  have hflow : EndsInName "http://ex.org/hasFlow" (Relation.name .hasFlow) :=
    .inr (.inr ⟨by decide +kernel, "http://ex.org", by decide +kernel⟩)
  obtain ⟨hiff, huniq, hlocal, -, hcases, -⟩ := iris_denote_by_local_name
  exact ⟨hlocal "http://ex.org/o#a" "b/hasFlow" hsign,
    hcases .hasFlow "http://ex.org/o#" "hasflow" hcase hne,
    fun relation h => huniq _ _ _ hflow ((hiff _ _).1 h)⟩

end TaskNet
