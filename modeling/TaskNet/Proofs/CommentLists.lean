import Mathlib.Data.List.TakeWhile
import TaskNet.ArgumentList

/-!
# What can be read from a comment

The list of a kind can be read from a comment exactly if the comment opens such a list and closes
it somewhere behind the first opening. A mode can be read exactly if the text in front of the first
colon is the name of a kind. In every other case the fault says what the comment lacks.
-/

namespace TaskNet

namespace ListKind

/-- The first opening of a list of this kind in a comment stands between two texts. -/
structure FirstOpening (kind : ListKind) (comment : String) (front back : List Char) : Prop where
  /-- The opening stands between the two texts. -/
  eq_append : comment.toList = front ++ kind.opening ++ back
  /-- No opening stands further in front. -/
  first : ∀ front' back', comment.toList = front' ++ kind.opening ++ back' →
    front.length ≤ front'.length

/-- The list of this kind can be read from a comment: it is closed behind its first opening. -/
def IsReadableIn (kind : ListKind) (comment : String) : Prop :=
  ∃ front back, kind.FirstOpening comment front back ∧ ']' ∈ back

theorem firstOpening_iff {kind : ListKind} {comment : String} {front back : List Char} :
    kind.FirstOpening comment front back ↔
      Text.around? kind.opening comment.toList = some (front, back) := by
  rw [Text.around?_eq_some_iff]
  exact ⟨fun h => ⟨h.eq_append, h.first⟩, fun h => ⟨h.1, h.2⟩⟩

/-- There is only one first opening. -/
theorem FirstOpening.back_eq {kind : ListKind} {comment : String}
    {front back front' back' : List Char} (h : kind.FirstOpening comment front back)
    (h' : kind.FirstOpening comment front' back') : back = back' := by
  rw [firstOpening_iff] at h h'
  exact (Prod.mk.inj (Option.some.inj (h.symm.trans h'))).2

/-- Kinds are found by their names and by nothing else. -/
theorem ofName?_eq_some_iff {name : String} {kind : ListKind} :
    ofName? name = some kind ↔ kind.name = name := by
  constructor
  · intro h
    have hfound := List.find?_some (p := fun kind : ListKind => kind.name = name) h
    exact of_decide_eq_true hfound
  · rintro rfl
    cases kind with
    | parameters => rfl
    | objects => rfl
    | mixed => rfl

theorem ofName?_eq_none_iff {name : String} :
    ofName? name = none ↔ name ∉ all.map ListKind.name := by
  simp only [ofName?, List.find?_eq_none, decide_eq_true_eq, List.mem_map, not_exists, not_and]

end ListKind

/-- The text that a comment gives for its mode: what stands in front of its first colon, and all of
it if there is no colon. -/
def DeclaresMode (comment mode : String) : Prop :=
  ':' ∉ mode.toList ∧ (comment = mode ∨ ∃ rest, comment = mode ++ ":" ++ rest)

theorem declaresMode_iff {comment mode : String} :
    DeclaresMode comment mode ↔ mode = String.ofList (comment.toList.takeWhile (· ≠ ':')) := by
  rw [eq_comm, Text.ofList_takeWhile_ne_eq_iff]
  rfl

namespace ArgumentList

theorem splitFirst?_bracket_eq_none_iff {back : List Char} :
    Text.splitFirst? (· = ']') back = none ↔ ']' ∉ back := by
  rw [Text.splitFirst?_eq_none_iff]
  constructor
  · intro hnone hmem
    exact absurd (hnone _ hmem) (by decide)
  · intro hmem c hc
    exact decide_eq_false (ne_of_mem_of_not_mem hc hmem)

theorem splitFirst?_bracket_eq_some_iff {rest body back : List Char} :
    Text.splitFirst? (· = ']') rest = some (body, back) ↔
      rest = body ++ ']' :: back ∧ ']' ∉ body := by
  rw [Text.splitFirst?_eq_some_iff]
  constructor
  · rintro ⟨c, hc, rfl, hbody⟩
    obtain rfl := of_decide_eq_true hc
    exact ⟨rfl, fun hmem => of_decide_eq_false (hbody _ hmem) rfl⟩
  · rintro ⟨rfl, hbody⟩
    refine ⟨']', rfl, rfl, fun c hc => ?_⟩
    exact decide_eq_false (ne_of_mem_of_not_mem hc hbody)

/-- A list is read from a comment that opens one and closes it; otherwise the fault tells which of
the two is missing. -/
theorem extract_cases (kind : ListKind) (comment : String) :
    (¬kind.opening <:+: comment.toList ∧ extract kind comment = .error (.noList kind)) ∨
    (∃ front back, kind.FirstOpening comment front back ∧ ']' ∉ back ∧
      extract kind comment = .error (.notClosed kind)) ∨
    ∃ front back tokens, kind.FirstOpening comment front back ∧ ']' ∈ back ∧
      extract kind comment = .ok tokens := by
  unfold extract
  cases haround : Text.around? kind.opening comment.toList with
  | none =>
    refine .inl ⟨?_, rfl⟩
    rintro ⟨front, back, heq⟩
    exact Text.around?_eq_none_iff.1 haround front back heq.symm
  | some split =>
    obtain ⟨front, back⟩ := split
    have hopening := ListKind.firstOpening_iff.2 haround
    cases hsplit : Text.splitFirst? (· = ']') back with
    | none =>
      have hopen : ']' ∉ back := splitFirst?_bracket_eq_none_iff.1 hsplit
      exact .inr (.inl ⟨front, back, hopening, hopen, by simp only [hsplit]⟩)
    | some body =>
      have hclosed : ']' ∈ back := by
        by_contra hopen
        rw [splitFirst?_bracket_eq_none_iff.2 hopen] at hsplit
        cases hsplit
      exact .inr (.inr ⟨front, back, _, hopening, hclosed, by simp only [hsplit]; rfl⟩)

/-- A list is read from a comment exactly if it is readable there. -/
theorem exists_extract_iff {kind : ListKind} {comment : String} :
    (∃ tokens, extract kind comment = .ok tokens) ↔ kind.IsReadableIn comment := by
  obtain ⟨hopened, hfault⟩ | ⟨front, back, hopening, hclosed, hfault⟩ |
    ⟨front, back, tokens, hopening, hclosed, hok⟩ := extract_cases kind comment
  · rw [hfault]
    refine ⟨nofun, ?_⟩
    rintro ⟨front, back, hopening, -⟩
    exact absurd ⟨front, back, hopening.eq_append.symm⟩ hopened
  · rw [hfault]
    refine ⟨nofun, ?_⟩
    rintro ⟨front', back', hopening', hmem⟩
    rw [← hopening.back_eq hopening'] at hmem
    exact absurd hmem hclosed
  · exact ⟨fun _ => ⟨front, back, hopening, hclosed⟩, fun _ => ⟨tokens, hok⟩⟩

/-- The mode of a comment is the kind with the declared name; any other name is reported. -/
theorem mode_cases (comment : String) :
    (∃ kind, DeclaresMode comment kind.name ∧ mode comment = .ok kind) ∨
    ∃ text, DeclaresMode comment text ∧ text ∉ ListKind.all.map ListKind.name ∧
      mode comment = .error (.unknownMode text) := by
  have hdeclared : DeclaresMode comment (String.ofList (comment.toList.takeWhile (· ≠ ':'))) :=
    declaresMode_iff.2 rfl
  rw [mode]
  split
  · next kind hname =>
    rw [← ListKind.ofName?_eq_some_iff.1 hname] at hdeclared
    exact .inl ⟨kind, hdeclared, rfl⟩
  · next hname => exact .inr ⟨_, hdeclared, ListKind.ofName?_eq_none_iff.1 hname, rfl⟩

/-- A comment has a mode exactly if it declares it by name. -/
theorem mode_eq_ok_iff {comment : String} {kind : ListKind} :
    mode comment = .ok kind ↔ DeclaresMode comment kind.name := by
  rw [declaresMode_iff, ← ListKind.ofName?_eq_some_iff, mode]
  split
  · next other hname => rw [hname, Except.ok.injEq, Option.some.injEq]
  · next hname =>
    rw [hname]
    exact iff_of_false nofun nofun

end ArgumentList

end TaskNet
