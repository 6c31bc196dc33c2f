import Mathlib.Data.List.Infix
import TaskNet.Text.Split

/-!
# Parentheses

The depth of a text is the number of parentheses that it leaves open. A text is balanced if it
closes exactly what it opens, and a form is a balanced text that stands in one pair of parentheses.
A text is cut into forms wherever its depth returns to zero; forms that are written one below the
other come out of that as they went in, so none of them can reach into another one.
-/

namespace TaskNet.Text

/-- How many parentheses a text leaves open; negative if it closes more than it opens. -/
def depth (text : List Char) : Int := text.count '(' - text.count ')'

@[simp] theorem depth_append (text other : List Char) :
    depth (text ++ other) = depth text + depth other := by
  simp only [depth, List.count_append]
  omega

@[simp] theorem depth_open (text : List Char) : depth ('(' :: text) = depth text + 1 := by
  rw [← List.singleton_append, depth_append, Int.add_comm]
  rfl

@[simp] theorem depth_singleton_close : depth [')'] = -1 := rfl

/-- A text without parentheses. -/
def IsPlain (text : List Char) : Prop := '(' ∉ text ∧ ')' ∉ text

instance (text : List Char) : Decidable (IsPlain text) :=
  inferInstanceAs (Decidable ('(' ∉ text ∧ ')' ∉ text))

theorem IsPlain.append {text other : List Char} (h : IsPlain text) (hother : IsPlain other) :
    IsPlain (text ++ other) := by
  simp only [IsPlain, List.mem_append, not_or] at h hother ⊢
  exact ⟨⟨h.1, hother.1⟩, h.2, hother.2⟩

theorem IsPlain.of_prefix {front text : List Char} (h : IsPlain text) (hfront : front <+: text) :
    IsPlain front :=
  ⟨fun hmem => h.1 (hfront.subset hmem), fun hmem => h.2 (hfront.subset hmem)⟩

theorem IsPlain.depth_eq {text : List Char} (h : IsPlain text) : depth text = 0 := by
  rw [depth, List.count_eq_zero.2 h.1, List.count_eq_zero.2 h.2]
  rfl

/-! ### Balanced texts -/

/-- A text that closes what it opens and nothing else. -/
structure IsBalanced (text : List Char) : Prop where
  /-- Everything that is opened is closed. -/
  depth_eq : depth text = 0
  /-- Nothing is closed before it is opened. -/
  depth_nonneg : ∀ front, front <+: text → 0 ≤ depth front

theorem IsPlain.isBalanced {text : List Char} (h : IsPlain text) : IsBalanced text where
  depth_eq := h.depth_eq
  depth_nonneg _ hfront := Int.le_of_eq (h.of_prefix hfront).depth_eq.symm

theorem IsBalanced.append {text other : List Char} (h : IsBalanced text)
    (hother : IsBalanced other) : IsBalanced (text ++ other) where
  depth_eq := by rw [depth_append, h.depth_eq, hother.depth_eq, Int.add_zero]
  depth_nonneg front hfront := by
    obtain hfront | hfront :=
      List.prefix_or_prefix_of_prefix hfront (List.prefix_append text other)
    · exact h.depth_nonneg front hfront
    · obtain ⟨rest, rfl⟩ := hfront
      rw [depth_append, h.depth_eq, Int.zero_add]
      exact hother.depth_nonneg rest ((List.prefix_append_right_inj text).1 ‹_›)

/-- Balanced texts that are written one after the other are balanced. -/
theorem isBalanced_flatMap {α : Type} {write : α → List Char} {values : List α}
    (h : ∀ value ∈ values, IsBalanced (write value)) : IsBalanced (values.flatMap write) := by
  induction values with
  | nil =>
    have hplain : IsPlain [] := by decide
    exact hplain.isBalanced
  | cons value rest ih =>
    rw [List.flatMap_cons]
    obtain ⟨hvalue, hrest⟩ := List.forall_mem_cons.1 h
    exact hvalue.append (ih hrest)

/-! ### Forms -/

/-- A text in one pair of parentheses: what its first character opens is closed by its last one and
not before. -/
structure IsForm (text : List Char) : Prop where
  /-- The text begins with an opening parenthesis. -/
  opens : text.head? = some '('
  /-- The text ends with a closing parenthesis. -/
  closes : text.getLast? = some ')'
  /-- The first parenthesis is open everywhere in between. -/
  depth_pos : ∀ front, front <+: text → front ≠ [] → front ≠ text → 1 ≤ depth front
  /-- Nothing is open behind the text. -/
  depth_eq : depth text = 0

theorem IsForm.ne_nil {text : List Char} (h : IsForm text) : text ≠ [] := by
  rintro rfl
  cases h.opens

theorem IsForm.isBalanced {text : List Char} (h : IsForm text) : IsBalanced text where
  depth_eq := h.depth_eq
  depth_nonneg front hfront := by
    by_cases hnil : front = []
    · exact hnil ▸ Int.le_refl 0
    · by_cases hall : front = text
      · exact hall ▸ Int.le_of_eq h.depth_eq.symm
      · have hpos := h.depth_pos front hfront hnil hall
        omega

/-- A balanced text becomes a form in parentheses. -/
theorem IsBalanced.enclose {body : List Char} (h : IsBalanced body) :
    IsForm ('(' :: (body ++ [')'])) where
  opens := rfl
  closes := by rw [← List.cons_append, List.getLast?_concat]
  depth_pos front hfront hnil hall := by
    obtain rfl | ⟨inner, rfl, hinner⟩ := List.prefix_cons_iff.1 hfront
    · exact absurd rfl hnil
    · obtain rfl | hinner := List.prefix_concat_iff.1 hinner
      · exact absurd rfl hall
      · have hnonneg := h.depth_nonneg inner hinner
        rw [depth_open]
        omega
  depth_eq := by simp [h.depth_eq]

/-! ### Cutting a text into forms -/

/-- Cuts a text behind every character that leaves nothing open. What has been read of the form that
is open comes first; outside of forms everything but parentheses is left out. Unmatched parentheses
count as forms of their own. -/
def cutForms (current : List Char) : List Char → List (List Char)
  | [] => if current = [] then [] else [current]
  | c :: rest =>
    let next := current ++ [c]
    if 0 < depth next then cutForms next rest
    else if c = ')' then next :: cutForms [] rest
    else cutForms [] rest

/-- The forms that a text consists of, in order. -/
def topForms (text : List Char) : List (List Char) := cutForms [] text

/-- A character that is no parenthesis belongs to no form if none is open. -/
theorem topForms_cons {c : Char} (hc : IsPlain [c]) (rest : List Char) :
    topForms (c :: rest) = topForms rest := by
  have hclose : c ≠ ')' := by
    rintro rfl
    exact hc.2 List.mem_cons_self
  simp [topForms, cutForms, hc.depth_eq, hclose]

/-- The form that is open is read to its end: its proper beginnings leave it open, and its last
character closes it. -/
theorem cutForms_append {front back : List Char} (h : IsForm (front ++ back)) (hback : back ≠ [])
    (rest : List Char) :
    cutForms front (back ++ rest) = (front ++ back) :: topForms rest := by
  induction back generalizing front with
  | nil => exact absurd rfl hback
  | cons c back ih =>
    have hsplit : front ++ c :: back = (front ++ [c]) ++ back := by simp
    rw [hsplit] at h ⊢
    rw [List.cons_append, cutForms]
    by_cases hend : back = []
    · subst hend
      rw [List.append_nil] at h ⊢
      have hlast := h.closes
      rw [List.getLast?_concat] at hlast
      obtain rfl : c = ')' := Option.some.inj hlast
      simp only [h.depth_eq, Int.lt_irrefl, if_false, if_true]
      rfl
    · have hpos : 0 < depth (front ++ [c]) :=
        h.depth_pos _ (List.prefix_append _ _) (by simp) (by simpa using hend)
      simp only [hpos, if_true]
      exact ih h hend

/-- A form that a text begins with is cut off whole. -/
theorem topForms_append {form : List Char} (h : IsForm form) (rest : List Char) :
    topForms (form ++ rest) = form :: topForms rest := by
  have hform : IsForm ([] ++ form) := h
  exact cutForms_append hform h.ne_nil rest

/-- Forms that end their lines come out of a text as they went in. -/
theorem topForms_lines {forms : List (List Char)} (h : ∀ form ∈ forms, IsForm form) :
    topForms (forms.flatMap (· ++ ['\n'])) = forms := by
  induction forms with
  | nil => rfl
  | cons form forms ih =>
    obtain ⟨hform, hforms⟩ := List.forall_mem_cons.1 h
    rw [List.flatMap_cons, List.append_assoc, topForms_append hform, List.singleton_append,
      topForms_cons (by decide), ih hforms]

end TaskNet.Text
