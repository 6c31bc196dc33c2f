import TaskNet.Form.Literal

/-!
# Self-delimiting texts

A way of writing values is self-delimiting if a text that begins with a written value tells both the
value and what follows it. Symbols are self-delimiting in front of blanks and parentheses. From
self-delimiting parts longer texts are built that are self-delimiting again: sequences of parts that
all begin with the same character, and sequences of two kinds of parts that are never mistaken for
each other.
-/

namespace TaskNet.Text

variable {α β : Type}

/-- A way of writing values is self-delimiting if the values that are good can be told from the
texts that begin with them, as long as something admissible follows. -/
def SelfDelimiting (write : α → List Char) (Good : α → Prop) (Rest : List Char → Prop) : Prop :=
  ∀ ⦃a b : α⦄ ⦃x y : List Char⦄, Good a → Good b → Rest x → Rest y →
    write a ++ x = write b ++ y → a = b ∧ x = y

/-! ### Symbols -/

/-- The characters that end a symbol: whitespace and parentheses. Of the blanks only those of ASCII
are ever written between symbols, so any other may stand inside one. -/
def isDelimiter (c : Char) : Bool := c.isWhitespace || c = '(' || c = ')'

/-- A symbol is not empty and contains no whitespace and no parenthesis. -/
structure IsSymbol (text : String) : Prop where
  nonempty : text.toList ≠ []
  isDelimiter_eq_false : ∀ c ∈ text.toList, isDelimiter c = false

/-- Symbols are recognized character by character. -/
theorem isSymbol_iff {text : String} : IsSymbol text ↔
    text.toList ≠ [] ∧ text.toList.all (fun c => !isDelimiter c) = true := by
  simp only [List.all_eq_true, Bool.not_eq_true']
  constructor
  · intro h
    exact ⟨h.nonempty, h.isDelimiter_eq_false⟩
  · rintro ⟨hnonempty, hletters⟩
    exact ⟨hnonempty, hletters⟩

instance (text : String) : Decidable (IsSymbol text) := decidable_of_iff' _ isSymbol_iff

/-- Two symbols make a longer one. -/
theorem IsSymbol.append {text other : String} (h : IsSymbol text) (hother : IsSymbol other) :
    IsSymbol (text ++ other) := by
  constructor
  · rw [String.toList_append]
    exact List.append_ne_nil_of_left_ne_nil h.nonempty other.toList
  · rw [String.toList_append, List.forall_mem_append]
    exact ⟨h.isDelimiter_eq_false, hother.isDelimiter_eq_false⟩

/-- Whether a text begins with the end of a symbol. -/
def EndsSymbol : List Char → Prop
  | [] => False
  | c :: _ => isDelimiter c = true

/-- Symbols and other texts without delimiters are told from what follows by the first delimiter. -/
theorem append_inj_of_endsSymbol {s t x y : List Char} (hs : ∀ c ∈ s, isDelimiter c = false)
    (ht : ∀ c ∈ t, isDelimiter c = false) (hx : EndsSymbol x) (hy : EndsSymbol y)
    (h : s ++ x = t ++ y) : s = t ∧ x = y := by
  induction s generalizing t with
  | nil =>
    cases t with
    | nil => exact ⟨rfl, h⟩
    | cons c t =>
      rw [List.nil_append] at h
      subst h
      exact absurd hx (Bool.eq_false_iff.1 (ht c List.mem_cons_self))
  | cons c s ih =>
    cases t with
    | nil =>
      rw [List.nil_append] at h
      subst h
      exact absurd hy (Bool.eq_false_iff.1 (hs c List.mem_cons_self))
    | cons d t =>
      obtain ⟨rfl, hrest⟩ := List.cons.inj h
      obtain ⟨rfl, hxy⟩ := ih (fun e he => hs e (List.mem_cons_of_mem c he))
        (fun e he => ht e (List.mem_cons_of_mem c he)) hrest
      exact ⟨rfl, hxy⟩

theorem selfDelimiting_symbol : SelfDelimiting String.toList IsSymbol EndsSymbol := by
  intro a b x y ha hb hx hy h
  obtain ⟨hab, hxy⟩ := append_inj_of_endsSymbol ha.isDelimiter_eq_false hb.isDelimiter_eq_false
    hx hy h
  exact ⟨String.toList_inj.1 hab, hxy⟩

/-! ### Sequences -/

namespace SelfDelimiting

variable {f : α → List Char} {g : β → List Char} {GoodF : α → Prop} {GoodG : β → Prop}
  {Rest End : List Char → Prop}

/-- Parts that all begin with one character are told apart in a sequence, if the sequence is
followed by something that begins with another character. -/
theorem flatMap {opener : Char} (hf : SelfDelimiting f GoodF Rest)
    (hopens : ∀ a, GoodF a → ∃ r, f a = opener :: r) (hopener : ∀ r, Rest (opener :: r))
    (hend : ∀ x, End x → Rest x ∧ ∀ r, x ≠ opener :: r) :
    SelfDelimiting (List.flatMap f) (fun parts => ∀ a ∈ parts, GoodF a) End := by
  have hrest (parts : List α) (x : List Char) (hparts : ∀ a ∈ parts, GoodF a) (hx : End x) :
      Rest (parts.flatMap f ++ x) := by
    cases parts with
    | nil => exact (hend x hx).1
    | cons a parts =>
      obtain ⟨r, hr⟩ := hopens a (hparts a List.mem_cons_self)
      rw [List.flatMap_cons, hr]
      exact hopener _
  intro parts parts' x y hparts hparts' hx hy h
  induction parts generalizing parts' with
  | nil =>
    cases parts' with
    | nil => exact ⟨rfl, h⟩
    | cons b parts' =>
      obtain ⟨r, hr⟩ := hopens b (hparts' b List.mem_cons_self)
      rw [List.flatMap_cons, hr] at h
      exact absurd h ((hend x hx).2 _)
  | cons a parts ih =>
    rw [List.forall_mem_cons] at hparts
    cases parts' with
    | nil =>
      obtain ⟨r, hr⟩ := hopens a hparts.1
      rw [List.flatMap_cons, hr] at h
      exact absurd h.symm ((hend y hy).2 _)
    | cons b parts' =>
      rw [List.forall_mem_cons] at hparts'
      rw [List.flatMap_cons, List.flatMap_cons, List.append_assoc, List.append_assoc] at h
      obtain ⟨rfl, hparts_eq⟩ := hf hparts.1 hparts'.1 (hrest parts x hparts.2 hx)
        (hrest parts' y hparts'.2 hy) h
      obtain ⟨rfl, hxy⟩ := ih hparts.2 hparts'.2 hparts_eq
      exact ⟨rfl, hxy⟩

/-- Two kinds of parts that are never mistaken for each other are told apart. -/
theorem sum (hf : SelfDelimiting f GoodF Rest) (hg : SelfDelimiting g GoodG Rest)
    (hne : ∀ a b x y, GoodF a → GoodG b → Rest x → Rest y → f a ++ x ≠ g b ++ y) :
    SelfDelimiting (Sum.elim f g) (Sum.elim GoodF GoodG) Rest := by
  rintro (a | a) (b | b) x y ha hb hx hy h
  · obtain ⟨rfl, hxy⟩ := hf ha hb hx hy h
    exact ⟨rfl, hxy⟩
  · exact absurd h (hne a b x y ha hb hx hy)
  · exact absurd h.symm (hne b a y x hb ha hy hx)
  · obtain ⟨rfl, hxy⟩ := hg ha hb hx hy h
    exact ⟨rfl, hxy⟩

private theorem filterMap_getLeft?_append (left : List α) (right : List β) :
    (left.map Sum.inl ++ right.map Sum.inr).filterMap Sum.getLeft? = left := by
  simp [List.filterMap_map, Function.comp_def]

private theorem filterMap_getRight?_append (left : List α) (right : List β) :
    (left.map Sum.inl ++ right.map Sum.inr).filterMap Sum.getRight? = right := by
  simp [List.filterMap_map, Function.comp_def]

/-- In a sequence of parts of one kind, followed by a sequence of parts of another kind, both are
told apart if parts of the two kinds are never mistaken for each other. -/
theorem append_flatMap {opener : Char} (hf : SelfDelimiting f GoodF Rest)
    (hg : SelfDelimiting g GoodG Rest)
    (hne : ∀ a b x y, GoodF a → GoodG b → Rest x → Rest y → f a ++ x ≠ g b ++ y)
    (hfopens : ∀ a, GoodF a → ∃ r, f a = opener :: r)
    (hgopens : ∀ b, GoodG b → ∃ r, g b = opener :: r) (hopener : ∀ r, Rest (opener :: r))
    (hend : ∀ x, End x → Rest x ∧ ∀ r, x ≠ opener :: r) :
    SelfDelimiting (fun parts : List α × List β => parts.1.flatMap f ++ parts.2.flatMap g)
      (fun parts => (∀ a ∈ parts.1, GoodF a) ∧ ∀ b ∈ parts.2, GoodG b) End := by
  have hmixed := (hf.sum hg hne).flatMap (Sum.rec hfopens hgopens) hopener hend
  have hwritten (parts : List α × List β) : parts.1.flatMap f ++ parts.2.flatMap g =
      (parts.1.map Sum.inl ++ parts.2.map Sum.inr).flatMap (Sum.elim f g) := by
    simp only [List.flatMap_append, List.flatMap_map, Sum.elim_inl, Sum.elim_inr]
  have hgood (parts : List α × List β) (hparts : (∀ a ∈ parts.1, GoodF a) ∧ ∀ b ∈ parts.2, GoodG b) :
      ∀ part ∈ parts.1.map Sum.inl ++ parts.2.map Sum.inr, Sum.elim GoodF GoodG part := by
    simpa only [List.forall_mem_append, List.forall_mem_map, Sum.elim_inl, Sum.elim_inr] using hparts
  intro parts parts' x y hparts hparts' hx hy h
  simp only [hwritten] at h
  obtain ⟨hparts_eq, hxy⟩ := hmixed (hgood parts hparts) (hgood parts' hparts') hx hy h
  have hleft := congrArg (List.filterMap Sum.getLeft?) hparts_eq
  have hright := congrArg (List.filterMap Sum.getRight?) hparts_eq
  rw [filterMap_getLeft?_append, filterMap_getLeft?_append] at hleft
  rw [filterMap_getRight?_append, filterMap_getRight?_append] at hright
  exact ⟨Prod.ext hleft hright, hxy⟩

end SelfDelimiting

end TaskNet.Text
