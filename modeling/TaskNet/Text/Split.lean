/-!
# Cutting text at a separator

Character lists are cut at every separator (`pieces`), at the last one (`afterLast`), at the first
character of a kind (`splitFirst?`) or around the first place where a given mark stands
(`around?`). The lemmas fix each cut: `behind?_eq_some_iff` and `around?_eq_some_iff` say that
nothing is lost and that the first place is the one taken, `afterLast_eq_iff` that the last place
is, and `pieces_ne_nil` that there is always at least one piece.
-/

namespace TaskNet.Text

/-- The pieces between separators, empty ones included, in order. -/
def pieces (separator : Char) : List Char → List (List Char)
  | [] => [[]]
  | c :: rest =>
    if c = separator then [] :: pieces separator rest
    else match pieces separator rest with
      | [] => [[c]]
      | first :: others => (c :: first) :: others

/-- There is always a piece, if only an empty one. -/
theorem pieces_ne_nil (separator : Char) (text : List Char) : pieces separator text ≠ [] := by
  cases text with
  | nil => simp [pieces]
  | cons c rest =>
    simp only [pieces]
    split
    · simp
    · split <;> simp

/-- The pieces of a text are what the text is split into at the separator. -/
theorem pieces_eq_splitOn (separator : Char) (text : List Char) :
    pieces separator text = text.splitOn separator := by
  induction text with
  | nil => rfl
  | cons c rest ih =>
    rw [pieces, List.splitOn_cons_eq_if_modifyHead, ih]
    simp only [beq_iff_eq]
    cases hrest : rest.splitOn separator with
    | nil => exact absurd hrest (List.splitOn_ne_nil separator rest)
    | cons first others => rfl

/-- No piece holds the separator, and pieces hold nothing that the text does not. -/
theorem of_mem_pieces {separator : Char} {text piece : List Char}
    (h : piece ∈ pieces separator text) : separator ∉ piece ∧ piece ⊆ text := by
  fun_induction pieces separator text generalizing piece with
  | case1 =>
    obtain rfl := List.mem_singleton.1 h
    exact ⟨List.not_mem_nil, List.nil_subset _⟩
  | case2 rest ih =>
    obtain rfl | hrest := List.mem_cons.1 h
    · exact ⟨List.not_mem_nil, List.nil_subset _⟩
    · exact ⟨(ih hrest).1, List.subset_cons_of_subset _ (ih hrest).2⟩
  | case3 c rest _ hnil => exact absurd hnil (pieces_ne_nil separator rest)
  | case4 c rest hc first others hcons ih =>
    rw [hcons] at ih
    obtain rfl | hother := List.mem_cons.1 h
    · obtain ⟨hfirst, hsubset⟩ := ih List.mem_cons_self
      exact ⟨List.not_mem_cons_of_ne_of_not_mem (Ne.symm hc) hfirst,
        List.cons_subset_cons c hsubset⟩
    · obtain ⟨hpiece, hsubset⟩ := ih (List.mem_cons_of_mem first hother)
      exact ⟨hpiece, List.subset_cons_of_subset c hsubset⟩

/-- A text is taken up to its first stop, and all of it if it has none. -/
theorem takeWhile_ne_eq_iff {stop : Char} {text front : List Char} :
    text.takeWhile (· ≠ stop) = front ↔
      stop ∉ front ∧ (text = front ∨ ∃ back, text = front ++ stop :: back) := by
  constructor
  · rintro rfl
    have hall := List.all_eq_true.1 (List.all_takeWhile (p := (· ≠ stop)) (l := text))
    refine ⟨fun hmem => of_decide_eq_true (hall stop hmem) rfl, ?_⟩
    have hsplit := List.takeWhile_append_dropWhile (p := (· ≠ stop)) (l := text)
    cases hdrop : text.dropWhile (· ≠ stop) with
    | nil =>
      rw [hdrop, List.append_nil] at hsplit
      exact .inl hsplit.symm
    | cons c back =>
      have hhead := List.head?_dropWhile_not (· ≠ stop) text
      rw [hdrop] at hhead hsplit
      obtain rfl : c = stop := by simpa using hhead
      exact .inr ⟨back, hsplit.symm⟩
  · rintro ⟨hfront, htext⟩
    have hpass : ∀ c ∈ front, decide (c ≠ stop) = true := fun c hc =>
      decide_eq_true (ne_of_mem_of_not_mem hc hfront)
    obtain rfl | ⟨back, rfl⟩ := htext
    · simpa using @List.takeWhile_append_of_pos _ _ text [] hpass
    · rw [List.takeWhile_append_of_pos hpass, List.takeWhile_cons_of_neg (by simp),
        List.append_nil]

/-- A string is taken up to its first stop, and all of it if it has none. -/
theorem ofList_takeWhile_ne_eq_iff {stop : Char} {text front : String} :
    String.ofList (text.toList.takeWhile (· ≠ stop)) = front ↔
      stop ∉ front.toList ∧
        (text = front ∨ ∃ back, text = front ++ String.singleton stop ++ back) := by
  rw [← String.toList_inj, String.toList_ofList, takeWhile_ne_eq_iff, String.toList_inj]
  refine and_congr_right fun _ => or_congr_right ?_
  constructor
  · rintro ⟨back, h⟩
    refine ⟨String.ofList back, String.toList_inj.1 ?_⟩
    simp [h]
  · rintro ⟨back, rfl⟩
    exact ⟨back.toList, by simp⟩

/-- What follows the last separator, or all of the text if it holds none. -/
def afterLast (separator : Char) (text : List Char) : List Char :=
  (text.reverse.takeWhile (· ≠ separator)).reverse

/-- A text follows the last separator if it has none itself and stands behind one or alone. -/
theorem afterLast_eq_iff {separator : Char} {text back : List Char} :
    afterLast separator text = back ↔
      separator ∉ back ∧ (text = back ∨ ∃ front, text = front ++ separator :: back) := by
  rw [afterLast, List.reverse_eq_iff, takeWhile_ne_eq_iff, List.mem_reverse, List.reverse_inj]
  refine and_congr_right fun _ => or_congr_right ?_
  constructor
  · rintro ⟨rest, hrest⟩
    refine ⟨rest.reverse, ?_⟩
    rw [← List.reverse_reverse text, hrest]
    simp
  · rintro ⟨front, rfl⟩
    exact ⟨front.reverse, by simp⟩

/-- A string follows the last separator if it has none itself and stands behind one or alone. -/
theorem ofList_afterLast_eq_iff {separator : Char} {text back : String} :
    String.ofList (afterLast separator text.toList) = back ↔
      separator ∉ back.toList ∧
        (text = back ∨ ∃ front, text = front ++ String.singleton separator ++ back) := by
  rw [← String.toList_inj, String.toList_ofList, afterLast_eq_iff, String.toList_inj]
  refine and_congr_right fun _ => or_congr_right ?_
  constructor
  · rintro ⟨front, h⟩
    refine ⟨String.ofList front, String.toList_inj.1 ?_⟩
    simp [h]
  · rintro ⟨front, rfl⟩
    exact ⟨front.toList, by simp⟩

/-- The text in front of the first character that satisfies `stop`, and the text behind it. -/
def splitFirst? (stop : Char → Bool) : List Char → Option (List Char × List Char)
  | [] => none
  | c :: rest =>
    if stop c then some ([], rest)
    else (splitFirst? stop rest).map fun (front, back) => (c :: front, back)

/-- What follows the first stop is shorter than the text. -/
theorem splitFirst?_length {stop : Char → Bool} {text front back : List Char}
    (h : splitFirst? stop text = some (front, back)) : back.length < text.length := by
  fun_induction splitFirst? stop text generalizing front with
  | case1 => simp at h
  | case2 => simp_all
  | case3 c rest _ ih =>
    obtain ⟨⟨_, _⟩, hrest, hpair⟩ := Option.map_eq_some_iff.1 h
    obtain ⟨-, rfl⟩ := Prod.mk.inj hpair
    exact Nat.lt_succ_of_lt (ih hrest)

/-- There is no stop to cut at exactly if no character is one. -/
theorem splitFirst?_eq_none_iff {stop : Char → Bool} {text : List Char} :
    splitFirst? stop text = none ↔ ∀ c ∈ text, stop c = false := by
  fun_induction splitFirst? stop text with
  | case1 => simp
  | case2 c rest hstop => simp [hstop]
  | case3 c rest hstop ih => simp [hstop, ih]

/-- The cut is made at the first of the stops. -/
theorem splitFirst?_eq_some_iff {stop : Char → Bool} {text front back : List Char} :
    splitFirst? stop text = some (front, back) ↔
      ∃ c, stop c = true ∧ text = front ++ c :: back ∧ ∀ earlier ∈ front, stop earlier = false := by
  fun_induction splitFirst? stop text generalizing front with
  | case1 => simp
  | case2 c rest hstop =>
    constructor
    · intro h
      obtain ⟨rfl, rfl⟩ := Prod.mk.inj (Option.some.inj h)
      exact ⟨c, hstop, rfl, nofun⟩
    · rintro ⟨d, hd, htext, hfront⟩
      cases front with
      | nil =>
        obtain ⟨-, rfl⟩ := List.cons.inj htext
        rfl
      | cons first front =>
        obtain ⟨rfl, -⟩ := List.cons.inj htext
        rw [hfront c List.mem_cons_self] at hstop
        cases hstop
  | case3 c rest hstop ih =>
    rw [Option.map_eq_some_iff]
    constructor
    · rintro ⟨⟨before, behind⟩, hrest, hpair⟩
      obtain ⟨rfl, rfl⟩ := Prod.mk.inj hpair
      obtain ⟨d, hd, rfl, hbefore⟩ := ih.1 hrest
      exact ⟨d, hd, rfl, List.forall_mem_cons.2 ⟨Bool.eq_false_iff.2 hstop, hbefore⟩⟩
    · rintro ⟨d, hd, htext, hfront⟩
      cases front with
      | nil =>
        obtain ⟨rfl, -⟩ := List.cons.inj htext
        exact absurd hd hstop
      | cons first front =>
        obtain ⟨rfl, rfl⟩ := List.cons.inj htext
        exact ⟨(front, back), ih.2 ⟨d, hd, rfl, (List.forall_mem_cons.1 hfront).2⟩, rfl⟩

/-- What follows a mark at the very beginning of a text. -/
def behind? : List Char → List Char → Option (List Char)
  | [], text => some text
  | _ :: _, [] => none
  | m :: mark, c :: text => if m = c then behind? mark text else none

/-- A mark is found at the beginning exactly if the text is the mark and what follows it. -/
theorem behind?_eq_some_iff {mark text back : List Char} :
    behind? mark text = some back ↔ text = mark ++ back := by
  fun_induction behind? mark text with
  | case1 => simp
  | case2 => simp
  | case3 m mark text ih => simpa using ih
  | case4 m mark c text hne => simp [Ne.symm hne]

/-- What follows a mark is a part of the text. -/
theorem behind?_length {mark text back : List Char} (h : behind? mark text = some back) :
    back.length ≤ text.length := by
  simp [behind?_eq_some_iff.1 h]

/-- The text in front of the first place where a mark stands, and the text behind the mark. -/
def around? (mark text : List Char) : Option (List Char × List Char) :=
  match behind? mark text with
  | some back => some ([], back)
  | none =>
    match text with
    | [] => none
    | c :: rest => (around? mark rest).map fun (front, back) => (c :: front, back)

/-- A cut around a mark loses nothing but the mark. -/
theorem eq_of_around? {mark text front back : List Char}
    (h : around? mark text = some (front, back)) : text = front ++ mark ++ back := by
  induction text generalizing front with
  | nil =>
    unfold around? at h
    split at h
    · next hbehind =>
      obtain ⟨rfl, rfl⟩ := Prod.mk.inj (Option.some.inj h)
      simpa using behind?_eq_some_iff.1 hbehind
    · simp at h
  | cons c rest ih =>
    unfold around? at h
    split at h
    · next hbehind =>
      obtain ⟨rfl, rfl⟩ := Prod.mk.inj (Option.some.inj h)
      simpa using behind?_eq_some_iff.1 hbehind
    · obtain ⟨⟨_, _⟩, hrest, hpair⟩ := Option.map_eq_some_iff.1 h
      obtain ⟨rfl, rfl⟩ := Prod.mk.inj hpair
      simp [ih hrest]

/-- A mark that stands anywhere is found, and no later than there. -/
theorem exists_around? (mark front back : List Char) :
    ∃ first rest, around? mark (front ++ mark ++ back) = some (first, rest) ∧
      first.length ≤ front.length := by
  induction front with
  | nil =>
    refine ⟨[], back, ?_, Nat.le_refl 0⟩
    unfold around?
    simp [behind?_eq_some_iff.2 (rfl : mark ++ back = mark ++ back)]
  | cons c front ih =>
    obtain ⟨first, rest, hfind, hle⟩ := ih
    unfold around?
    split
    · exact ⟨[], _, rfl, Nat.zero_le _⟩
    · exact ⟨c :: first, rest, by simpa using hfind, Nat.succ_le_succ hle⟩

/-- The cut is made around the first of the places where the mark stands. -/
theorem around?_eq_some_iff {mark text front back : List Char} :
    around? mark text = some (front, back) ↔
      text = front ++ mark ++ back ∧
        ∀ front' back', text = front' ++ mark ++ back' → front.length ≤ front'.length := by
  constructor
  · intro h
    refine ⟨eq_of_around? h, ?_⟩
    rintro front' back' rfl
    obtain ⟨first, rest, hfind, hle⟩ := exists_around? mark front' back'
    obtain ⟨rfl, -⟩ := Prod.mk.inj (Option.some.inj (h.symm.trans hfind))
    exact hle
  · rintro ⟨rfl, hfirst⟩
    obtain ⟨first, rest, hfind, hle⟩ := exists_around? mark front back
    have htext := eq_of_around? hfind
    have hlength := Nat.le_antisymm hle (hfirst first rest htext)
    rw [List.append_assoc, List.append_assoc] at htext
    obtain ⟨rfl, htail⟩ := List.append_inj htext hlength.symm
    rw [hfind, List.append_cancel_left htail]

/-- A mark is found nowhere exactly if it stands nowhere. -/
theorem around?_eq_none_iff {mark text : List Char} :
    around? mark text = none ↔ ∀ front back, text ≠ front ++ mark ++ back := by
  constructor
  · rintro h front back rfl
    obtain ⟨first, rest, hfind, -⟩ := exists_around? mark front back
    exact nomatch h.symm.trans hfind
  · intro h
    match hfind : around? mark text with
    | none => rfl
    | some (front, back) => exact absurd (eq_of_around? hfind) (h front back)

/-- What follows the first place of a mark is a part of the text. -/
theorem around?_length {mark text front back : List Char}
    (h : around? mark text = some (front, back)) : back.length ≤ text.length := by
  simp only [eq_of_around? h, List.length_append]
  omega

end TaskNet.Text
