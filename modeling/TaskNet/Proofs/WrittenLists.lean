import TaskNet.Proofs.CommentLists

/-!
# Written lists

A list is read from a comment exactly as it is written there. What is read are the tokens between
the first opening and the next closing bracket, and tokens that a list can hold are read back from
any text that spells them, whatever else stands in front of the opening and behind the bracket. An
opening holds its own last character only once, so it cannot begin in what stands in front of it.
-/

namespace TaskNet

namespace ListKind

variable {kind : ListKind} {comment : String} {front back : List Char}

/-- An opening ends with a bracket and has no other one. -/
theorem exists_opening_eq (kind : ListKind) :
    ∃ title, kind.opening = title ++ ['['] ∧ '[' ∉ title := by
  refine ⟨kind.name.toList ++ [':', ' '], ?_, ?_⟩
  · simp [opening]
  · cases kind <;> decide

/-- Where a text is followed by an opening that does not stand in it, the opening stands nowhere
else. -/
theorem opening_stands_last_iff :
    (∀ before after, front ++ kind.opening = before ++ kind.opening ++ after → after = []) ↔
      ¬kind.opening <:+: front := by
  obtain ⟨title, hopening, hbracket⟩ := kind.exists_opening_eq
  constructor
  · rintro hlast ⟨before, after, rfl⟩
    have hempty := hlast before (after ++ kind.opening) (by simp only [List.append_assoc])
    rw [hopening] at hempty
    simp at hempty
  · intro hfront before after h
    rw [hopening] at h hfront
    rcases List.eq_nil_or_concat after with hafter | ⟨middle, c, rfl⟩
    · exact hafter
    · rw [List.concat_eq_append, ← List.append_assoc, ← List.append_assoc] at h
      obtain ⟨h, -⟩ := List.append_inj' h rfl
      rw [← List.append_assoc, List.append_assoc, List.singleton_append] at h
      -- The bracket of the earlier opening would stand in the title of the last one or in front.
      rcases List.append_eq_append_iff.1 h with ⟨rest, -, htitle⟩ | ⟨rest, hrest, hmiddle⟩
      · rw [htitle] at hbracket
        simp at hbracket
      · cases rest with
        | nil =>
          rw [List.nil_append] at hmiddle
          rw [← hmiddle] at hbracket
          simp at hbracket
        | cons bracket rest =>
          obtain ⟨rfl, -⟩ := List.cons.inj hmiddle
          exact absurd ⟨before, rest, by simp [hrest]⟩ hfront

/-- The first opening is the one that does not stand in the text in front of it. -/
theorem firstOpening_iff_not_earlier : kind.FirstOpening comment front back ↔
    comment.toList = front ++ kind.opening ++ back ∧ ¬kind.opening <:+: front := by
  obtain ⟨title, hopening, -⟩ := kind.exists_opening_eq
  constructor
  · rintro ⟨heq, hfirst⟩
    refine ⟨heq, ?_⟩
    rintro ⟨before, after, rfl⟩
    have hle := hfirst before (after ++ kind.opening ++ back) (by simp [heq])
    simp only [hopening, List.length_append, List.length_singleton] at hle
    omega
  · rintro ⟨heq, hfront⟩
    refine ⟨heq, fun front' back' heq' => ?_⟩
    by_contra hlt
    have hsame : front ++ kind.opening ++ back = front' ++ kind.opening ++ back' :=
      heq.symm.trans heq'
    rcases List.append_eq_append_iff.1 hsame with ⟨rest, hlong, -⟩ | ⟨rest, hlong, -⟩
    · have hlength := congrArg List.length hlong
      simp only [List.length_append] at hlength
      omega
    · obtain rfl := opening_stands_last_iff.2 hfront front' rest hlong
      have hlength := congrArg List.length hlong
      simp only [List.length_append, List.length_nil] at hlength
      omega

/-- A list of this kind in a comment: its first opening, what stands between the brackets, and
whatever follows. -/
structure Encloses (kind : ListKind) (comment : String) (front body back : List Char) : Prop where
  /-- The comment consists of these parts. -/
  eq_append : comment.toList = front ++ kind.opening ++ body ++ ']' :: back
  /-- The opening stands only at the end of what it ends. -/
  last : ∀ before after, front ++ kind.opening = before ++ kind.opening ++ after → after = []
  /-- The list is closed by the first bracket behind its opening. -/
  bracket : ']' ∉ body

theorem encloses_iff {body : List Char} : kind.Encloses comment front body back ↔
    kind.FirstOpening comment front (body ++ ']' :: back) ∧ ']' ∉ body := by
  rw [firstOpening_iff_not_earlier, ← opening_stands_last_iff, ← List.append_assoc]
  exact ⟨fun h => ⟨⟨h.eq_append, h.last⟩, h.bracket⟩, fun h => ⟨h.1.1, h.1.2, h.2⟩⟩

end ListKind

namespace ArgumentList

variable {kind : ListKind} {comment : String} {front body back : List Char}
  {token : String} {tokens : List String}

/-- A text that a list can hold as one token: it is not empty, and it has neither a semicolon nor a
closing bracket in it. -/
def IsToken (text : String) : Prop := text ≠ "" ∧ ';' ∉ text.toList ∧ ']' ∉ text.toList

instance : DecidablePred IsToken := fun text =>
  inferInstanceAs (Decidable (text ≠ "" ∧ ';' ∉ text.toList ∧ ']' ∉ text.toList))

/-- The pieces of a text between its semicolons, empty ones left out. -/
def tokensOf (body : List Char) : List String :=
  ((body.splitOn ';').filter (· ≠ [])).map String.ofList

/-- A text that spells tokens has a semicolon between any two of them. More of them may stand in
front, between and behind. -/
inductive Spells : List Char → List String → Prop
  | nil : Spells [] []
  | separator {body : List Char} {tokens : List String} : Spells body tokens →
      Spells (';' :: body) tokens
  | last (token : String) : Spells token.toList [token]
  | cons (token : String) {body : List Char} {tokens : List String} : Spells body tokens →
      Spells (token.toList ++ ';' :: body) (token :: tokens)

/-! ### Spelled tokens -/

/-- A text is split at each of its semicolons. -/
theorem tokensOf_append_separator (front back : List Char) :
    tokensOf (front ++ ';' :: back) = tokensOf front ++ tokensOf back := by
  unfold tokensOf
  rw [List.splitOn_eq_splitOnP, List.splitOn_eq_splitOnP, List.splitOn_eq_splitOnP,
    List.splitOnP_append_cons front back (by simp), List.filter_append, List.map_append]

theorem tokensOf_separator_cons (body : List Char) : tokensOf (';' :: body) = tokensOf body :=
  tokensOf_append_separator [] body

theorem tokensOf_token (h : IsToken token) : tokensOf token.toList = [token] := by
  obtain ⟨hne, hseparator, -⟩ := h
  have hlist : token.toList ≠ [] := by simpa using hne
  rw [tokensOf, List.splitOn_eq_singleton hseparator]
  simp [hlist]

/-- Between semicolons there are only tokens. -/
theorem isToken_of_mem_tokensOf (hbody : ']' ∉ body) (h : token ∈ tokensOf body) :
    IsToken token := by
  obtain ⟨piece, hpiece, rfl⟩ := List.mem_map.1 h
  obtain ⟨hpiece, hne⟩ := List.mem_filter.1 hpiece
  rw [← Text.pieces_eq_splitOn] at hpiece
  obtain ⟨hseparator, hsubset⟩ := Text.of_mem_pieces hpiece
  rw [IsToken, String.toList_ofList]
  refine ⟨?_, hseparator, fun hmem => hbody (hsubset hmem)⟩
  simpa using hne

namespace Spells

theorem tokensOf_eq (h : Spells body tokens) (htokens : ∀ token ∈ tokens, IsToken token) :
    tokensOf body = tokens := by
  induction h with
  | nil => rfl
  | separator _ ih => exact (tokensOf_separator_cons _).trans (ih htokens)
  | last token => exact tokensOf_token (htokens token List.mem_cons_self)
  | cons token _ ih =>
    obtain ⟨htoken, hrest⟩ := List.forall_mem_cons.1 htokens
    rw [tokensOf_append_separator, tokensOf_token htoken, ih hrest, List.singleton_append]

theorem bracket_notMem (h : Spells body tokens) (htokens : ∀ token ∈ tokens, IsToken token) :
    ']' ∉ body := by
  induction h with
  | nil => exact List.not_mem_nil
  | separator _ ih =>
    simpa using ih htokens
  | last token => exact (htokens token List.mem_cons_self).2.2
  | cons token _ ih =>
    obtain ⟨htoken, hrest⟩ := List.forall_mem_cons.1 htokens
    simpa using ⟨htoken.2.2, ih hrest⟩

/-- Joined pieces spell those of them that are not empty. -/
theorem intercalate (pieces : List (List Char)) :
    Spells ([';'].intercalate pieces) ((pieces.filter (· ≠ [])).map String.ofList) := by
  induction pieces with
  | nil => exact .nil
  | cons piece rest ih =>
    cases rest with
    | nil =>
      rw [List.intercalate_singleton]
      by_cases hpiece : piece = []
      · simpa [hpiece] using nil
      · simpa [hpiece] using last (String.ofList piece)
    | cons next rest =>
      rw [List.intercalate_cons_cons, List.append_assoc, List.singleton_append]
      by_cases hpiece : piece = []
      · simpa [hpiece] using separator ih
      · simpa [hpiece] using cons (String.ofList piece) ih

/-- Every text spells the tokens that stand in it. -/
theorem of_tokensOf (body : List Char) : Spells body (tokensOf body) := by
  have hjoined := intercalate (body.splitOn ';')
  rwa [List.intercalate_splitOn] at hjoined

end Spells

/-- Tokens are spelled by a text exactly if they are what stands in it between semicolons. -/
theorem spells_iff (hbody : ']' ∉ body) :
    Spells body tokens ∧ (∀ token ∈ tokens, IsToken token) ↔ tokens = tokensOf body := by
  constructor
  · rintro ⟨hspells, htokens⟩
    exact (hspells.tokensOf_eq htokens).symm
  · rintro rfl
    exact ⟨.of_tokensOf body, fun _ => isToken_of_mem_tokensOf hbody⟩

/-! ### Lists in comments -/

/-- What is read is what stands between the first opening and the next closing bracket. -/
theorem extract_eq_ok_iff : extract kind comment = .ok tokens ↔
    ∃ front body back, kind.Encloses comment front body back ∧ tokens = tokensOf body := by
  constructor
  · intro h
    unfold extract at h
    split at h
    · cases h
    · next front rest haround =>
      split at h
      · cases h
      · next body back hsplit =>
        obtain ⟨rfl, hbody⟩ := splitFirst?_bracket_eq_some_iff.1 hsplit
        refine ⟨front, body, back, ?_, ?_⟩
        · exact ListKind.encloses_iff.2 ⟨ListKind.firstOpening_iff.2 haround, hbody⟩
        · rw [← Except.ok.inj h, Text.pieces_eq_splitOn, tokensOf]
  · rintro ⟨front, body, back, hencloses, rfl⟩
    obtain ⟨hopening, hbody⟩ := ListKind.encloses_iff.1 hencloses
    have hsplit : Text.splitFirst? (· = ']') (body ++ ']' :: back) = some (body, back) :=
      splitFirst?_bracket_eq_some_iff.2 ⟨rfl, hbody⟩
    unfold extract
    simp only [ListKind.firstOpening_iff.1 hopening, hsplit, Text.pieces_eq_splitOn, tokensOf]

theorem extract_eq_noList_iff :
    extract kind comment = .error (.noList kind) ↔ ¬kind.opening <:+: comment.toList := by
  obtain ⟨hopened, hfault⟩ | ⟨front, back, hopening, -, hfault⟩ |
    ⟨front, back, tokens, hopening, -, hok⟩ := extract_cases kind comment
  · exact iff_of_true hfault hopened
  · rw [hfault]
    exact iff_of_false nofun fun hopened => hopened ⟨front, back, hopening.eq_append.symm⟩
  · rw [hok]
    exact iff_of_false nofun fun hopened => hopened ⟨front, back, hopening.eq_append.symm⟩

theorem extract_eq_notClosed_iff : extract kind comment = .error (.notClosed kind) ↔
    ∃ front back, kind.FirstOpening comment front back ∧ ']' ∉ back := by
  obtain ⟨hopened, hfault⟩ | ⟨front, back, hopening, hclosed, hfault⟩ |
    ⟨front, back, tokens, hopening, hclosed, hok⟩ := extract_cases kind comment
  · rw [hfault]
    refine iff_of_false nofun ?_
    rintro ⟨front, back, hopening, -⟩
    exact hopened ⟨front, back, hopening.eq_append.symm⟩
  · exact iff_of_true hfault ⟨front, back, hopening, hclosed⟩
  · rw [hok]
    refine iff_of_false nofun ?_
    rintro ⟨front', back', hopening', hopen⟩
    rw [← hopening.back_eq hopening'] at hopen
    exact hopen hclosed

/-- Tokens are read back from any text that spells them between the brackets. -/
theorem extract_of_spells
    (hcomment : comment.toList = front ++ kind.opening ++ body ++ ']' :: back)
    (hfront : ¬kind.opening <:+: front) (hspells : Spells body tokens)
    (htokens : ∀ token ∈ tokens, IsToken token) : extract kind comment = .ok tokens := by
  refine extract_eq_ok_iff.2 ⟨front, body, back, ?_, (hspells.tokensOf_eq htokens).symm⟩
  exact
    { eq_append := hcomment
      last := ListKind.opening_stands_last_iff.2 hfront
      bracket := hspells.bracket_notMem htokens }

/-- A list that is opened nowhere and one that is closed nowhere behind its first opening are told
apart. Otherwise what stands between the first opening and the next closing bracket is cut at its
semicolons, and the pieces that are not empty are read. These are tokens that the text between the
brackets spells. Tokens that a list can hold are read back from any comment that spells them, as
long as there is no opening in front of the one that they stand behind. -/
theorem lists_are_read_as_written (kind : ListKind) (comment : String) :
    (extract kind comment = .error (.noList kind) ↔ ¬kind.opening <:+: comment.toList) ∧
    (extract kind comment = .error (.notClosed kind) ↔
      ∃ front back, kind.FirstOpening comment front back ∧ ']' ∉ back) ∧
    (∀ tokens, extract kind comment = .ok tokens ↔
      ∃ front body back, kind.Encloses comment front body back ∧
        tokens = ((body.splitOn ';').filter (· ≠ [])).map String.ofList) ∧
    (∀ tokens, extract kind comment = .ok tokens ↔
      ∃ front body back, kind.Encloses comment front body back ∧
        Spells body tokens ∧ ∀ token ∈ tokens, IsToken token) ∧
    ∀ front body back tokens, comment.toList = front ++ kind.opening ++ body ++ ']' :: back →
      ¬kind.opening <:+: front → Spells body tokens → (∀ token ∈ tokens, IsToken token) →
        extract kind comment = .ok tokens := by
  refine ⟨extract_eq_noList_iff, extract_eq_notClosed_iff, fun tokens => extract_eq_ok_iff,
    fun tokens => extract_eq_ok_iff.trans ?_, fun front body back tokens => extract_of_spells⟩
  refine exists_congr fun front => exists_congr fun body => exists_congr fun back => ?_
  exact and_congr_right fun hencloses => (spells_iff hencloses.bracket).symm

/-- A list of parameters with more semicolons than it needs, behind another list and in front of
one more of its own kind. -/
def crowdedRemark : String :=
  "[old] Objects: [a;b] Parameters: [;truck;; pkg [1:;] Parameters: [depot]"

theorem crowdedRemark_list_is_read :
    Spells ";truck;; pkg [1:;".toList ["truck", " pkg [1:"] ∧
      extract .parameters crowdedRemark = .ok ["truck", " pkg [1:"] := by
  have hspells : Spells ";truck;; pkg [1:;".toList ["truck", " pkg [1:"] :=
    .separator (.cons "truck" (.separator (.cons " pkg [1:" .nil)))
  refine ⟨hspells, ?_⟩
  have hread := (lists_are_read_as_written .parameters crowdedRemark).2.2.2.2
  exact hread "[old] Objects: [a;b] ".toList _ " Parameters: [depot]".toList _
    (by decide +kernel) (by decide +kernel) hspells (by decide +kernel)

end ArgumentList

end TaskNet
