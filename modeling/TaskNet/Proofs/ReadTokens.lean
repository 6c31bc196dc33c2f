import TaskNet.Json.Reader
import TaskNet.Proofs.SpelledTokens

/-!
# Values that are read back

The reader works through the tokens of a value with a stack of unfinished arrays and objects. Behind
the tokens of a plain value it has completed this value, whatever was unfinished before. So a plain
value is read back from its text in either layout.
-/

namespace TaskNet.Json

theorem Token.exists_separated_eq_cons {token : Token} {tokens : List Token}
    (rest : List (List Token)) :
    ∃ behind, separated ((token :: tokens) :: rest) = token :: behind := by
  cases rest with
  | nil => exact ⟨tokens, rfl⟩
  | cons other rest => exact ⟨tokens ++ .comma :: separated (other :: rest), rfl⟩

/-- No value begins with the end of an array. -/
theorem Value.exists_tokens_eq_cons (value : Value) :
    ∃ token behind, value.tokens = token :: behind ∧ token ≠ .closeBracket := by
  cases value with
  | array items => exact ⟨.openBracket, _, rfl, nofun⟩
  | object members => exact ⟨.openBrace, _, rfl, nofun⟩
  | null => exact ⟨.null, [], rfl, nofun⟩
  | bool value => exact ⟨.bool value, [], rfl, nofun⟩
  | natural count => exact ⟨.natural count, [], rfl, nofun⟩
  | number spelling => exact ⟨.number spelling, [], rfl, nofun⟩
  | string text => exact ⟨.string (some text), [], rfl, nofun⟩
  | unreadable => exact ⟨.string none, [], rfl, nofun⟩

namespace Reader

/-- The tokens of a value complete it, whatever is unfinished. -/
def Completes (value : Value) : Prop :=
  ∀ frames, value.tokens.foldlM step ⟨frames, .value⟩ = complete value frames

/-! ### Entries with commas between them -/

section

variable {α : Type} {entries : List α} {tokens : α → List Token}

/-- If each entry is added to those before it, and a comma makes ready for the next one, all entries
are added. -/
theorem foldlM_step_separated {ready done : List α → State}
    (hcomma : ∀ before, step (done before) .comma = some (ready before))
    (hentry : ∀ entry ∈ entries, ∀ before,
      (tokens entry).foldlM step (ready before) = some (done (entry :: before)))
    (hsome : entries ≠ []) (before : List α) :
    (Token.separated (entries.map tokens)).foldlM step (ready before) =
      some (done (entries.reverse ++ before)) := by
  induction entries generalizing before with
  | nil => exact absurd rfl hsome
  | cons entry rest ih =>
    obtain ⟨hfirst, hrest⟩ := List.forall_mem_cons.1 hentry
    cases rest with
    | nil => exact hfirst before
    | cons second rest =>
      have hread := ih hrest (List.cons_ne_nil _ _) (entry :: before)
      rw [List.map_cons, List.map_cons, Token.separated_cons_cons, List.foldlM_append, hfirst,
        Option.bind_eq_bind, Option.bind_some, List.foldlM_cons, hcomma, List.reverse_cons,
        List.append_assoc, List.singleton_append]
      exact hread

/-- If only its first token could make a difference, the first entry is read like the others. -/
theorem foldlM_step_first {first ready : State}
    (hfirst : ∀ entry, ∃ token behind, tokens entry = token :: behind ∧
      step first token = step ready token) (hsome : entries ≠ []) :
    (Token.separated (entries.map tokens)).foldlM step first =
      (Token.separated (entries.map tokens)).foldlM step ready := by
  cases entries with
  | nil => exact absurd rfl hsome
  | cons entry rest =>
    obtain ⟨token, behind, htokens, hstep⟩ := hfirst entry
    obtain ⟨all, hall⟩ := Token.exists_separated_eq_cons (rest.map tokens)
    rw [List.map_cons, htokens, hall, List.foldlM_cons, List.foldlM_cons, hstep]

end

/-! ### Arrays -/

/-- Items with commas between them are added to an array. -/
theorem foldlM_step_items {items : List Value} (h : ∀ item ∈ items, Completes item)
    (hsome : items ≠ []) (frames : List Frame) :
    (Token.separated (items.map Value.tokens)).foldlM step ⟨.array [] :: frames, .firstItem⟩ =
      some ⟨.array items.reverse :: frames, .separator⟩ := by
  have hfirst (item : Value) : ∃ token behind, item.tokens = token :: behind ∧
      step ⟨.array [] :: frames, .firstItem⟩ token = step ⟨.array [] :: frames, .value⟩ token := by
    obtain ⟨token, behind, htokens, htoken⟩ := item.exists_tokens_eq_cons
    refine ⟨token, behind, htokens, ?_⟩
    simp only [step, if_neg htoken]
  have hadded := @foldlM_step_separated _ items Value.tokens
    (fun before => ⟨.array before :: frames, .value⟩)
    (fun before => ⟨.array before :: frames, .separator⟩)
    (fun _ => rfl) (fun item hitem before => h item hitem (.array before :: frames)) hsome []
  rw [List.append_nil] at hadded
  rw [foldlM_step_first hfirst hsome, hadded]

theorem completes_array {items : List Value} (h : ∀ item ∈ items, Completes item) :
    Completes (.array items) := by
  intro frames
  rw [Value.tokens, Value.itemTokens_eq, List.cons_append, List.foldlM_cons]
  by_cases hnone : items = []
  · subst hnone
    exact bind_pure (complete (.array []) frames)
  · have hopened : step ⟨frames, .value⟩ .openBracket =
        some ⟨.array [] :: frames, .firstItem⟩ := rfl
    have hclosed : step ⟨.array items.reverse :: frames, .separator⟩ .closeBracket =
        complete (.array items) frames :=
      congrArg (fun items => complete (.array items) frames) items.reverse_reverse
    rw [hopened, Option.bind_eq_bind, Option.bind_some, List.foldlM_append,
      foldlM_step_items h hnone, Option.bind_eq_bind, Option.bind_some, List.foldlM_cons, hclosed]
    exact bind_pure _

/-! ### Objects -/

/-- The tokens of a member. -/
def memberTokens (member : String × Value) : List Token :=
  .string (some member.1) :: .colon :: member.2.tokens

/-- A member whose name has been read. -/
def named (member : String × Value) : Option String × Value :=
  (some member.1, member.2)

/-- Members with commas between them are added to an object. -/
theorem foldlM_step_members {members : List (String × Value)}
    (h : ∀ member ∈ members, Completes member.2) (hsome : members ≠ []) (frames : List Frame) :
    (Token.separated (members.map memberTokens)).foldlM step ⟨.object [] :: frames, .firstName⟩ =
      some ⟨.object (members.reverse.map named) :: frames, .separator⟩ := by
  have hfirst (member : String × Value) : ∃ token behind, memberTokens member = token :: behind ∧
      step ⟨.object [] :: frames, .firstName⟩ token = step ⟨.object [] :: frames, .name⟩ token :=
    ⟨_, _, rfl, rfl⟩
  have hadded := @foldlM_step_separated _ members memberTokens
    (fun before => ⟨.object (before.map named) :: frames, .name⟩)
    (fun before => ⟨.object (before.map named) :: frames, .separator⟩)
    (fun _ => rfl) (fun member hmember before =>
      h member hmember (.member (before.map named) (some member.1) :: frames)) hsome []
  rw [List.append_nil] at hadded
  rw [foldlM_step_first hfirst hsome]
  exact hadded

theorem objectOf_named (members : List (String × Value)) :
    objectOf (members.map named) = .object members := by
  have hnames {f : Option String × Value → Option (String × Value)}
      (hf : ∀ name value, f (some name, value) = some (name, value)) :
      (members.map named).mapM f = some members := by
    have hmembers : f ∘ named = some := funext fun member => hf member.1 member.2
    rw [List.mapM_map, hmembers]
    exact List.mapM_pure.trans (congrArg some members.map_id)
  rw [objectOf, hnames fun _ _ => rfl]

theorem completes_object {members : List (String × Value)}
    (h : ∀ member ∈ members, Completes member.2) : Completes (.object members) := by
  intro frames
  have hmembers : Value.memberTokens members = members.map memberTokens :=
    Value.memberTokens_eq members
  rw [Value.tokens, hmembers, List.cons_append, List.foldlM_cons]
  by_cases hnone : members = []
  · subst hnone
    exact bind_pure (complete (.object []) frames)
  · have hopened : step ⟨frames, .value⟩ .openBrace =
        some ⟨.object [] :: frames, .firstName⟩ := rfl
    have hclosed : step ⟨.object (members.reverse.map named) :: frames, .separator⟩ .closeBrace =
        complete (.object members) frames := by
      rw [← objectOf_named, List.map_reverse]
      exact congrArg (fun members => complete (objectOf members) frames) (List.reverse_reverse _)
    rw [hopened, Option.bind_eq_bind, Option.bind_some, List.foldlM_append,
      foldlM_step_members h hnone, Option.bind_eq_bind, Option.bind_some, List.foldlM_cons, hclosed]
    exact bind_pure _

/-- Plain values are completed by their tokens. -/
theorem completes_of_isPlain {value : Value} (h : value.IsPlain) : Completes value := by
  induction h with
  | null => exact fun _ => bind_pure _
  | bool value => exact fun _ => bind_pure _
  | natural count => exact fun _ => bind_pure _
  | string text => exact fun _ => bind_pure _
  | array items hitems ih => exact completes_array ih
  | object members hmembers ih => exact completes_object ih

end Reader

namespace Value.IsPlain

variable {value : Value}

theorem ofTokens?_eq (h : value.IsPlain) : ofTokens? value.tokens = some value := by
  rw [ofTokens?, Reader.completes_of_isPlain h]
  rfl

/-- A text that spells the tokens of a plain value is read as this value, also at the end of a
line. -/
theorem parse?_of_spells (h : value.IsPlain) {text behind : List Char}
    (hspells : Token.Spells text value.tokens) (hbehind : ∀ c ∈ behind, Token.isBlank c) :
    Value.parse? (text ++ behind) = some value := by
  have hends : Token.Ends behind := fun c hc =>
    Token.ends_of_isBlank (hbehind c (List.mem_of_mem_head? hc))
  have hblank := (Token.spells_nil.blanks hbehind).lex_eq
  rw [List.append_nil] at hblank
  rw [Value.parse?, hspells _ hends, hblank, Option.map_some, List.append_nil, Option.bind_some,
    h.ofTokens?_eq]

end Value.IsPlain

end TaskNet.Json
