import TaskNet.Proofs.SelfDelimiting
import TaskNet.Proofs.Wording

/-!
# Parts of forms are self-delimiting

If names and arguments are symbols, and no name begins with an exclamation mark, then literals,
groups of literals, calls and clauses can each be told from a text that begins with them. They are
joined without separators, so this is shown for each of them in front of any text at all.
-/

namespace TaskNet

open Text (SelfDelimiting IsSymbol EndsSymbol)

/-- Names and arguments that are symbols. The exclamation mark is kept for operators. -/
def symbols : Wording where
  IsName name := IsSymbol name ∧ name.toList.head? ≠ some '!'
  IsArgument := IsSymbol

/-- Whether a text begins with a closing parenthesis. -/
def Closes (text : List Char) : Prop := ∃ rest, text = ')' :: rest

theorem Closes.endsSymbol {text : List Char} (h : Closes text) : EndsSymbol text := by
  obtain ⟨rest, rfl⟩ := h
  rfl

theorem Closes.ne_cons {text : List Char} (h : Closes text) {c : Char} (hc : c ≠ ')')
    (rest : List Char) : text ≠ c :: rest := by
  obtain ⟨rest', rfl⟩ := h
  intro heq
  exact hc (List.cons.inj heq).1.symm

/-! ### Applications -/

theorem toList_spaced (names : List String) :
    (spaced names).toList = names.flatMap fun name => ' ' :: name.toList := by
  simp [spaced, String.toList_join, List.flatMap_map]

theorem toList_application (name : String) (arguments : List String) :
    (application name arguments).toList =
      '(' :: (name.toList ++ ((spaced arguments).toList ++ [')'])) := by
  simp [application]

/-- Arguments are told apart by the blanks in front of them. -/
theorem selfDelimiting_spaced :
    SelfDelimiting (fun names => (spaced names).toList) symbols.AllowsArguments Closes := by
  have hname : SelfDelimiting (fun name => ' ' :: name.toList) IsSymbol EndsSymbol := by
    intro a b x y ha hb hx hy h
    exact Text.selfDelimiting_symbol ha hb hx hy (List.cons.inj h).2
  have hblank (rest : List Char) : EndsSymbol (' ' :: rest) := rfl
  have hall := hname.flatMap (fun name _ => ⟨name.toList, rfl⟩) hblank
    fun x (hx : Closes x) => ⟨hx.endsSymbol, hx.ne_cons (by decide)⟩
  intro names names' x y hnames hnames' hx hy h
  simp only [toList_spaced] at h
  exact hall hnames hnames' hx hy h

/-- Behind a name there is a blank if arguments follow, and the closing parenthesis if none do. -/
theorem spaced_append_closing (names : List String) (rest : List Char) :
    ∃ c rest', (spaced names).toList ++ ')' :: rest = c :: rest' ∧ (c = ' ' ∨ c = ')') := by
  rw [toList_spaced]
  cases names with
  | nil => exact ⟨')', rest, rfl, .inr rfl⟩
  | cons name names => exact ⟨' ', _, rfl, .inl rfl⟩

theorem endsSymbol_spaced_append (names : List String) (rest : List Char) :
    EndsSymbol ((spaced names).toList ++ ')' :: rest) := by
  obtain ⟨c, rest', heq, rfl | rfl⟩ := spaced_append_closing names rest
  · rw [heq]
    rfl
  · rw [heq]
    rfl

/-- A name with its arguments ends at the first parenthesis that closes. -/
theorem application_append_inj {name name' : String} {arguments arguments' : List String}
    {x y : List Char} (hname : IsSymbol name) (hargs : symbols.AllowsArguments arguments)
    (hname' : IsSymbol name') (hargs' : symbols.AllowsArguments arguments')
    (h : (application name arguments).toList ++ x = (application name' arguments').toList ++ y) :
    name = name' ∧ arguments = arguments' ∧ x = y := by
  simp only [toList_application, List.cons_append, List.append_assoc, List.nil_append,
    List.cons.injEq, true_and] at h
  obtain ⟨hname_eq, hrest⟩ := Text.selfDelimiting_symbol hname hname'
    (endsSymbol_spaced_append arguments x) (endsSymbol_spaced_append arguments' y) h
  obtain ⟨hargs_eq, hclosed⟩ := selfDelimiting_spaced hargs hargs' ⟨x, rfl⟩ ⟨y, rfl⟩ hrest
  exact ⟨hname_eq, hargs_eq, (List.cons.inj hclosed).2⟩

/-! ### Literals -/

theorem toList_text_positive (name : String) (arguments : List String) :
    (Literal.text { name, arguments }).toList = (application name arguments).toList := rfl

theorem toList_text_negated (name : String) (arguments : List String) :
    (Literal.text { negated := true, name, arguments }).toList =
      '(' :: ("not".toList ++ ((application name arguments).toList ++ [')'])) := by
  simp [Literal.text]

/-- A negation is told from a predicate with the name `not`, whose name is followed by a blank or
the closing parenthesis. -/
theorem negation_ne_application {name name' : String} {arguments arguments' : List String}
    (hname : IsSymbol name) (x y : List Char) :
    (application name arguments).toList ++ x ≠
      (Literal.text { negated := true, name := name', arguments := arguments' }).toList ++ y := by
  intro h
  have hnot : IsSymbol "not" := by decide
  have hopening (rest : List Char) : EndsSymbol ('(' :: rest) := rfl
  simp only [toList_text_negated, toList_application, List.cons_append, List.append_assoc,
    List.nil_append, List.cons.injEq, true_and] at h
  obtain ⟨-, hrest⟩ := Text.append_inj_of_endsSymbol hname.isDelimiter_eq_false
    hnot.isDelimiter_eq_false (endsSymbol_spaced_append arguments x) (hopening _) h
  obtain ⟨c, rest, heq, hc⟩ := spaced_append_closing arguments x
  rw [heq] at hrest
  obtain ⟨rfl, -⟩ := List.cons.inj hrest
  revert hc
  decide

/-- A literal ends where its parentheses are balanced. -/
theorem selfDelimiting_literal :
    SelfDelimiting (fun literal => (Literal.text literal).toList) symbols.AllowsLiteral
      fun _ => True := by
  rintro ⟨negated, name, arguments⟩ ⟨negated', name', arguments'⟩ x y ⟨hname, hargs⟩
    ⟨hname', hargs'⟩ - - h
  cases negated <;> cases negated'
  case false.false =>
    simp only [toList_text_positive] at h
    obtain ⟨rfl, rfl, hxy⟩ := application_append_inj hname.1 hargs hname'.1 hargs' h
    exact ⟨rfl, hxy⟩
  case false.true => exact absurd h (negation_ne_application hname.1 x y)
  case true.false => exact absurd h.symm (negation_ne_application hname'.1 y x)
  case true.true =>
    simp only [toList_text_negated, List.cons_append, List.append_assoc, List.cons.injEq, true_and,
      List.append_cancel_left_eq] at h
    obtain ⟨rfl, rfl, hclosed⟩ := application_append_inj hname.1 hargs hname'.1 hargs' h
    exact ⟨rfl, (List.cons.inj hclosed).2⟩

/-- Every literal begins with a parenthesis. -/
theorem literal_opens (literal : Literal) : ∃ rest, literal.text.toList = '(' :: rest := by
  obtain ⟨_ | _, name, arguments⟩ := literal
  · exact ⟨_, toList_application name arguments⟩
  · exact ⟨_, toList_text_negated name arguments⟩

theorem toList_group (literals : List Literal) : (Literal.group literals).toList =
    '(' :: (literals.flatMap (fun literal => literal.text.toList) ++ [')']) := by
  simp [Literal.group, Literal.textAll, String.toList_join, List.flatMap_map]

/-- A group of literals ends at the parenthesis that opens no literal. -/
theorem selfDelimiting_group :
    SelfDelimiting (fun literals => (Literal.group literals).toList)
      (fun literals => ∀ literal ∈ literals, symbols.AllowsLiteral literal) fun _ => True := by
  have hall := selfDelimiting_literal.flatMap (fun literal _ => literal_opens literal)
    (fun _ => trivial) fun x (hx : Closes x) => ⟨trivial, hx.ne_cons (by decide)⟩
  intro literals literals' x y hgood hgood' _ _ h
  simp only [toList_group, List.cons_append, List.append_assoc, List.nil_append, List.cons.injEq,
    true_and] at h
  obtain ⟨heq, hclosed⟩ := hall hgood hgood' ⟨x, rfl⟩ ⟨y, rfl⟩ h
  exact ⟨heq, (List.cons.inj hclosed).2⟩

/-! ### Calls -/

/-- Every call begins with a parenthesis. -/
theorem call_opens (kind : TaskKind) (call : Call) : ∃ rest, (call.text kind).toList = '(' :: rest :=
  ⟨_, toList_application _ _⟩

/-- The mark in front of operators keeps symbols symbols. -/
theorem isSymbol_marked {name : String} (kind : TaskKind) (hname : IsSymbol name) :
    IsSymbol (kind.marker ++ name) := by
  cases kind with
  | method => simpa [TaskKind.marker] using hname
  | operator =>
    have hmark : IsSymbol "!" := by decide
    exact hmark.append hname

theorem toList_text_call (kind : TaskKind) (name : String) (arguments : List String) :
    (Call.text kind { name, arguments }).toList =
      (application (kind.marker ++ name) arguments).toList := rfl

/-- Calls of one kind are told apart. -/
theorem selfDelimiting_call (kind : TaskKind) :
    SelfDelimiting (fun call : Call => (call.text kind).toList) symbols.AllowsCall
      fun _ => True := by
  rintro ⟨name, arguments⟩ ⟨name', arguments'⟩ x y ⟨hname, hargs⟩ ⟨hname', hargs'⟩ - - h
  simp only [toList_text_call] at h
  obtain ⟨hmarked, rfl, hxy⟩ := application_append_inj (isSymbol_marked kind hname.1) hargs
    (isSymbol_marked kind hname'.1) hargs' h
  have hname_eq : name = name' := by
    have htoList := congrArg String.toList hmarked
    rw [String.toList_append, String.toList_append] at htoList
    exact String.toList_inj.1 (List.append_cancel_left htoList)
  exact ⟨by rw [hname_eq], hxy⟩

/-- A call of a method is told from one of an operator by the exclamation mark. -/
theorem method_ne_operator {call call' : Call} (hcall : symbols.AllowsCall call)
    (hcall' : symbols.AllowsCall call') (x y : List Char) :
    (call.text .method).toList ++ x ≠ (call'.text .operator).toList ++ y := by
  intro h
  obtain ⟨name, arguments⟩ := call
  obtain ⟨name', arguments'⟩ := call'
  simp only [toList_text_call] at h
  obtain ⟨hmarked, -, -⟩ := application_append_inj (isSymbol_marked .method hcall.1.1) hcall.2
    (isSymbol_marked .operator hcall'.1.1) hcall'.2 h
  have hhead := congrArg (fun name : String => name.toList.head?) hmarked
  apply hcall.1.2
  simpa [TaskKind.marker] using hhead

theorem toList_textAll (kind : TaskKind) (calls : List Call) : (Call.textAll kind calls).toList =
    calls.flatMap fun call => (call.text kind).toList := by
  simp [Call.textAll, String.toList_join, List.flatMap_map]

/-- Methods followed by operators are told apart, up to the parenthesis that opens no call. -/
theorem selfDelimiting_tasks :
    SelfDelimiting
      (fun tasks : List Call × List Call =>
        (Call.textAll .method tasks.1).toList ++ (Call.textAll .operator tasks.2).toList)
      (fun tasks => (∀ call ∈ tasks.1, symbols.AllowsCall call) ∧
        ∀ call ∈ tasks.2, symbols.AllowsCall call) Closes := by
  have hall := (selfDelimiting_call .method).append_flatMap (selfDelimiting_call .operator)
    (fun _ _ x y hcall hcall' _ _ => method_ne_operator hcall hcall' x y)
    (fun call _ => call_opens .method call) (fun call _ => call_opens .operator call)
    (fun _ => trivial) fun x (hx : Closes x) => ⟨trivial, hx.ne_cons (by decide)⟩
  intro tasks tasks' x y htasks htasks' hx hy h
  simp only [toList_textAll] at h
  exact hall htasks htasks' hx hy h

/-! ### Clauses -/

theorem MethodClause.toList_text (clause : MethodClause) : clause.text.toList =
    "(:method ".toList ++ ((clause.head.text .method).toList ++ ("\n".toList ++
      ((Literal.group clause.preconditions).toList ++ ("\n(".toList ++
        ((Call.textAll .method clause.methods).toList ++
          (Call.textAll .operator clause.operators).toList ++ "))".toList))))) := by
  unfold MethodClause.text
  simp only [String.toList_append, List.append_assoc]

theorem OperatorClause.toList_text (clause : OperatorClause) : clause.text.toList =
    "(:operator ".toList ++ ((clause.head.text .operator).toList ++ ("\n".toList ++
      ((Literal.group clause.preconditions).toList ++ ("\n".toList ++
        ((Literal.group clause.deletes).toList ++ ("\n".toList ++
          ((Literal.group clause.adds).toList ++ ")".toList))))))) := by
  unfold OperatorClause.text
  simp only [String.toList_append, List.append_assoc]

/-- The clause of a method is told part by part. -/
theorem selfDelimiting_methodClause :
    SelfDelimiting (fun clause => (MethodClause.text clause).toList) symbols.AllowsMethodClause
      fun _ => True := by
  rintro ⟨head, preconditions, methods, operators⟩ ⟨head', preconditions', methods', operators'⟩
    x y hclause hclause' - - h
  simp only [MethodClause.toList_text, List.append_assoc, List.append_cancel_left_eq] at h
  have hcloses (rest : List Char) : Closes ("))".toList ++ rest) := ⟨')' :: rest, rfl⟩
  obtain ⟨rfl, hbody⟩ := selfDelimiting_call .method hclause.head hclause'.head trivial trivial h
  obtain ⟨rfl, hrest⟩ := selfDelimiting_group hclause.preconditions hclause'.preconditions trivial
    trivial (List.append_cancel_left hbody)
  have htasks := List.append_cancel_left hrest
  rw [← List.append_assoc, ← List.append_assoc (Call.textAll .method methods').toList] at htasks
  obtain ⟨htasks_eq, hclosed⟩ := @selfDelimiting_tasks (methods, operators) (methods', operators')
    _ _ ⟨hclause.methods, hclause.operators⟩ ⟨hclause'.methods, hclause'.operators⟩ (hcloses x)
    (hcloses y) htasks
  obtain ⟨rfl, rfl⟩ := Prod.mk.inj htasks_eq
  exact ⟨rfl, List.append_cancel_left hclosed⟩

/-- The clause of an operator is told part by part. -/
theorem selfDelimiting_operatorClause :
    SelfDelimiting (fun clause => (OperatorClause.text clause).toList) symbols.AllowsOperatorClause
      fun _ => True := by
  rintro ⟨head, preconditions, deletes, adds⟩ ⟨head', preconditions', deletes', adds'⟩
    x y hclause hclause' - - h
  simp only [OperatorClause.toList_text, List.append_assoc, List.append_cancel_left_eq] at h
  obtain ⟨rfl, hbody⟩ := selfDelimiting_call .operator hclause.head hclause'.head trivial trivial h
  obtain ⟨rfl, heffects⟩ := selfDelimiting_group hclause.preconditions hclause'.preconditions
    trivial trivial (List.append_cancel_left hbody)
  obtain ⟨rfl, hadds⟩ := selfDelimiting_group hclause.deletes hclause'.deletes trivial trivial
    (List.append_cancel_left heffects)
  obtain ⟨rfl, hclosed⟩ := selfDelimiting_group hclause.adds hclause'.adds trivial trivial
    (List.append_cancel_left hadds)
  exact ⟨rfl, List.append_cancel_left hclosed⟩

/-- The clause of a method is told from one of an operator by the word that it begins with. -/
theorem methodClause_ne_operatorClause (clause : MethodClause) (clause' : OperatorClause)
    (x y : List Char) : clause.text.toList ++ x ≠ clause'.text.toList ++ y := by
  intro h
  rw [MethodClause.toList_text, OperatorClause.toList_text] at h
  have hletter := congrArg (·[2]?) h
  simp at hletter

end TaskNet
