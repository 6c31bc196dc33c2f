import Mathlib.Data.List.Forall2
import TaskNet.Proofs.ScannedTokens

/-!
# Tokens that are spelled

A written value spells its tokens: read back, they come in front of whatever follows, as long as
that does not lengthen a number. Blanks between tokens make no difference, so both layouts of a
value spell the same tokens.
-/

namespace TaskNet.Json

/-! ### Values that are spelled -/

/-- The values that records are written as. -/
inductive Value.IsPlain : Value → Prop where
  | null : IsPlain .null
  | bool (value : Bool) : IsPlain (.bool value)
  | natural (number : Nat) : IsPlain (.natural number)
  | string (text : String) : IsPlain (.string text)
  | array (items : List Value) (hitems : ∀ item ∈ items, IsPlain item) : IsPlain (.array items)
  | object (members : List (String × Value)) (hmembers : ∀ member ∈ members, IsPlain member.2) :
    IsPlain (.object members)

/-- Lists of tokens in one, with commas between them. -/
def Token.separated : List (List Token) → List Token
  | [] => []
  | [tokens] => tokens
  | tokens :: rest => tokens ++ .comma :: separated rest

theorem Token.separated_cons_cons (tokens second : List Token) (rest : List (List Token)) :
    separated (tokens :: second :: rest) = tokens ++ .comma :: separated (second :: rest) := rfl

namespace Value

mutual

/-- The tokens of a value. -/
def tokens : Value → List Token
  | null => [.null]
  | bool value => [.bool value]
  | natural count => [.natural count]
  | number spelling => [.number spelling]
  | string text => [.string (some text)]
  | unreadable => [.string none]
  | array items => .openBracket :: Token.separated (itemTokens items) ++ [.closeBracket]
  | object members => .openBrace :: Token.separated (memberTokens members) ++ [.closeBrace]

/-- The tokens of each of the values. -/
def itemTokens : List Value → List (List Token)
  | [] => []
  | item :: rest => tokens item :: itemTokens rest

/-- The tokens of each of the members. -/
def memberTokens : List (String × Value) → List (List Token)
  | [] => []
  | (name, value) :: rest =>
    (.string (some name) :: .colon :: tokens value) :: memberTokens rest

end

end Value

/-! ### Spelling -/

/-- A text spells tokens: in front of another text they are read first. -/
def Token.Spells (text : List Char) (tokens : List Token) : Prop :=
  ∀ rest, Ends rest → lex (text ++ rest) = (lex rest).map (tokens ++ ·)

namespace Token

variable {text text' : List Char} {tokens tokens' : List Token}

theorem Spells.lex_eq (h : Spells text tokens) : lex text = some tokens := by
  have hlex := h [] ends_nil
  rw [List.append_nil, lex, Option.map_some, List.append_nil] at hlex
  exact hlex

theorem spells_nil : Spells [] [] := by
  intro rest hrest
  simp

/-- What is spelled first is not lengthened by what is spelled behind it. -/
theorem Spells.append (h : Spells text tokens) (h' : Spells text' tokens') (hends : Ends text') :
    Spells (text ++ text') (tokens ++ tokens') := by
  intro rest hrest
  rw [List.append_assoc, h _ (hends.append hrest), h' rest hrest, Option.map_map]
  congr 1
  funext read
  exact (List.append_assoc _ _ _).symm

theorem lex_blank {c : Char} (hblank : isBlank c) (rest : List Char) :
    lex (c :: rest) = lex rest := by
  rw [lex, if_pos hblank]

/-- Blanks in front of tokens make no difference. -/
theorem Spells.blanks {blanks : List Char} (hblanks : ∀ c ∈ blanks, isBlank c)
    (h : Spells text tokens) : Spells (blanks ++ text) tokens := by
  induction blanks with
  | nil => exact h
  | cons c blanks ih =>
    obtain ⟨hblank, hblanks⟩ := List.forall_mem_cons.1 hblanks
    intro rest hrest
    rw [List.cons_append, List.cons_append, lex_blank hblank]
    exact ih hblanks rest hrest

theorem lex_of_scan {token : Token} {rest : List Char} {c : Char}
    (hblank : isBlank c = false) (hscan : scan (c :: text) = some (token, rest)) :
    lex (c :: text) = (lex rest).map (token :: ·) := by
  rw [lex, if_neg (by simp [hblank])]
  split
  · simp_all
  · simp_all

/-- A word that is a token whatever follows spells it. -/
theorem spells_word {c : Char} {token : Token}
    (hscan : ∀ rest, scan (c :: (text ++ rest)) = some (token, rest))
    (hblank : isBlank c = false) : Spells (c :: text) [token] :=
  fun rest _ => lex_of_scan hblank (hscan rest)

/-- A character that is a token whatever follows comes in front of what is spelled behind it. -/
theorem Spells.cons {c : Char} {token : Token}
    (hscan : ∀ rest, scan (c :: rest) = some (token, rest)) (hblank : isBlank c = false)
    (h : Spells text tokens) : Spells (c :: text) (token :: tokens) := by
  intro rest hrest
  rw [List.cons_append, lex_of_scan hblank (hscan _), h rest hrest, Option.map_map]
  rfl

/-! ### Texts and numbers -/

/-- A text in quotes spells itself. -/
theorem spells_quote (text : String) : Spells (quote text) [.string (some text)] :=
  fun rest _ => lex_of_scan rfl (scan_quote text rest)

/-- Digits spell their number. -/
theorem spells_toDigits (number : Nat) :
    Spells (Nat.toDigits 10 number) [.natural number] := by
  intro rest hrest
  have hscan := scanNumber_toDigits number hrest
  have hdigits := @isDigit_of_mem_toDigits number
  cases hcons : Nat.toDigits 10 number with
  | nil => exact absurd hcons Nat.toDigits_ne_nil
  | cons c digits =>
    rw [hcons] at hscan hdigits
    have hdigit := hdigits c List.mem_cons_self
    rw [List.cons_append, ← scan_of_isDigit hdigit] at hscan
    exact lex_of_scan (isBlank_of_isDigit hdigit) hscan

/-! ### Lists of texts -/

/-- Two characters are tokens whatever follows, and the second does not lengthen a number. -/
structure AreBrackets (opening closing : Char) (openToken closeToken : Token) : Prop where
  scan_opening : ∀ rest, scan (opening :: rest) = some (openToken, rest)
  scan_closing : ∀ rest, scan (closing :: rest) = some (closeToken, rest)
  isBlank_opening : isBlank opening = false
  isBlank_closing : isBlank closing = false
  ends : closing.isDigit = false ∧ closing ≠ '.' ∧ closing ≠ 'e' ∧ closing ≠ 'E'

theorem areBrackets_array : AreBrackets '[' ']' .openBracket .closeBracket :=
  ⟨fun _ => rfl, fun _ => rfl, rfl, rfl, by decide⟩

theorem areBrackets_object : AreBrackets '{' '}' .openBrace .closeBrace :=
  ⟨fun _ => rfl, fun _ => rfl, rfl, rfl, by decide⟩

section

variable {opening closing : Char} {openToken closeToken : Token}

theorem Spells.opened (h : Spells text tokens)
    (hbrackets : AreBrackets opening closing openToken closeToken) :
    Spells (opening :: text) (openToken :: tokens) :=
  h.cons hbrackets.scan_opening hbrackets.isBlank_opening

theorem AreBrackets.spells_closing
    (hbrackets : AreBrackets opening closing openToken closeToken) :
    Spells [closing] [closeToken] :=
  spells_nil.cons hbrackets.scan_closing hbrackets.isBlank_closing

variable {texts : List (List Char)} {tokens : List (List Token)}

/-- With commas between them, texts spell their tokens with commas between them. -/
theorem spells_joinWith {blanks : List Char} (hblanks : ∀ c ∈ blanks, isBlank c)
    (h : List.Forall₂ Spells texts tokens) :
    Spells (joinWith (',' :: blanks) texts) (separated tokens) := by
  induction h with
  | nil => exact spells_nil
  | @cons text first texts tokens hfirst hrest ih =>
    cases hrest with
    | nil => exact hfirst
    | cons hsecond hrest =>
      have hbehind : Spells (',' :: (blanks ++ joinWith (',' :: blanks) _))
          (.comma :: separated _) := (ih.blanks hblanks).cons (fun _ => rfl) rfl
      rw [joinWith_cons_cons, separated_cons_cons, List.append_assoc, List.cons_append]
      exact hfirst.append hbehind (ends_cons (by decide) _)

/-- Texts between brackets on one line. -/
theorem spells_line (hbrackets : AreBrackets opening closing openToken closeToken)
    (h : List.Forall₂ Spells texts tokens) :
    Spells (opening :: joinWith [','] texts ++ [closing])
      (openToken :: separated tokens ++ [closeToken]) := by
  have hitems : Spells (joinWith [','] texts) (separated tokens) := spells_joinWith nofun h
  have hends : Ends [closing] := ends_cons hbrackets.ends []
  exact (hitems.append hbrackets.spells_closing hends).opened hbrackets

/-- Texts between brackets on lines of their own. -/
theorem spells_block (hbrackets : AreBrackets opening closing openToken closeToken)
    (depth : Nat) (h : List.Forall₂ Spells texts tokens) :
    Spells (block opening closing depth texts)
      (openToken :: separated tokens ++ [closeToken]) := by
  have hnewline (width : Nat) : ∀ c ∈ '\n' :: List.replicate width ' ', isBlank c := by
    intro c hc
    obtain rfl | hspace := List.mem_cons.1 hc
    · rfl
    · rw [List.eq_of_mem_replicate hspace]
      rfl
  unfold block
  split
  case isTrue hnone =>
    subst hnone
    cases h
    exact hbrackets.spells_closing.opened hbrackets
  case isFalse =>
    have hitems := spells_joinWith (hnewline (2 * (depth + 1))) h
    have hend := hbrackets.spells_closing.blanks (hnewline (2 * depth))
    have hinner := (hitems.append hend (ends_cons (by decide) _)).blanks
      (hnewline (2 * (depth + 1)))
    have hall := hinner.opened hbrackets
    simp only [List.append_assoc, List.cons_append, List.nil_append] at hall ⊢
    exact hall

end

end Token

/-! ### Values -/

namespace Value

open Token (Spells)

/-- A function that goes through a list entry by entry maps it. -/
theorem eq_map_of_cons {α β : Type} {all : List α → List β} {each : α → β} (hnil : all [] = [])
    (hcons : ∀ entry rest, all (entry :: rest) = each entry :: all rest) (entries : List α) :
    all entries = entries.map each := by
  induction entries with
  | nil => exact hnil
  | cons entry rest ih => rw [hcons, ih, List.map_cons]

theorem compactItems_eq (items : List Value) : compactItems items = items.map compact :=
  eq_map_of_cons rfl (fun _ _ => rfl) items

theorem compactMembers_eq (members : List (String × Value)) : compactMembers members =
    members.map fun member => quote member.1 ++ ':' :: compact member.2 :=
  eq_map_of_cons rfl (fun _ _ => rfl) members

theorem prettyItems_eq (depth : Nat) (items : List Value) :
    prettyItems depth items = items.map (pretty depth) :=
  eq_map_of_cons rfl (fun _ _ => rfl) items

theorem prettyMembers_eq (depth : Nat) (members : List (String × Value)) :
    prettyMembers depth members =
      members.map fun member => quote member.1 ++ ':' :: ' ' :: pretty depth member.2 :=
  eq_map_of_cons rfl (fun _ _ => rfl) members

theorem itemTokens_eq (items : List Value) : itemTokens items = items.map tokens :=
  eq_map_of_cons rfl (fun _ _ => rfl) items

theorem memberTokens_eq (members : List (String × Value)) : memberTokens members =
    members.map fun member => .string (some member.1) :: .colon :: tokens member.2 :=
  eq_map_of_cons rfl (fun _ _ => rfl) members

theorem forall₂_spells {α : Type} {entries : List α} {text : α → List Char}
    {tokens : α → List Token} (h : ∀ entry ∈ entries, Spells (text entry) (tokens entry)) :
    List.Forall₂ Spells (entries.map text) (entries.map tokens) := by
  rw [List.forall₂_map_left_iff, List.forall₂_map_right_iff, List.forall₂_same]
  exact h

/-- A name with a value behind a colon, and possibly a blank. -/
theorem spells_member (name : String) {blanks text : List Char} {tokens : List Token}
    (hblanks : ∀ c ∈ blanks, Token.isBlank c) (h : Spells text tokens) :
    Spells (quote name ++ ':' :: (blanks ++ text))
      (.string (some name) :: .colon :: tokens) := by
  have hvalue : Spells (':' :: (blanks ++ text)) (.colon :: tokens) :=
    (h.blanks hblanks).cons (fun _ => rfl) rfl
  exact (Token.spells_quote name).append hvalue (Token.ends_cons (by decide) _)

/-- A value on one line spells its tokens. -/
theorem IsPlain.spells_compact {value : Value} (h : value.IsPlain) :
    Spells value.compact value.tokens := by
  induction h with
  | null => exact Token.spells_word (fun _ => rfl) rfl
  | bool value =>
    cases value with
    | true => exact Token.spells_word (fun _ => rfl) rfl
    | false => exact Token.spells_word (fun _ => rfl) rfl
  | natural count => exact Token.spells_toDigits count
  | string text => exact Token.spells_quote text
  | array items hitems ih =>
    rw [compact, tokens, compactItems_eq, itemTokens_eq]
    exact Token.spells_line Token.areBrackets_array (forall₂_spells ih)
  | object members hmembers ih =>
    rw [compact, tokens, compactMembers_eq, memberTokens_eq]
    refine Token.spells_line Token.areBrackets_object (forall₂_spells fun member hmember => ?_)
    exact @spells_member member.1 [] _ _ nofun (ih member hmember)

/-- A value on several lines spells its tokens. -/
theorem IsPlain.spells_pretty {value : Value} (h : value.IsPlain) (depth : Nat) :
    Spells (value.pretty depth) value.tokens := by
  induction h generalizing depth with
  | null => exact IsPlain.null.spells_compact
  | bool value => exact (IsPlain.bool value).spells_compact
  | natural count => exact (IsPlain.natural count).spells_compact
  | string text => exact (IsPlain.string text).spells_compact
  | array items hitems ih =>
    rw [pretty, tokens, prettyItems_eq, itemTokens_eq]
    exact Token.spells_block Token.areBrackets_array depth
      (forall₂_spells fun item hitem => ih item hitem (depth + 1))
  | object members hmembers ih =>
    rw [pretty, tokens, prettyMembers_eq, memberTokens_eq]
    refine Token.spells_block Token.areBrackets_object depth
      (forall₂_spells fun member hmember => ?_)
    have hblanks : ∀ c ∈ [' '], Token.isBlank c := by simp [Token.isBlank]
    exact spells_member member.1 hblanks (ih member hmember (depth + 1))

end Value

end TaskNet.Json
