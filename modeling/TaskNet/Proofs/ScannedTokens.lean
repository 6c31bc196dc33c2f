import Mathlib.Data.List.Basic
import TaskNet.Json.Token
import TaskNet.Json.Writer

/-!
# Tokens that are scanned

What is written of a text or a number is scanned as this text or number, whatever follows it, as
long as that does not lengthen the number. Escapes give the characters that they were written for.
-/

namespace TaskNet.Json.Token

/-- A text does not lengthen a number in front of it. -/
def Ends (text : List Char) : Prop :=
  ∀ c ∈ text.head?, c.isDigit = false ∧ c ≠ '.' ∧ c ≠ 'e' ∧ c ≠ 'E'

theorem ends_nil : Ends [] := nofun

theorem ends_cons {c : Char} (h : c.isDigit = false ∧ c ≠ '.' ∧ c ≠ 'e' ∧ c ≠ 'E')
    (rest : List Char) : Ends (c :: rest) := by
  rintro _ ⟨⟩
  exact h

theorem ends_of_isBlank {c : Char} (h : isBlank c) :
    c.isDigit = false ∧ c ≠ '.' ∧ c ≠ 'e' ∧ c ≠ 'E' := by
  simp only [isBlank, Bool.or_eq_true, decide_eq_true_eq] at h
  obtain ((rfl | rfl) | rfl) | rfl := h
  all_goals decide

theorem Ends.append {text rest : List Char} (h : Ends text) (hrest : Ends rest) :
    Ends (text ++ rest) := by
  cases text with
  | nil => exact hrest
  | cons c text => exact h

/-! ### Texts with escapes -/

/-- A code unit that is no surrogate stands for its character. -/
theorem join_unit {number : Nat} (hnumber : number < 0xD800) (pieces : List Piece) :
    Piece.join (.unit number :: pieces) = (Piece.join pieces).map (Char.ofNat number :: ·) := by
  have hsurrogate : ¬ (0xD800 ≤ number ∧ number < 0xDC00) := by omega
  have hlow : ¬ (0xDC00 ≤ number ∧ number < 0xE000) := by omega
  have hany : ¬ (0xD800 ≤ number ∧ number < 0xE000) := by omega
  cases pieces with
  | nil => simp only [Piece.join, if_neg hany]
  | cons piece pieces =>
    cases piece with
    | char c => simp only [Piece.join, if_neg hany]
    | unit low => rw [Piece.join, if_neg hsurrogate, if_neg hlow]

theorem hexNumber?_control : ∀ number < 32,
    Text.hexNumber? ['0', '0', hexChar (number / 16), hexChar (number % 16)] = some number := by
  decide

/-- A letter behind a backslash is one piece. -/
theorem scanText_escaped {letter c : Char} (hletter : escaped? letter = some c)
    (rest : List Char) : scanText ('\\' :: letter :: rest) =
      (scanText rest).map fun (pieces, rest) => (.char c :: pieces, rest) := by
  have hunit : letter ≠ 'u' := by
    rintro rfl
    cases hletter
  rw [scanText, hletter]
  · cases scanText rest with
    | none => rfl
    | some read => rfl
  · exact fun _ _ _ _ _ hsame => absurd hsame hunit

/-- A character is read back from its escape. -/
theorem exists_piece (c : Char) : ∃ piece,
    (∀ pieces, Piece.join (piece :: pieces) = (Piece.join pieces).map (c :: ·)) ∧
      ∀ rest, scanText (escape c ++ rest) =
        (scanText rest).map fun (pieces, rest) => (piece :: pieces, rest) := by
  unfold escape
  split
  case h_1 => exact ⟨.char '"', fun _ => rfl, scanText_escaped rfl⟩
  case h_2 => exact ⟨.char '\\', fun _ => rfl, scanText_escaped rfl⟩
  case h_3 => exact ⟨.char '\n', fun _ => rfl, scanText_escaped rfl⟩
  case h_4 => exact ⟨.char '\r', fun _ => rfl, scanText_escaped rfl⟩
  case h_5 => exact ⟨.char '\t', fun _ => rfl, scanText_escaped rfl⟩
  case h_6 => exact ⟨.char '\x08', fun _ => rfl, scanText_escaped rfl⟩
  case h_7 => exact ⟨.char '\x0c', fun _ => rfl, scanText_escaped rfl⟩
  case h_8 hquote hbackslash _ _ _ _ _ =>
    split
    case isTrue hcontrol =>
      have hnumber : c.toNat < 32 := hcontrol
      refine ⟨.unit c.toNat, fun pieces => ?_, fun rest => ?_⟩
      · rw [join_unit (by omega), Char.ofNat_toNat]
      · simp only [List.cons_append, List.nil_append]
        rw [scanText, hexNumber?_control c.toNat hnumber]
        cases scanText rest with
        | none => rfl
        | some read => rfl
    case isFalse hplain =>
      have hother : c ≠ '\\' := hbackslash
      refine ⟨.char c, fun _ => rfl, fun rest => ?_⟩
      rw [List.singleton_append, scanText, if_neg (by simp [hplain, hother])]
      · cases scanText rest with
        | none => rfl
        | some read => rfl
      · exact hquote
      · exact fun _ _ _ _ _ hsame => absurd hsame hbackslash
      · exact fun _ _ hsame => absurd hsame hbackslash

/-- Characters are read back from their escapes up to the closing quote. -/
theorem exists_pieces (chars : List Char) : ∃ pieces, Piece.join pieces = some chars ∧
    ∀ rest, scanText (chars.flatMap escape ++ '"' :: rest) = some (pieces, rest) := by
  induction chars with
  | nil => exact ⟨[], rfl, fun rest => rfl⟩
  | cons c chars ih =>
    obtain ⟨piece, hpiece, hread⟩ := exists_piece c
    obtain ⟨pieces, hpieces, hrest⟩ := ih
    refine ⟨piece :: pieces, ?_, fun rest => ?_⟩
    · rw [hpiece, hpieces, Option.map_some]
    · rw [List.flatMap_cons, List.append_assoc, hread, hrest, Option.map_some]

/-- A text in quotes is scanned as it. -/
theorem scan_quote (text : String) (rest : List Char) :
    scan (quote text ++ rest) = some (.string (some text), rest) := by
  obtain ⟨pieces, hpieces, hread⟩ := exists_pieces text.toList
  have hquote : quote text ++ rest = '"' :: (text.toList.flatMap escape ++ '"' :: rest) := by
    simp [quote]
  rw [hquote, scan, hread, Option.map_some]
  simp only [hpieces, Option.map_some, String.ofList_toList]

/-! ### Numbers -/

/-- Only zero begins with a zero. -/
theorem head?_toDigits_ne {number : Nat} (h : 0 < number) :
    (Nat.toDigits 10 number).head? ≠ some '0' := by
  induction number using Nat.strongRecOn with
  | ind number ih =>
    by_cases hsmall : number < 10
    · have hdigit : ∀ digit < 10, 0 < digit → Nat.digitChar digit ≠ '0' := by decide
      rw [Nat.toDigits_of_lt_base hsmall]
      exact fun hzero => hdigit number hsmall h (Option.some.inj hzero)
    · rw [Nat.toDigits_of_base_le (by omega) (by omega),
        List.head?_append_of_ne_nil _ Nat.toDigits_ne_nil]
      exact ih (number / 10) (by omega) (by omega)

/-- Digits are read as far as they go. -/
theorem scanDigits_append {digits rest : List Char} (hdigits : ∀ c ∈ digits, c.isDigit = true)
    (hrest : Ends rest) : Text.scanDigits (digits ++ rest) = (digits, rest) := by
  rw [Text.scanDigits, List.takeWhile_append_of_pos hdigits, List.dropWhile_append_of_pos hdigits]
  cases rest with
  | nil => simp
  | cons c rest =>
    obtain ⟨hdigit, -⟩ := hrest c rfl
    rw [List.takeWhile_cons_of_neg (by simp [hdigit]),
      List.dropWhile_cons_of_neg (by simp [hdigit]), List.append_nil]

theorem isDigit_of_mem_toDigits {number : Nat} :
    ∀ c ∈ Nat.toDigits 10 number, c.isDigit = true :=
  fun _ hc => Nat.isDigit_of_mem_toDigits (by decide) (by decide) hc

theorem scanWhole_toDigits (number : Nat) {rest : List Char} (hrest : Ends rest) :
    scanWhole (Nat.toDigits 10 number ++ rest) = some (Nat.toDigits 10 number, rest) := by
  by_cases hzero : number = 0
  · subst hzero
    rfl
  · have hhead := head?_toDigits_ne (Nat.pos_of_ne_zero hzero)
    unfold scanWhole
    split
    case h_1 tail heq =>
      have hsame := congrArg List.head? heq
      rw [List.head?_append_of_ne_nil _ Nat.toDigits_ne_nil] at hsame
      exact absurd hsame hhead
    case h_2 =>
      rw [scanDigits_append isDigit_of_mem_toDigits hrest]
      exact if_neg Nat.toDigits_ne_nil

/-- What does not lengthen a number has neither a fraction nor an exponent for it. -/
theorem Ends.scanFraction_eq {rest : List Char} (h : Ends rest) :
    scanFraction rest = some ([], rest) := by
  unfold scanFraction
  split
  case h_1 tail =>
    obtain ⟨-, hpoint, -⟩ := h '.' rfl
    exact absurd rfl hpoint
  case h_2 => rfl

theorem Ends.scanExponent_eq {rest : List Char} (h : Ends rest) :
    scanExponent rest = some ([], rest) := by
  unfold scanExponent
  split
  case h_1 e tail =>
    obtain ⟨-, -, hlower, hupper⟩ := h e rfl
    rw [if_neg (by simp [hlower, hupper])]
  case h_2 => rfl

theorem scan_of_isDigit {c : Char} (h : c.isDigit = true) (rest : List Char) :
    scan (c :: rest) = scanNumber (c :: rest) := by
  rw [scan.eq_def]
  split
  case h_11 => rfl
  all_goals simp_all

theorem isBlank_of_isDigit {c : Char} (h : c.isDigit = true) : isBlank c = false := by
  rw [Bool.eq_false_iff]
  intro hblank
  obtain ⟨hdigit, -⟩ := ends_of_isBlank hblank
  exact Bool.false_ne_true (hdigit.symm.trans h)

theorem scanNumber_toDigits (number : Nat) {rest : List Char} (hrest : Ends rest) :
    scanNumber (Nat.toDigits 10 number ++ rest) = some (.natural number, rest) := by
  have hsigned (tail : List Char) : Nat.toDigits 10 number ++ rest ≠ '-' :: tail := by
    intro heq
    have hhead := congrArg List.head? heq
    rw [List.head?_append_of_ne_nil _ Nat.toDigits_ne_nil] at hhead
    have hminus := isDigit_of_mem_toDigits '-' (List.mem_of_mem_head? hhead)
    exact absurd hminus (by decide)
  have hvalue : Text.decimalNumber (Nat.toDigits 10 number) = number :=
    Nat.ofDigitChars_ten_toDigits
  unfold scanNumber
  split
  case h_1 minus unsigned hsign =>
    split at hsign
    case h_1 tail heq => exact absurd heq (hsigned tail)
    case h_2 =>
      obtain ⟨rfl, rfl⟩ := Prod.mk.inj hsign
      simp only [scanWhole_toDigits number hrest, hrest.scanFraction_eq, hrest.scanExponent_eq,
        Option.bind_eq_bind, Option.bind_some, List.append_nil, if_pos, hvalue]
      rfl

end TaskNet.Json.Token
