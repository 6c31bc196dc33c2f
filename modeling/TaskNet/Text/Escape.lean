import TaskNet.Text.Digits

/-!
# Escapes

Behind a backslash a character is given by a letter, or by its number in four or eight hexadecimal
digits. Which letters there are depends on the syntax; numbers that belong to no character are
refused.
-/

namespace TaskNet.Text

/-- The character given by the first `count` hexadecimal digits, and the text behind them. -/
def numbered? (count : Nat) (text : List Char) : Option (Char × List Char) :=
  (takeHex? count text).bind fun (number, rest) => (char? number).map fun c => (c, rest)

/-- The character that is given behind a backslash, and the text behind it. -/
def unescape? (letters : Char → Option Char) : List Char → Option (Char × List Char)
  | [] => none
  | c :: rest =>
    if c = 'u' then numbered? 4 rest
    else if c = 'U' then numbered? 8 rest
    else (letters c).map fun c => (c, rest)

/-- What follows the number of a character is a part of the text. -/
theorem numbered?_length {count : Nat} {text rest : List Char} {c : Char}
    (h : numbered? count text = some (c, rest)) : rest.length ≤ text.length := by
  obtain ⟨⟨number, tail⟩, htake, hchar⟩ := Option.bind_eq_some_iff.1 h
  obtain ⟨_, _, hpair⟩ := Option.map_eq_some_iff.1 hchar
  obtain ⟨-, rfl⟩ := Prod.mk.inj hpair
  exact takeHex?_length htake

/-- An escape takes at least one character. -/
theorem unescape?_length {letters : Char → Option Char} {text rest : List Char} {c : Char}
    (h : unescape? letters text = some (c, rest)) : rest.length < text.length := by
  cases text with
  | nil => simp [unescape?] at h
  | cons first tail =>
    simp only [unescape?] at h
    split at h
    · exact Nat.lt_succ_of_le (numbered?_length h)
    · split at h
      · exact Nat.lt_succ_of_le (numbered?_length h)
      · obtain ⟨_, _, hpair⟩ := Option.map_eq_some_iff.1 h
        obtain ⟨-, rfl⟩ := Prod.mk.inj hpair
        exact Nat.lt_succ_self _

end TaskNet.Text
