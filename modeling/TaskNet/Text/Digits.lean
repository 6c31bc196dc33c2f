/-!
# Numbers in text

Signs, decimal and hexadecimal digits, the numbers that they spell, and the characters that have
these numbers.
-/

namespace TaskNet.Text

/-- The value of a hexadecimal digit, in upper or lower case. -/
def hexDigit? (c : Char) : Option Nat :=
  if c.isDigit then some (c.toNat - '0'.toNat)
  else if 'a' ≤ c ∧ c ≤ 'f' then some (c.toNat - 'a'.toNat + 10)
  else if 'A' ≤ c ∧ c ≤ 'F' then some (c.toNat - 'A'.toNat + 10)
  else none

/-- Whether a character is a hexadecimal digit. -/
def isHexDigit (c : Char) : Bool := (hexDigit? c).isSome

/-- The number that hexadecimal digits spell. -/
def hexNumber? (digits : List Char) : Option Nat :=
  (digits.mapM hexDigit?).map (List.foldl (fun number digit => 16 * number + digit) 0)

/-- The number that decimal digits spell. -/
def decimalNumber (digits : List Char) : Nat :=
  digits.foldl (fun number c => 10 * number + (c.toNat - '0'.toNat)) 0

/-- The decimal digits that a text begins with, and what follows them. -/
def scanDigits (text : List Char) : List Char × List Char :=
  (text.takeWhile Char.isDigit, text.dropWhile Char.isDigit)

/-- Digits and what follows them are the whole text. -/
theorem scanDigits_length (text : List Char) :
    (scanDigits text).1.length + (scanDigits text).2.length = text.length := by
  rw [scanDigits, ← List.length_append, List.takeWhile_append_dropWhile]

/-- The sign that a text begins with, if any, and what follows it. -/
def scanSign (text : List Char) : List Char × List Char :=
  match text with
  | '+' :: rest => (['+'], rest)
  | '-' :: rest => (['-'], rest)
  | _ => ([], text)

/-- What follows a sign is a part of the text. -/
theorem scanSign_length (text : List Char) : (scanSign text).2.length ≤ text.length := by
  unfold scanSign
  split <;> simp

/-- The number spelled by the first `count` characters, and the text behind them. -/
def takeHex? (count : Nat) (text : List Char) : Option (Nat × List Char) :=
  if count ≤ text.length then
    (hexNumber? (text.take count)).map fun number => (number, text.drop count)
  else none

/-- Taking digits leaves a part of the text. -/
theorem takeHex?_length {count : Nat} {text rest : List Char} {number : Nat}
    (h : takeHex? count text = some (number, rest)) : rest.length ≤ text.length := by
  unfold takeHex? at h
  split at h
  · obtain ⟨_, _, hpair⟩ := Option.map_eq_some_iff.1 h
    obtain ⟨-, rfl⟩ := Prod.mk.inj hpair
    simp
  · simp at h

/-- The character with this number, if there is one. -/
def char? (number : Nat) : Option Char :=
  if h : number.isValidChar then some (Char.ofNatAux number h) else none

end TaskNet.Text
