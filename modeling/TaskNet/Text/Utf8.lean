import TaskNet.Text.Digits

/-!
# Bytes as text

Text is kept in files as UTF-8. Decoding stops at the first byte that does not go on with a
character; the shortest form is the only one accepted, and surrogates are no characters.
-/

namespace TaskNet.Text

/-- The lowest number that takes so many following bytes. -/
def leastOfLength : Nat → Nat
  | 0 => 0
  | 1 => 0x80
  | 2 => 0x800
  | _ => 0x10000

/-- How many bytes follow a first byte, and what it adds to the number of its character. -/
def leadByte? (byte : UInt8) : Option (Nat × Nat) :=
  let value := byte.toNat
  if value < 0x80 then some (0, value)
  else if 0xC0 ≤ value ∧ value < 0xE0 then some (1, value - 0xC0)
  else if 0xE0 ≤ value ∧ value < 0xF0 then some (2, value - 0xE0)
  else if 0xF0 ≤ value ∧ value < 0xF8 then some (3, value - 0xF0)
  else none

/-- The number that following bytes make of the number begun before them. -/
def followBytes? (start : Nat) (bytes : List UInt8) : Option Nat :=
  bytes.foldlM (fun number byte =>
    if 0x80 ≤ byte.toNat ∧ byte.toNat < 0xC0 then some (64 * number + (byte.toNat - 0x80))
    else none) start

/-- The character that a list of bytes begins with, and the bytes behind it. -/
def decodeChar? : List UInt8 → Option (Char × List UInt8)
  | [] => none
  | byte :: rest =>
    match leadByte? byte with
    | none => none
    | some (count, start) =>
      if (rest.take count).length < count then none
      else match followBytes? start (rest.take count) with
        | none => none
        | some number =>
          if leastOfLength count ≤ number then
            (char? number).map fun c => (c, rest.drop count)
          else none

/-- A character takes at least one byte. -/
theorem decodeChar?_length {bytes rest : List UInt8} {c : Char}
    (h : decodeChar? bytes = some (c, rest)) : rest.length < bytes.length := by
  unfold decodeChar? at h
  split at h
  · simp at h
  · split at h
    · simp at h
    · split at h
      · simp at h
      · split at h
        · simp at h
        · split at h
          · obtain ⟨_, _, hpair⟩ := Option.map_eq_some_iff.1 h
            obtain ⟨-, rfl⟩ := Prod.mk.inj hpair
            simp only [List.length_drop, List.length_cons]
            omega
          · simp at h

/-- The longest text that bytes begin with, and the bytes behind it. -/
def decodeText (bytes : List UInt8) : List Char × List UInt8 :=
  match _h : decodeChar? bytes with
  | none => ([], bytes)
  | some (c, rest) =>
    let (text, rest) := decodeText rest
    (c :: text, rest)
termination_by bytes.length
decreasing_by exact decodeChar?_length _h

/-- The text of bytes, if all of them are text. -/
def decodeAll? (bytes : List UInt8) : Option (List Char) :=
  match decodeText bytes with
  | (text, []) => some text
  | _ => none

/-- The text of bytes, where bytes that are no text are dropped if the text in front of them allows
it. At most `limit` bytes are dropped. -/
def decodeDropping? (mayDrop : List Char → Bool) (front : List Char) :
    Nat → List UInt8 → Option (List Char)
  | limit, bytes =>
    match decodeText bytes with
    | (text, []) => some (front ++ text)
    | (text, _ :: rest) =>
      match limit with
      | 0 => none
      | limit + 1 =>
        if mayDrop (front ++ text) then decodeDropping? mayDrop (front ++ text) limit rest else none

/-- The characters that a text begins with and that take so many bytes together. -/
def takeSize? : Nat → List Char → Option (List Char)
  | 0, _ => some []
  | _ + 1, [] => none
  | size + 1, c :: rest =>
    if c.utf8Size ≤ size + 1 then (takeSize? (size + 1 - c.utf8Size) rest).map (c :: ·) else none

/-- Characters that are taken are a part of the text. -/
theorem takeSize?_length {size : Nat} {text front : List Char}
    (h : takeSize? size text = some front) : front.length ≤ text.length := by
  induction text generalizing size front with
  | nil => cases size <;> simp_all [takeSize?]
  | cons c rest ih =>
    cases size with
    | zero => simp_all [takeSize?]
    | succ size =>
      simp only [takeSize?] at h
      split at h
      · obtain ⟨_, hrest, rfl⟩ := Option.map_eq_some_iff.1 h
        exact Nat.succ_le_succ (ih hrest)
      · simp at h

/-- The bytes of a text. -/
def encode (text : String) : List UInt8 := text.toUTF8.data.toList

theorem encode_append (text other : String) :
    encode (text ++ other) = encode text ++ encode other := by
  simp [encode]

end TaskNet.Text
