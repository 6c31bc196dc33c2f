import TaskNet.Text.Utf8

/-!
# Raw text

Markup is told apart before it is known whether all bytes of a document are text: where the bytes
do not matter, as in comments, they may be anything. So a document is cut up as raw text, and the
parts that matter are decoded. Main statement: the bytes can be had back (`bytes_ofBytes`).
-/

namespace TaskNet.Xml

/-- Bytes, each of them as the character with its number. -/
abbrev Raw := List Char

namespace Raw

/-- The raw text of some bytes. -/
def ofBytes (bytes : List UInt8) : Raw := bytes.map Char.ofUInt8

/-- The bytes of a raw text. -/
def bytes (raw : Raw) : List UInt8 := raw.map Char.toUInt8

/-- Raw text keeps all of the bytes. -/
theorem bytes_ofBytes (data : List UInt8) : (ofBytes data).bytes = data := by
  induction data with
  | nil => rfl
  | cons byte rest ih =>
    have hbyte : (Char.ofUInt8 byte).toUInt8 = byte := UInt8.toUInt8_toUInt32 byte
    simpa [ofBytes, bytes, hbyte] using ih

/-- The raw text that a text makes. -/
def ofText (text : List Char) : Raw := ofBytes (Text.encode (String.ofList text))

/-- The text that the bytes are, if they are text. -/
def decode? (raw : Raw) : Option (List Char) := Text.decodeAll? raw.bytes

end Raw

end TaskNet.Xml
