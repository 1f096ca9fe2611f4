import Scaffold.Text.Lines

/-!
Text as bytes. Every text has one encoding, and bytes that are no encoding are no text.
-/
namespace Scaffold.Text

abbrev Bytes := List UInt8

/-- The bytes of a text. -/
def encode (s : String) : Bytes :=
  s.toUTF8.data.toList

/-- The text that some bytes encode. -/
def decode? (bytes : Bytes) : Option String :=
  String.fromUTF8? (ByteArray.mk bytes.toArray)

/-- The text of a file, with every line end turned into a line feed. -/
def fileText? (bytes : Bytes) : Option String :=
  (decode? bytes).map fun s => String.ofList (unifyLineEnds s.toList)

/-- Decoding gives back what was encoded. -/
theorem decode?_encode (s : String) : decode? (encode s) = some s := by
  unfold decode? encode String.fromUTF8?
  simp only [Array.toArray_toList]
  exact dif_pos s.isValidUTF8

/-- The bytes of two texts in a row are the bytes of each in a row. -/
theorem encode_append (s t : String) : encode (s ++ t) = encode s ++ encode t := by
  simp [encode, String.toByteArray_append, ByteArray.data_append]

end Scaffold.Text
