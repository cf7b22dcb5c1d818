import CallWatch.Word

/-!
# UTF-8

The bytes of a text, and the text that a string of bytes spells, if it spells one.
-/

namespace CallWatch.Text

/-- The UTF-8 bytes of a text. -/
def utf8 (s : String) : Bytes :=
  s.toList.flatMap String.utf8EncodeChar

/-- The text with these UTF-8 bytes, if they are well formed. -/
def ofUtf8? (b : Bytes) : Option String :=
  String.fromUTF8? (ByteArray.mk b.toArray)

end CallWatch.Text
