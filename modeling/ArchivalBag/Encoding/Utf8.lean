/-!
# UTF-8

The standard library's texts are stored in UTF-8, so its encoder and its check of a byte string are
the two directions here. The check refuses truncated and overlong sequences, surrogates and code
points beyond the last plane.

* `encode`, `decode?`: the bytes of a text, and the text of well-formed bytes.
-/

namespace ArchivalBag.Encoding.Utf8

/-- The bytes of a text. -/
def encode (s : String) : List UInt8 :=
  s.toList.flatMap String.utf8EncodeChar

/-- The text of well-formed bytes. -/
def decode? (bytes : List UInt8) : Option String :=
  String.fromUTF8? bytes.toByteArray

end ArchivalBag.Encoding.Utf8
