import Brainfuck.Text.Utf8
/-!
# Texts of bytes

Shells and their programs know bytes rather than characters. Such a text is a `String` each of whose
characters stands for the byte with its number. A name of a file crosses over by its UTF-8 form.
-/

namespace Brainfuck.Text.Bytes

def ofArray (bytes : ByteArray) : String :=
  String.ofList (bytes.toList.map fun b => Char.ofNat b.toNat)

def toArray (text : String) : ByteArray :=
  (text.toList.map fun c => UInt8.ofNat c.toNat).toByteArray

/-- The bytes of a text of characters. -/
def ofUnicode (text : String) : String := ofArray text.toUTF8

/-- The characters that the bytes of a text encode. -/
def toUnicode (text : String) : String := String.ofList (Utf8.decode (toArray text).toList)

end Brainfuck.Text.Bytes
