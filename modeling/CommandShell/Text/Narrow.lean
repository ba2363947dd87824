import CommandShell.Text.Utf8

/-!
# Narrow texts

Programs of the machine work on bytes.  A narrow text has one character for each byte, with the
byte as its code, so that programs can be written over texts without losing a byte.

* `Narrow.ofBytes`, `Narrow.toBytes` : between narrow texts and bytes;
* `Narrow.ofText`, `Narrow.toText`   : between narrow texts and texts.

A text of ASCII characters is its own narrow text.
-/

namespace CommandShell.Narrow

/-- The narrow text of bytes. -/
def ofBytes (bs : Bytes) : String :=
  String.ofList (bs.map fun b => Char.ofNat b.toNat)

/-- The bytes of a narrow text. -/
def toBytes (s : String) : Bytes :=
  s.toList.map fun c => UInt8.ofNat c.toNat

/-- The narrow text of a text. -/
def ofText (s : String) : String :=
  ofBytes (Utf8.encode s)

/-- The text of a narrow text. -/
def toText (s : String) : String :=
  Utf8.decodeLossy (toBytes s)

end CommandShell.Narrow
