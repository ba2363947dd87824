/-!
# UTF-8

Files and program streams hold bytes.

* `Utf8.encode`      : the bytes of a text;
* `Utf8.decode?`     : the text of well-formed bytes;
* `Utf8.decodeLossy` : the text of any bytes, where every longest ill-formed piece that could have
  begun a character reads as U+FFFD.

Both readers take the characters off one at a time with `Utf8.next`.
-/

namespace CommandShell

/-- A sequence of bytes. -/
abbrev Bytes := List UInt8

namespace Utf8

/-- The bytes of one character. -/
def encodeChar (c : Char) : Bytes :=
  let n := c.toNat
  if n < 0x80 then [UInt8.ofNat n]
  else if n < 0x800 then [UInt8.ofNat (0xC0 + n / 64), UInt8.ofNat (0x80 + n % 64)]
  else if n < 0x10000 then
    [UInt8.ofNat (0xE0 + n / 4096), UInt8.ofNat (0x80 + n / 64 % 64), UInt8.ofNat (0x80 + n % 64)]
  else
    [UInt8.ofNat (0xF0 + n / 262144), UInt8.ofNat (0x80 + n / 4096 % 64),
      UInt8.ofNat (0x80 + n / 64 % 64), UInt8.ofNat (0x80 + n % 64)]

/-- The bytes of a text. -/
def encode (s : String) : Bytes :=
  s.toList.flatMap encodeChar

/-- A text may stand where bytes are asked for. -/
instance : Coe String Bytes := ⟨encode⟩

/-- What a list of bytes begins with. -/
inductive Lead where
  /-- A well-formed character that takes `width` bytes. -/
  | char (c : Char) (width : Nat)
  /-- An ill-formed piece of `width` bytes. -/
  | broken (width : Nat)
  deriving DecidableEq, Repr

/-- Continuation bytes are 80 to BF. -/
def isTail (b : UInt8) : Bool :=
  0x80 ≤ b.toNat && b.toNat ≤ 0xBF

/-- The bytes that may follow the first byte of a character of three bytes. -/
def secondOfThree (a b : UInt8) : Bool :=
  if a.toNat = 0xE0 then 0xA0 ≤ b.toNat && b.toNat ≤ 0xBF
  else if a.toNat = 0xED then 0x80 ≤ b.toNat && b.toNat ≤ 0x9F
  else isTail b

/-- The bytes that may follow the first byte of a character of four bytes. -/
def secondOfFour (a b : UInt8) : Bool :=
  if a.toNat = 0xF0 then 0x90 ≤ b.toNat && b.toNat ≤ 0xBF
  else if a.toNat = 0xF4 then 0x80 ≤ b.toNat && b.toNat ≤ 0x8F
  else isTail b

/-- The character of two bytes. -/
def char2 (a b : UInt8) : Char :=
  Char.ofNat ((a.toNat - 0xC0) * 64 + (b.toNat - 0x80))

/-- The character of three bytes. -/
def char3 (a b c : UInt8) : Char :=
  Char.ofNat ((a.toNat - 0xE0) * 4096 + (b.toNat - 0x80) * 64 + (c.toNat - 0x80))

/-- The character of four bytes. -/
def char4 (a b c d : UInt8) : Char :=
  Char.ofNat ((a.toNat - 0xF0) * 262144 + (b.toNat - 0x80) * 4096 + (c.toNat - 0x80) * 64 +
    (d.toNat - 0x80))

/-- What the bytes `a :: rest` begin with. -/
def lead (a : UInt8) (rest : Bytes) : Lead :=
  let n := a.toNat
  if n < 0x80 then .char (Char.ofNat n) 1
  else if 0xC2 ≤ n && n ≤ 0xDF then
    match rest with
    | b :: _ => if isTail b then .char (char2 a b) 2 else .broken 1
    | [] => .broken 1
  else if 0xE0 ≤ n && n ≤ 0xEF then
    match rest with
    | b :: c :: _ =>
      if secondOfThree a b then
        if isTail c then .char (char3 a b c) 3 else .broken 2
      else .broken 1
    | [b] => if secondOfThree a b then .broken 2 else .broken 1
    | [] => .broken 1
  else if 0xF0 ≤ n && n ≤ 0xF4 then
    match rest with
    | b :: c :: d :: _ =>
      if secondOfFour a b then
        if isTail c then
          if isTail d then .char (char4 a b c d) 4 else .broken 3
        else .broken 2
      else .broken 1
    | [b, c] =>
      if secondOfFour a b then
        if isTail c then .broken 3 else .broken 2
      else .broken 1
    | [b] => if secondOfFour a b then .broken 2 else .broken 1
    | [] => .broken 1
  else .broken 1

/-- The text of any bytes, with U+FFFD for each ill-formed piece; `skip` counts the bytes at the
front that belong to a piece that was read already. -/
def decodeLossyFrom : Nat → Bytes → List Char
  | _, [] => []
  | skip + 1, _ :: rest => decodeLossyFrom skip rest
  | 0, a :: rest =>
    match lead a rest with
    | .char c width => c :: decodeLossyFrom (width - 1) rest
    | .broken width => Char.ofNat 0xFFFD :: decodeLossyFrom (width - 1) rest

/-- The text of any bytes, with U+FFFD for each ill-formed piece. -/
def decodeLossy (bs : Bytes) : String :=
  String.ofList (decodeLossyFrom 0 bs)

/-- The characters of well-formed bytes; `skip` as in `decodeLossyFrom`. -/
def decodeFrom? : Nat → Bytes → Option (List Char)
  | _, [] => some []
  | skip + 1, _ :: rest => decodeFrom? skip rest
  | 0, a :: rest =>
    match lead a rest with
    | .char c width => (decodeFrom? (width - 1) rest).map (c :: ·)
    | .broken _ => none

/-- The text of well-formed bytes. -/
def decode? (bs : Bytes) : Option String :=
  (decodeFrom? 0 bs).map String.ofList

end Utf8

end CommandShell
