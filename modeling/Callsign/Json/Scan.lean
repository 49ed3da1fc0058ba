import Callsign.Text.Utf8

/-!
# Reading JSON text

A reader takes bytes from the front of a text and says at which byte it stopped when it fails. All
faults carry the place, so that a message can name line and column.
-/

namespace Callsign.Json

/-- Why a text is not JSON. -/
inductive Reason
  | eofList
  | eofObject
  | eofString
  | eofValue
  | expectedColon
  | expectedListEnd
  | expectedObjectEnd
  | expectedIdent
  | expectedValue
  | invalidEscape
  | invalidNumber
  | numberOutOfRange
  | controlCharacter
  | keyMustBeString
  | loneSurrogate
  | unexpectedHexEnd
  | trailingComma
  | trailingCharacters
  | tooDeep
  | wrongType
  | repeatedField (name : String)
  deriving DecidableEq, Repr

def Reason.text : Reason → String
  | eofList => "EOF while parsing a list"
  | eofObject => "EOF while parsing an object"
  | eofString => "EOF while parsing a string"
  | eofValue => "EOF while parsing a value"
  | expectedColon => "expected \x60:\x60"
  | expectedListEnd => "expected \x60,\x60 or \x60]\x60"
  | expectedObjectEnd => "expected \x60,\x60 or \x60\x7d\x60"
  | expectedIdent => "expected ident"
  | expectedValue => "expected value"
  | invalidEscape => "invalid escape"
  | invalidNumber => "invalid number"
  | numberOutOfRange => "number out of range"
  | controlCharacter => "control character (\\u0000-\\u001F) found while parsing a string"
  | keyMustBeString => "key must be a string"
  | loneSurrogate => "lone leading surrogate in hex escape"
  | unexpectedHexEnd => "unexpected end of hex escape"
  | trailingComma => "trailing comma"
  | trailingCharacters => "trailing characters"
  | tooDeep => "recursion limit exceeded"
  | wrongType => "invalid type"
  | repeatedField name => "duplicate field " ++ name

/-- A reason and the number of bytes up to the place it holds for. -/
structure Fault where
  reason : Reason
  index : Nat
  deriving DecidableEq, Repr

/-- The reason with line and column: lines count from 1, columns are bytes since the line began. -/
def Fault.message (f : Fault) (bytes : List UInt8) : String :=
  let before := bytes.take f.index
  let line := 1 + before.count 10
  let column := (before.reverse.takeWhile (· ≠ 10)).length
  f.reason.text ++ " at line " ++ toString line ++ " column " ++ toString column

/-- The bytes still to be read, and the number of those read. -/
structure Cursor where
  rest : List UInt8
  index : Nat := 0

abbrev Reader (α : Type) := StateT Cursor (Except Fault) α

namespace Reader

/-- Fails behind the last byte read. -/
def fail {α : Type} (r : Reason) : Reader α := fun c => .error ⟨r, c.index⟩

/-- Fails behind the byte that comes next, if one does. -/
def failAhead {α : Type} (r : Reason) : Reader α := fun c =>
  .error ⟨r, if c.rest.isEmpty then c.index else c.index + 1⟩

/-- The next byte, left where it is. -/
def peek : Reader (Option UInt8) := fun c => .ok (c.rest.head?, c)

/-- Takes `n` bytes. -/
def drop (n : Nat) : Reader Unit := fun c => .ok ((), ⟨c.rest.drop n, c.index + n⟩)

/-- Takes the next byte. -/
def next : Reader (Option UInt8) := fun c =>
  match c.rest with
  | b :: r => .ok (some b, ⟨r, c.index + 1⟩)
  | [] => .ok (none, c)

/-- How many bytes are left. -/
def left : Reader Nat := fun c => .ok (c.rest.length, c)

/-- The longest run of bytes with a property. -/
def run (p : UInt8 → Bool) : Reader (List UInt8) := fun c =>
  let bs := c.rest.takeWhile p
  .ok (bs, ⟨c.rest.dropWhile p, c.index + bs.length⟩)

def isBlank (b : UInt8) : Bool := b = 32 || b = 10 || b = 9 || b = 13

/-- The next byte that is not white space, left where it is. -/
def peekToken : Reader (Option UInt8) := do
  let _ ← run isBlank
  peek

/-- The byte of an ASCII character. -/
def byte (c : Char) : UInt8 := c.toNat.toUInt8

def isDigit (b : UInt8) : Bool := byte '0' ≤ b && b ≤ byte '9'

/-- The rest of a word of which the first letter is read. -/
def word : List Char → Reader Unit
  | [] => return ()
  | c :: cs => do
    match ← next with
    | none => fail .eofValue
    | some b => if b = byte c then word cs else fail .expectedIdent

def hexDigit? (b : UInt8) : Option Nat :=
  if isDigit b then some (b - byte '0').toNat
  else if byte 'a' ≤ b && b ≤ byte 'f' then some ((b - byte 'a').toNat + 10)
  else if byte 'A' ≤ b && b ≤ byte 'F' then some ((b - byte 'A').toNat + 10)
  else none

/-- Four hexadecimal digits. -/
def hex4 : Reader Nat := do
  let n ← left
  if n < 4 then
    drop n
    fail .eofString
  else
    let c ← get
    drop 4
    match (c.rest.take 4).mapM hexDigit? with
    | some ds => return ds.foldl (fun n d => n * 16 + d) 0
    | none => fail .invalidEscape

/-- The next byte of a string, which must not end here. -/
def peekString : Reader UInt8 := do
  match ← peek with
  | some b => return b
  | none => fail .eofString

/-- The byte `c` of an escape that must go on. -/
def expectEscape (c : Char) : Reader Unit := do
  let b ← peekString
  drop 1
  if b = byte c then return () else fail .unexpectedHexEnd

/-- The character behind `\u`: one code, or two that are halves of one. -/
def unicodeEscape : Reader Char := do
  let n ← hex4
  if 0xDC00 ≤ n ∧ n ≤ 0xDFFF then fail .loneSurrogate
  else if n < 0xD800 ∨ 0xDBFF < n then return Char.ofNat n
  else
    expectEscape '\\'
    expectEscape 'u'
    let m ← hex4
    if m < 0xDC00 ∨ 0xDFFF < m then fail .loneSurrogate
    else return Char.ofNat ((n - 0xD800) * 0x400 + (m - 0xDC00) + 0x10000)

/-- The character behind a backslash. A loose reading takes the code behind `\u` for what it is not
asked to be: a character. -/
def escape (strict : Bool) : Reader Char := do
  let b ← peekString
  drop 1
  if b = byte 'u' then
    if strict then unicodeEscape else (fun _ => ' ') <$> hex4
  else match "\"\\/bfnrt".toList.zip "\"\\/\x08\x0c\n\r\t".toList |>.find? (b = byte ·.1) with
    | some (_, c) => return c
    | none => fail .invalidEscape

/-- The bytes up to the closing quote, behind those already read, the latest first. -/
def stringFrom (strict : Bool) : Nat → List UInt8 → Reader (List UInt8)
  | 0, _ => fail .eofString
  | fuel + 1, read => do
    let b ← peekString
    drop 1
    if b = byte '"' then return read.reverse
    else if b = byte '\\' then
      let c ← escape strict
      stringFrom strict fuel ((String.utf8EncodeChar c).reverse ++ read)
    else if b < 32 then fail .controlCharacter
    else stringFrom strict fuel (b :: read)

/-- The string behind its opening quote. -/
def string (strict : Bool) : Reader String := do
  let bs ← stringFrom strict ((← left) + 1) []
  return Text.Utf8.decodeLossy bs

end Reader

end Callsign.Json
