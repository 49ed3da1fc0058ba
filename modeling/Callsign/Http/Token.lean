import Callsign.Error

/-!
# Names, methods and field values

Header names and methods are tokens; field values are bytes without controls other than the tab.
A name is kept in lowercase, so that names which differ only in case are one name.
-/

namespace Callsign.Http

/-- What may be wrong with a part of a message. -/
inductive Fault
  | headerName
  | fieldValue
  | fieldText
  | method
  | status
  deriving DecidableEq, Repr

namespace Fault

def message : Fault → String
  | headerName => "invalid HTTP header name"
  | fieldValue => "failed to parse header value"
  | fieldText => "failed to convert header to a str"
  | method => "invalid HTTP method"
  | status => "invalid status code"

def error (f : Fault) : Error := .ofFault .requestInvalid f.message

end Fault

/-- The bytes a token is made of. -/
def isTokenByte (b : UInt8) : Bool :=
  let c := Char.ofNat b.toNat
  c.isAlphanum || "!#$%&'*+-.^_|~".toList.contains c || b = 0x60

/-- The bytes of a field value: all but the controls, the tab apart. -/
def isFieldByte (b : UInt8) : Bool := (32 ≤ b && b ≠ 127) || b = 9

/-- The bytes of a field value that reads as text: visible ASCII, the space and the tab. -/
def isTextByte (b : UInt8) : Bool := (32 ≤ b && b < 127) || b = 9

/-- The text of bytes that are all ASCII. -/
def asciiText (bs : List UInt8) : String := String.ofList (bs.map fun b => Char.ofNat b.toNat)

/-- A header name in lowercase, from at most 65535 token bytes. -/
def headerName (bs : List UInt8) : Except Error String :=
  if !bs.isEmpty && bs.length < 65536 && bs.all isTokenByte then
    .ok (asciiText (bs.map fun b => if 65 ≤ b && b ≤ 90 then b + 32 else b))
  else .error Fault.headerName.error

/-- A method, its case kept. -/
def method (bs : List UInt8) : Except Error String :=
  if !bs.isEmpty && bs.all isTokenByte then .ok (asciiText bs) else .error Fault.method.error

/-- A response status of three digits. -/
def status (n : Nat) : Except Error Nat :=
  if 100 ≤ n ∧ n ≤ 999 then .ok n else .error Fault.status.error

/-- The value of a header field. A sensitive one is not to be shown. -/
structure FieldValue where
  bytes : List UInt8
  sensitive : Bool
  deriving DecidableEq, Repr

namespace FieldValue

def ofBytes (bs : List UInt8) : Except Error FieldValue :=
  if bs.all isFieldByte then .ok ⟨bs, false⟩ else .error Fault.fieldValue.error

def ofText (s : String) : Except Error FieldValue := ofBytes (Text.utf8 s)

def hide (v : FieldValue) : FieldValue := { v with sensitive := true }

/-- The value as text, which it is only if every byte reads as text. -/
def text (v : FieldValue) : Except Error String :=
  if v.bytes.all isTextByte then .ok (asciiText v.bytes) else .error Fault.fieldText.error

end FieldValue

end Callsign.Http
