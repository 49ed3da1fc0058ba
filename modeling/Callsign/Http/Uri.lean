import Callsign.Error

/-!
# Request targets

A URI is read into a scheme, an authority, a path and a query; a fragment is dropped unread. The
authority ends at the first of `/`, `?` and `#`, and that is the only thing that ends it.
-/

namespace Callsign.Http

/-- Why a text is no URI. -/
inductive UriFault
  | tooLong
  | empty
  | schemeTooLong
  | invalidChar
  | invalidAuthority
  | invalidFormat
  deriving DecidableEq, Repr

def UriFault.message : UriFault → String
  | tooLong => "uri too long"
  | empty => "empty string"
  | schemeTooLong => "scheme too long"
  | invalidChar => "invalid uri character"
  | invalidAuthority => "invalid authority"
  | invalidFormat => "invalid format"

/-- A URI. The authority is empty where there is none. -/
structure Uri where
  scheme : Option String
  authority : String
  path : String
  query : Option String
  deriving DecidableEq, Repr

namespace Uri

def isSchemeChar (c : Char) : Bool := c.isAlphanum || "+-.~".toList.contains c

def isAuthorityChar (c : Char) : Bool :=
  c.isAlphanum || "!$%&'()*+,-.:;=@[]_~".toList.contains c

/-- What ends an authority. -/
def isDelimiter (c : Char) : Bool := c = '/' || c = '?' || c = '#'

def inRange (c : Char) (first last : Nat) : Bool := first ≤ c.toNat && c.toNat ≤ last

/-- What a path holds: most of visible ASCII, and all that is not ASCII. -/
def isPathChar (c : Char) : Bool :=
  inRange c 0x21 0x22 || inRange c 0x24 0x3B || c = '=' || inRange c 0x40 0x5F ||
    inRange c 0x61 0x7E || 0x80 ≤ c.toNat

def isQueryChar (c : Char) : Bool :=
  c = '!' || inRange c 0x24 0x3B || c = '=' || inRange c 0x3F 0x7E || 0x80 ≤ c.toNat

/-- What has been seen of an authority so far: colons and a percent sign since the last `@` or `]`,
the brackets, and whether the last character was an `@`. -/
structure AuthorityScan where
  colons : Nat := 0
  percent : Bool := false
  opened : Bool := false
  closed : Bool := false
  atLast : Bool := false

def AuthorityScan.step (s : AuthorityScan) (c : Char) : Except UriFault AuthorityScan :=
  let t := { s with atLast := c = '@' }
  match c with
  | ':' => if s.colons = 8 then .error .invalidAuthority else .ok { t with colons := s.colons + 1 }
  | '[' => if s.percent || s.opened then .error .invalidAuthority else .ok { t with opened := true }
  | ']' =>
    if !s.opened || s.closed then .error .invalidAuthority
    else .ok { t with closed := true, colons := 0, percent := false }
  | '@' => .ok { t with colons := 0, percent := false }
  | '%' => .ok { t with percent := true }
  | _ => if isAuthorityChar c then .ok t else .error .invalidChar

/-- Nothing is left open at the end, one colon at most announces a port, and a host follows the
user information. -/
def AuthorityScan.accepts (s : AuthorityScan) : Bool :=
  s.opened == s.closed && s.colons ≤ 1 && !s.atLast && !s.percent

/-- Whether the characters are a well-formed authority. -/
def checkAuthority (cs : List Char) : Except UriFault Unit := do
  let s ← cs.foldlM AuthorityScan.step {}
  if s.accepts then .ok () else .error .invalidAuthority

/-- The text behind `lead`, whose letters may be of either case. -/
def stripLead? (lead cs : List Char) : Option (List Char) :=
  if (cs.take lead.length).map Char.toLower = lead then some (cs.drop lead.length) else none

/-- The scheme before `://`, and the text behind it. -/
def splitScheme (cs : List Char) : Except UriFault (Option (List Char) × List Char) :=
  match stripLead? "http://".toList cs, stripLead? "https://".toList cs with
  | some r, _ => .ok (some "http".toList, r)
  | none, some r => .ok (some "https".toList, r)
  | none, none =>
    let scheme := cs.takeWhile isSchemeChar
    match cs.dropWhile isSchemeChar with
    | ':' :: '/' :: '/' :: r =>
      if cs.length ≤ 3 then .ok (none, cs)
      else if scheme.length ≤ 64 then .ok (some scheme, r)
      else .error .schemeTooLong
    | _ => .ok (none, cs)

/-- The path and the query that the text begins with. -/
def splitTarget (cs : List Char) : Except UriFault (List Char × Option (List Char)) :=
  let path := cs.takeWhile fun c => c ≠ '?' && c ≠ '#'
  if path.all isPathChar then
    match cs.dropWhile fun c => c ≠ '?' && c ≠ '#' with
    | '?' :: r =>
      let query := r.takeWhile (· ≠ '#')
      if query.all isQueryChar then .ok (path, some query) else .error .invalidChar
    | _ => .ok (path, none)
  else .error .invalidChar

/-- A URI with a scheme, or an authority alone. -/
def parseFull (cs : List Char) : Except UriFault Uri := do
  let (scheme, rest) ← splitScheme cs
  if rest.isEmpty then .error .empty
  let authority := rest.takeWhile fun c => !isDelimiter c
  let target := rest.dropWhile fun c => !isDelimiter c
  checkAuthority authority
  match scheme with
  | none =>
    if target.isEmpty then .ok ⟨none, String.ofList authority, "", none⟩ else .error .invalidFormat
  | some scheme =>
    if authority.isEmpty then .error .invalidFormat
    let (path, query) ← splitTarget target
    .ok ⟨some (String.ofList scheme), String.ofList authority,
      if path.isEmpty then "/" else String.ofList path, query.map String.ofList⟩

/-- Reads a URI: `*`, a path with its query, an authority, or all parts. -/
def parse (s : String) : Except UriFault Uri :=
  if 65534 < s.utf8ByteSize then .error .tooLong
  else match s.toList with
  | [] => .error .empty
  | ['*'] => .ok ⟨none, "", "*", none⟩
  | ['?'] | ['#'] => .error .invalidChar
  | '/' :: r => do
    let (path, query) ← splitTarget ('/' :: r)
    .ok ⟨none, "", String.ofList path, query.map String.ofList⟩
  | cs => parseFull cs

/-- The URI as one text. -/
def text (u : Uri) : String :=
  (match u.scheme with | some s => s ++ "://" | none => "") ++ u.authority ++ u.path ++
    (match u.query with | some q => "?" ++ q | none => "")

/-- What follows the last `c`, all if there is none. -/
def afterLast (c : Char) (cs : List Char) : List Char := (cs.reverse.takeWhile (· ≠ c)).reverse

/-- The host of the authority: behind the user information, before the port. -/
def host (u : Uri) : Option String :=
  if u.authority.isEmpty then none
  else match afterLast '@' u.authority.toList with
    | '[' :: r => some (String.ofList ('[' :: r.takeWhile (· ≠ ']') ++ [']']))
    | cs => some (String.ofList (cs.takeWhile (· ≠ ':')))

/-- A number of decimal digits below 65536. -/
def portNumber? (ds : List Char) : Option Nat :=
  if ds.isEmpty || !ds.all Char.isDigit then none
  else
    let n := ds.foldl (fun n d => n * 10 + (d.toNat - 48)) 0
    if n < 65536 then some n else none

/-- The port behind the last colon of the authority, if a number stands there; it may carry a
plus sign. -/
def port (u : Uri) : Option Nat :=
  let cs := u.authority.toList
  if cs.contains ':' then
    match afterLast ':' cs with
    | '+' :: ds => portNumber? ds
    | ds => portNumber? ds
  else none

end Uri

/-- A URI, or the error of a text that is none. -/
def uri (s : String) : Except Error Uri :=
  (Uri.parse s).mapError fun f => .ofFault .requestInvalid f.message

end Callsign.Http
