import Callsign.Text.Quoted
import Callsign.Text.Utf8

/-!
# Errors

An error has a kind, a message and perhaps a cause. A rejection by a service keeps its code,
message and status as the cause, so that whoever gets the error can tell what was rejected.
-/

namespace Callsign

/-- What an error is about. -/
inductive ErrorKind
  | credentialMissing
  | credentialInvalid
  | credentialExpired
  | credentialDenied
  | requestInvalid
  | configInvalid
  | unexpected
  deriving DecidableEq, Repr

namespace ErrorKind

def text : ErrorKind → String
  | credentialMissing => "missing credentials"
  | credentialInvalid => "invalid credentials"
  | credentialExpired => "expired credentials"
  | credentialDenied => "credential access denied"
  | requestInvalid => "invalid request"
  | configInvalid => "invalid configuration"
  | unexpected => "unexpected error"

/-- The kinds that are about credentials. -/
def isCredential : ErrorKind → Bool
  | credentialMissing | credentialInvalid | credentialExpired | credentialDenied => true
  | requestInvalid | configInvalid | unexpected => false

end ErrorKind

/-- A rejection by a service. -/
structure ServiceError where
  status : Nat
  code : String
  message : String
  requestId : Option String
  deriving DecidableEq, Repr

namespace ServiceError

/-- The region does not exist. -/
def isInvalidRegion (e : ServiceError) : Bool :=
  e.code = "InvalidRegionId" && e.message = "The specified region does not exist."

/-- The location service does not know the product. -/
def isIllegalParameter (e : ServiceError) : Bool :=
  e.code = "Illegal Parameter" && e.message = "Please check the parameters"

def text (e : ServiceError) : String :=
  "service error (status " ++ toString e.status ++ ", request id " ++
    Text.quotedOption e.requestId ++ "): " ++ e.code ++ ": " ++ e.message

end ServiceError

/-- What led to an error. -/
inductive Cause
  | fault (words : String)
  | service (e : ServiceError)
  deriving DecidableEq, Repr

def Cause.text : Cause → String
  | fault words => words
  | service e => e.text

structure Error where
  kind : ErrorKind
  message : String
  cause : Option Cause := none
  deriving DecidableEq, Repr

/-- What this library itself finds wrong. -/
inductive Problem
  | noCredential (style : String)
  | noRegion
  | noHttpClient
  | unknownStyle (name : String)
  | unknownAlgorithm (name : String)
  | notATime (text form : String)
  | notAListing
  deriving DecidableEq, Repr

namespace Problem

def kind : Problem → ErrorKind
  | noCredential _ => .credentialMissing
  | noRegion | unknownStyle _ | unknownAlgorithm _ => .configInvalid
  | noHttpClient | notATime .. | notAListing => .unexpected

def message : Problem → String
  | noCredential style => "no credential to sign " ++ style ++ " request"
  | noRegion => "region_id is required"
  | noHttpClient => "HTTP sending not supported: no HTTP client configured"
  | unknownStyle name => "unknown protocol style: " ++ name
  | unknownAlgorithm name => "unsupported signature method: " ++ name
  | notATime text form => "parse " ++ text ++ " into " ++ form ++ " failed"
  | notAListing => "failed to parse DescribeEndpoints response"

end Problem

namespace Error

def ofProblem (p : Problem) : Error := ⟨p.kind, p.message, none⟩

/-- The error with this cause instead of the one it has. -/
def withCause (e : Error) (c : Cause) : Error := { e with cause := some c }

/-- The service rejection that led to the error, if one did. -/
def service? (e : Error) : Option ServiceError :=
  match e.cause with
  | some (.service s) => some s
  | _ => none

/-- An error that passes on the words of the fault that caused it. -/
def ofFault (kind : ErrorKind) (words : String) : Error := ⟨kind, words, some (.fault words)⟩

/-- An error known by its words alone. -/
def ofWords (words : String) : Error := ofFault .unexpected words

/-- A value could not be written as text. -/
def formatting : Error := ofWords "an error occurred when formatting an argument"

/-- Bytes that were to be text are not. -/
def ofUtf8 (f : Text.Utf8.Fault) : Error := ofWords f.message

def ofService (e : ServiceError) : Error :=
  ⟨.unexpected, "service responded with " ++ e.code, some (.service e)⟩

end Error

end Callsign
