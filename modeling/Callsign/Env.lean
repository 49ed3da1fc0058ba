import Callsign.Table
import Callsign.Text.Quoted
import Callsign.Text.Utf8

/-!
# Environment variables

Variables come from nowhere, from a fixed table, or from the process, whose values need not be text.
-/

namespace Callsign

inductive Env
  | absent
  | fixed (vars : Table String)
  | process (vars : Table (List UInt8))

namespace Env

/-- The value of a variable, if it is set to a text. -/
def var (key : String) : Env → Option String
  | absent => none
  | fixed vars => vars.get? key
  | process vars => (vars.get? key).bind Text.Utf8.decode?

/-- All variables that are set to a text. -/
def vars : Env → Table String
  | absent => .empty
  | fixed vars => vars
  | process vars =>
    .ofList (vars.entries.filterMap fun (k, v) => (Text.Utf8.decode? v).map (k, ·))

def shown : Env → String
  | absent => "NoopEnv"
  | fixed vars => "StaticEnv \x7b envs: \x7b" ++ ", ".intercalate
      (vars.entries.map fun (k, v) => Text.quoted k ++ ": " ++ Text.quoted v) ++ "\x7d \x7d"
  | process _ => "OsEnv"

/-- The shown form of an environment in which no client sends requests. -/
def shownOffline (e : Env) : String :=
  "Context \x7b http: NoopHttpSend, env: " ++ e.shown ++ " \x7d"

end Env

end Callsign
