import Callsign.Encoding.Percent
import Callsign.Table

/-!
# The text that an RPC signature covers

The method, the path, and the parameters in the order of their names, encoded once as a form and
once more as part of a path.
-/

namespace Callsign.Canonical

/-- The parameters in canonical form. -/
def rpcQuery (params : Table String) : String :=
  let form := String.ofList (Encoding.form params.entries)
  String.ofList (Encoding.restyle (Encoding.percent Encoding.keptInPath (Text.utf8 form)))

/-- The text to sign of a call by `method` with these parameters. -/
def rpcText (method : String) (params : Table String) : String :=
  method ++ "&%2F&" ++ rpcQuery params

end Callsign.Canonical
