import Onetcli.Iotdb.Sql

/-!
The devices that `schema/objects` lists under a prefix, and what their names mean to
`schema/columns` and to the statements that are rewritten.
-/

namespace Onetcli.Iotdb

open Chars Text

/-! ## Prefixes -/

section Places

variable (isNumber : Chars → Bool)

end Places

end Onetcli.Iotdb
