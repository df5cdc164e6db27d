import Prepared.Config

/-!
# Copies of a configuration

A configuration is never changed; a copy with other values is made of it. The
copy holds the values that were given for it, and for the other fields the very
values that the first one holds. A style lies in a place of its own, by whatever
text it was given.
-/

namespace Prepared

namespace LiteralStyle

def place : LiteralStyle → Nat
  | .heuristic => 0
  | .escaped => 1

def ref (s : LiteralStyle) : Ref := ⟨.text s.name, s.place⟩

end LiteralStyle

namespace Config

/-- A configuration and where its values lie. -/
structure Copy where
  config : Config
  place : Field → Nat
  place_style : place .literalStyle = config.literalStyle.place

namespace Copy

/-- The first of all, with its other values in one place for each field. -/
def first (config : Config) : Copy where
  config
  place
    | .literalStyle => config.literalStyle.place
    | _ => 0
  place_style := rfl

def get (c : Copy) (f : Field) : Ref := ⟨c.config.get f, c.place f⟩

/-- What is given last under a name. -/
def latest? (updates : List (String × Ref)) (name : String) : Option Ref :=
  (updates.reverse.find? (·.1 == name)).map (·.2)

def values (updates : List (String × Ref)) : List (String × Value) := updates.map fun u => (u.1, u.2.value)

def replace (c : Copy) (updates : List (String × Ref)) : Except ConfigError Copy := do
  let config ← c.config.replace (values updates)
  return {
    config
    place := fun
      | .literalStyle => config.literalStyle.place
      | f => ((latest? updates f.name).map (·.place)).getD (c.place f)
    place_style := rfl }

def equal (c d : Copy) : Except Incomparable Bool := Field.all.allM fun f => (c.get f).equal (d.get f)

end Copy

/-- A call on the copy that was made as the `target`-th. -/
structure Call where
  target : Nat
  updates : List (String × Ref)

/-- The copies there are, and what comes of a call on one of them. -/
def call (copies : List Copy) (q : Call) : List Copy × Option (Except ConfigError Copy) :=
  match copies[q.target]? with
  | none => (copies, none)
  | some c =>
    match c.replace q.updates with
    | .ok d => (copies ++ [d], some (.ok d))
    | .error e => (copies, some (.error e))

end Config
end Prepared
