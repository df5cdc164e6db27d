import Prepared.Grammar.Parse

/-!
# Expressions

Values as they are written in a query: names, literals, calls, operators and
types. Each level of operators reads the level that binds more tightly, and the
innermost ones read whole expressions again through the rules.
-/

namespace Prepared.Grammar

open Parse

/-! ## Names -/

def placeholder (d : Dialect) : Parse Bool := do
  match ← get with
  | .symbol "?" :: ts => set ts; return true
  | .symbol ":" :: .number :: ts => set ts; return true
  | .symbol ":" :: .word w :: ts => if d.reserves w then return false else set ts; return true
  | .symbol "@" :: .symbol "@" :: .word _ :: ts | .symbol "@@" :: .word _ :: ts => set ts; return true
  | .symbol "@" :: t :: ts =>
    match t with
    | .symbol _ => fail
    | _ => set ts; return true
  | .symbol "@" :: [] => fail
  | .symbol "$" :: t :: ts =>
    match t with
    | .number | .word _ => if d.hasDollarMarkers then set ts; return true else return false
    | _ => return false
  | .symbol "%" :: ts =>
    if d = .postgres then
      set ts
      if ← accept "(" then
        skip
        expect ")"
      discard <| accept "S"
      return true
    else return false
  | _ => return false

/-- A name: a quoted one, a marker, or a word that is not reserved or barred. -/
def nameBut (d : Dialect) (barred : List String) : Parse Bool := do
  match ← get with
  | .name :: ts => set ts; return true
  | .word w :: ts => if d.reserves w || barred.contains w then return false else set ts; return true
  | _ => placeholder d

def name (d : Dialect) : Parse Bool := nameBut d []

/-- Where only a name can stand, any word and any literal is one. -/
def anyName (d : Dialect) : Parse Bool := do
  match ← get with
  | .word "SELECT" :: _ => return false
  | .symbol _ :: _ | [] => placeholder d
  | _ :: ts => set ts; return true

def nameOrString (d : Dialect) : Parse Bool := do
  if ← name d then return true else acceptString

/-- The reader as one whose find says nothing. -/
def found (p : Parse Bool) : Parse (Option Unit) := return if ← p then some () else none

def termIf (p : Parse Bool) : Parse (Option Form) := return if ← p then some .term else none

/-- Is the next word the beginning of a limit that can be read? -/
def startsLimit (r : Rules) : Parse Bool := do
  let ts ← get
  let limited ← attempt do
    if ← acceptOne ["LIMIT", "OFFSET"] then return (← r.bitwise).isSome else return false
  set ts
  return limited

def newName (r : Rules) : Parse Bool := do
  if ← startsLimit r then return false
  let d := r.dialect
  let marked ← accept "AS"
  if ← accept "(" then
    discard <| listed (found (if marked then anyName d else name d))
    expect ")"
    return true
  else if ← (if marked then anyName d else name d) then return true
  else if d.namesByString then acceptString
  else return false

def named (r : Rules) (value : Parse (Option Form)) : Parse (Option Form) := do
  let v ← value
  let renamed ← newName r
  match v with
  | some f => return some (if renamed then .term else f)
  | none => if renamed then fail else return none

def explicitlyNamed (r : Rules) (value : Parse (Option Form)) : Parse (Option Form) := do
  if ← follows ["AS"] then fail
  let v ← value
  if ← follows ["AS"] then
    discard <| newName r
    return v.map fun _ => .term
  else return v

/-! ## Operators -/

def chainFrom (operators : List String) (operand : Parse (Option Form)) : Nat → Option Form → Parse (Option Form)
  | 0, f => return f
  | n + 1, f => do
    if ← acceptOne operators then
      discard <| need (pure f)
      discard <| need operand
      chainFrom operators operand n (some .term)
    else return f

/-- Operands with operators between them, both of which must be there. -/
def chain (operators : List String) (operand : Parse (Option Form)) : Parse (Option Form) := do
  let f ← operand
  if ← followsOne operators then chainFrom operators operand (← get).length f else return f

def assignment (r : Rules) : Parse (Option Form) := chain [":="] r.condition

def expression (r : Rules) : Parse (Option Form) := named r (assignment r)

/-! ## Types -/

/-- The size in a type: a number or a word, and perhaps its unit. -/
def typeSize (r : Rules) : Parse (Option Unit) := do
  match ← r.unary with
  | some _ => do
    discard <| anyName r.dialect
    return some ()
  | none => return none

def typePart (r : Rules) : Parse (Option Unit) := do
  let before ← get
  let named ← name r.dialect
  discard <| accept ":"
  if ← pure (named && !(← followsOne [",", ")", ">", "<", "("])) <&&> r.typeName then return some ()
  set before
  found r.typeName

/-- How much of a type was read: its name, or its sizes too. -/
inductive Extent
  | plain
  | sized
deriving DecidableEq, Repr

/-- The sizes of a type, if it has any; nothing if what is in parentheses is something else. -/
def typeSizes (r : Rules) (w : String) : Parse (Option Extent) := do
  if ← accept "(" then
    let sizes ←
      if nestingTypes.contains w then listed (typePart r)
      else if w == "ENUM" then listed (do return (← r.equality).map fun _ => ())
      else listed (typeSize r)
    return if ← pure (!sizes.isEmpty) <&&> accept ")" then some .sized else none
  else return some .plain

/-- What may follow a type: its time zone, its sign, and the bounds of arrays of it. -/
def typeEnding (w : String) : Parse Unit := do
  if isMomentType w then
    discard <| acceptAny
      [["WITH", "TIME", "ZONE"], ["WITHOUT", "TIME", "ZONE"], ["WITH", "LOCAL", "TIME", "ZONE"]]
  discard <| acceptOne ["UNSIGNED", "SIGNED"]
  discard <| accept "ZEROFILL"
  many do
    if ← accept "ARRAY" then return true
    let before ← get
    if ← accept "[" then
      discard acceptNumber
      if ← accept "]" then return true
    set before
    return false

/-- A type by its name; only where `custom` is set may the name be one of the user's own. -/
def typeExtent (r : Rules) (custom : Bool) : Parse (Option Extent) := do
  let before ← get
  let d := r.dialect
  let head ← match before with
    | .word w :: ts =>
      if d.isType w then
        set ts
        pure (some w)
      else if custom && !d.isKeyword w then
        set ts
        many do if ← accept "." then anyName d else return false
        pure (some w)
      else pure none
    | .name :: ts =>
      if custom then
        set ts
        pure (some "")
      else pure none
    | _ => pure none
  match head with
  | none => return none
  | some w =>
    match ← typeSizes r w with
    | none =>
      set before
      return none
    | some extent =>
      if ← pure (nestingTypes.contains w) <&&> accept "<" then
        discard <| listed (typePart r)
        expect ">"
      typeEnding w
      return some extent

/-! ## Calls -/

/-- The rows that a window function looks at reach from here to there. -/
def windowBound (r : Rules) : Parse Unit := do
  if !(← acceptAny [["UNBOUNDED"], ["CURRENT", "ROW"]]) then discard r.bitwise
  discard <| acceptOne ["PRECEDING", "FOLLOWING"]

/-- The direction of an order, where missing values go, and how gaps are filled. -/
def direction (r : Rules) : Parse Unit := do
  discard <| accept "ASC"
  discard <| accept "DESC"
  discard <| acceptAny [["NULLS", "FIRST"], ["NULLS", "LAST"]]
  if ← acceptAll ["WITH", "FILL"] then
    if ← accept "FROM" then discard <| need r.bitwise
    if ← accept "TO" then discard <| need r.bitwise
    if ← accept "STEP" then discard <| need r.bitwise

def ordered (r : Rules) : Parse (Option Unit) := do
  match ← r.condition with
  | none => return none
  | some _ => do
    direction r
    return some ()

def order (r : Rules) : Parse Bool := afterMark "ORDER BY" do
  if (← listed (ordered r)).isEmpty then fail

def windowFrame (r : Rules) : Parse Unit := do
  if ← acceptOne ["PARTITION BY", "PARTITIONED BY"] then discard <| listed r.condition
  discard <| order r
  if ← acceptOne ["ROWS", "RANGE", "GROUPS"] then
    discard <| accept "BETWEEN"
    windowBound r
    if ← accept "AND" then windowBound r
    if ← accept "EXCLUDE" then
      if !(← acceptAny [["CURRENT", "ROW"], ["GROUP"], ["NO", "OTHERS"], ["TIES"]]) then fail

def window (r : Rules) : Parse Unit := do
  if ← acceptAll ["WITHIN", "GROUP"] then enclosed (discard <| order r)
  if ← acceptAll ["FILTER", "("] then
    discard <| accept "WHERE"
    discard <| need r.condition
    expect ")"
  discard <| acceptAny [["IGNORE", "NULLS"], ["RESPECT", "NULLS"]]
  if ← accept "OVER" then
    if ← accept "(" then
      if !(← followsOne ["ROWS", "RANGE", "PARTITION BY"]) then discard <| name r.dialect
      windowFrame r
      expect ")"
    else discard <| name r.dialect

/-- Is the next argument a function of its own? Its parameters are passed over. -/
def parameters (d : Dialect) : Parse Bool := do
  let before ← get
  let single ← name d
  if ← pure (!single) <&&> accept "(" then
    discard <| listed (found (name d))
    discard <| accept ")"
  if ← acceptOne ["->", "=>"] then return true
  set before
  return false

/-- An argument. Only an unknown function may rename it. -/
def argument (r : Rules) (renames : Bool) : Parse (Option Form) := do
  let value ←
    if ← parameters r.dialect then do
      discard <| need r.condition
      pure (some .term)
    else if ← accept "DISTINCT" then do
      discard <| need (do return (← listed r.condition).head?)
      pure (some .term)
    else
      match ← r.query {} with
      | some f => pure (some f)
      | none =>
        match ← (if renames then explicitlyNamed r (assignment r) else assignment r) with
        | some f => some <$> r.operators f
        | none => pure none
  discard <| acceptAny [["IGNORE", "NULLS"], ["RESPECT", "NULLS"]]
  discard <| order r
  if ← accept "LIMIT" then discard <| need r.bitwise
  return value

def caseBranches (r : Rules) : Parse Bool := afterMark "WHEN" do
  discard <| need r.condition
  discard <| accept "THEN"
  discard <| need r.condition

def alternatives (r : Rules) : Parse Unit := do
  discard r.condition
  needTrue (caseBranches r)
  many (caseBranches r)
  if ← accept "ELSE" then discard r.condition
  expect "END"

def conditional (r : Rules) : Parse Bool := do
  match ← r.condition with
  | none => return false
  | some _ => do
    discard <| accept "THEN"
    discard <| need r.condition
    if ← accept "ELSE" then discard r.condition
    discard <| accept "END"
    return true

/-- One of the parts of a call that words stand between, instead of commas. -/
def wordedPart (r : Rules) (w : String) : Parse Unit := do
  if ← acceptOne [w, ","] then discard <| need r.bitwise

def keyValue (r : Rules) : Parse (Option Unit) := do
  discard <| accept "KEY"
  let key ← r.bitwise
  discard <| acceptOne [":", ",", "IS"]
  discard <| accept "VALUE"
  let value ← r.bitwise
  if key.isNone && value.isNone then return none
  else if key.isNone || value.isNone then fail
  else return some ()

def conversion (r : Rules) : Parse Unit := do
  if r.dialect == .tsql then
    needTrue r.typeName
    discard <| accept ","
    discard <| listed r.condition
  else
    discard <| need r.bitwise
    if ← accept "USING" then needTrue (anyName r.dialect)
    else if ← accept "," then discard r.typeName

/-- What may follow the arguments of some functions: the set of characters, the mark between items, the unit. -/
def argumentsEnding (r : Rules) (w : String) : Parse Unit := do
  match w with
  | "CHAR" | "CHR" => discard <| afterMark "USING" (needTrue (anyName r.dialect))
  | "CEIL" | "FLOOR" => discard <| afterMark "TO" (needTrue (anyName r.dialect))
  | "GROUP_CONCAT" =>
    if r.dialect == .mysql then discard <| afterMark "SEPARATOR" (needTrue acceptString)
  | _ => return

def arguments (r : Rules) (w : String) : Parse Unit := do
  match w with
  | "CONVERT" | "TRY_CONVERT" => conversion r
  | "OVERLAY" =>
    discard <| need r.bitwise
    wordedPart r "PLACING"
    wordedPart r "FROM"
    wordedPart r "FOR"
  | "JSON_OBJECT" | "JSON_OBJECTAGG" =>
    if !(← accept "*") then discard <| listed (keyValue r)
    discard <| acceptAny [["NULL", "ON", "NULL"], ["ABSENT", "ON", "NULL"]]
    discard <| acceptAny [["WITH", "UNIQUE"], ["WITHOUT", "UNIQUE"]]
    discard <| accept "KEYS"
    if ← accept "RETURNING" then needTrue r.typeName
  | "MATCH" =>
    discard <| listed r.bitwise
    discard <| acceptAll [")", "AGAINST", "("]
    needTrue acceptString
    discard <| acceptAny [["IN", "NATURAL", "LANGUAGE", "MODE"], ["IN", "BOOLEAN", "MODE"]]
    discard <| acceptAll ["WITH", "QUERY", "EXPANSION"]
  | "XMLELEMENT" =>
    discard <| accept "NAME"
    needTrue (name r.dialect)
    if ← accept "," then discard <| listed r.bitwise
  | "CAST" | "TRY_CAST" | "SAFE_CAST" =>
    discard <| need (assignment r)
    expect "AS"
    needTrue r.typeName
    if ← accept "FORMAT" then needTrue acceptString
  | "EXTRACT" =>
    needTrue (anyName r.dialect)
    if !(← accept "FROM") then expect ","
    discard <| need r.bitwise
  | "VALUES" => needTrue (name r.dialect)
  | "SUBSTRING" =>
    discard <| need (do return (← listed r.bitwise).head?)
    if ← accept "FROM" then discard <| need r.bitwise
    if ← accept "FOR" then discard <| need r.bitwise
  | "TRIM" =>
    discard <| acceptOne ["LEADING", "TRAILING", "BOTH"]
    let f ← r.bitwise
    if ← acceptOne ["FROM", ","] then discard <| need r.bitwise else discard <| need (pure f)
  | "POSITION" =>
    discard <| need (do return (← listed r.bitwise).head?)
    if ← accept "IN" then discard <| need r.bitwise
  | "EXISTS" | "ANY" | "ALL" | "SOME" =>
    if ← followsOne ["SELECT", "WITH"] then discard <| r.query {} else discard <| listed (argument r true)
  | w =>
    let arity := arities.lookup w
    let count := (← listed (argument r arity.isNone)).length
    if arity.any fun (least, most) => count < least || most.any (· < count) then fail
    argumentsEnding r w

/-- Can the word be called as a function? Behind a point any can. -/
def isCallable (d : Dialect) (anywhere : Bool) (w : String) : Bool :=
  if anywhere then w != "SELECT"
  else !d.isKeyword w || d.isType w || callableWords.contains w || (d == .mysql && w == "VALUES")

def call (r : Rules) (anywhere : Bool) : Parse Bool := do
  match ← get with
  | .word w :: .symbol "(" :: ts =>
    if isCallable r.dialect anywhere w then
      set ts
      arguments r w
      expect ")"
      window r
      return true
    else return false
  | .name :: .symbol "(" :: ts =>
    set ts
    discard <| listed (argument r true)
    expect ")"
    window r
    return true
  | _ => return false

def bracedCall (r : Rules) (anywhere : Bool) : Parse Bool := do
  let before ← get
  if ← acceptAll ["\x7b", "FN"] then
    if ← call r anywhere then
      discard <| accept "\x7d"
      return true
  set before
  return false

/-- A call, or one of the words that begin something of the same kind without parentheses. -/
def function (r : Rules) (anywhere : Bool) : Parse Bool := do
  match ← get with
  | .symbol "\x7b" :: _ => bracedCall r anywhere
  | .word "CASE" :: ts =>
    set ts
    alternatives r
    window r
    return true
  | .word "ANY" :: ts =>
    set ts
    discard <| need r.bitwise
    return true
  | before@(.word "IF" :: ts) =>
    if ← follows ["IF", "("] then call r anywhere
    else
      set ts
      if ← conditional r then return true
      set before
      return false
  | _ => call r anywhere

/-! ## Operands -/

def starEnding (r : Rules) : Parse Unit := do
  if ← acceptOne ["EXCEPT", "EXCLUDE"] then starList
  if ← accept "REPLACE" then starList
  if ← accept "RENAME" then starList
where
  starList : Parse Unit := do
    if ← follows ["("] then discard <| enclosed (listed (expression r))
    else discard <| explicitlyNamed r r.condition

/-- Something in parentheses: a query, a list of values, or one value. -/
def parenthesised (r : Rules) : Parse (Option Form) := do
  if !(← accept "(") then return none
  match ← r.query {} with
  | some q =>
    let q ← r.modifiers q
    if q == .subquery then discard <| r.operators q
    expect ")"
    return some (if q.isQuery then .subquery else .term)
  | none =>
    let items ← listed (expression r)
    match items.head? with
    | some f =>
      if f.isQuery then
        discard <| r.operators (← r.modifiers f)
        expect ")"
        return some .subquery
      else
        expect ")"
        return some .term
    | none =>
      expect ")"
      return some .term

def primary (r : Rules) : Parse (Option Form) := do
  match ← get with
  | .string :: ts =>
    set ts
    many acceptString
    return some .literal
  | .number :: ts | .symbol "." :: .number :: ts =>
    set ts
    return some .literal
  | .symbol "*" :: ts =>
    set ts
    starEnding r
    return some .term
  | .word w :: ts =>
    if w == "NULL" || w == "TRUE" || w == "FALSE" then
      set ts
      return some .term
    else return none
  | _ => parenthesised r

def field (r : Rules) (anywhere : Bool) : Parse (Option Form) := do
  if anywhere then
    if ← function r true then return some .term
    match ← primary r with
    | some f => return some f
    | none => termIf (anyName r.dialect)
  else
    match ← primary r with
    | some f => return some f
    | none =>
      if ← function r false then return some .term
      termIf (name r.dialect)

def brackets (r : Rules) : Parse Bool := do
  let part : Parse (Option Form) := do
    let f ← explicitlyNamed r (assignment r)
    if ← accept ":" then r.condition else return f
  if ← accept "[" then
    discard <| listed part
    expect "]"
    return true
  else if ← accept "\x7b" then
    if ← acceptOne ["D", "T", "TS"] then
      needTrue acceptString
    else discard <| listed part
    expect "\x7d"
    return true
  else return false

/-- One step further into a value: a part, a type to convert to, a bracket. -/
def columnStep (r : Rules) : Parse Bool := do
  if ← brackets r then return true
  else if ← accept "." then
    discard <| need (field r true)
    return true
  else if ← accept "::" then
    needTrue r.typeName
    return true
  else if ← acceptOne ["->", "->>", "#>", "#>>", "?"] then
    match ← field r false with
    | some _ => many do if ← accept "." then return (← field r true).isSome else return false
    | none => discard <| need r.bitwise
    return true
  else if ← pure (r.dialect == .snowflake) <&&> accept ":" then
    discard <| need (field r true)
    return true
  else return false

def columnEnding (r : Rules) (f : Form) : Parse Form := do
  if ← columnStep r then
    many (columnStep r)
    return .term
  else return f

/-- The word for rows is a name where no row follows. -/
def rowsName : Parse Bool := do
  match ← get with
  | .word "VALUES" :: .symbol "(" :: _ => return false
  | .word "VALUES" :: ts => set ts; return true
  | _ => return false

def column (r : Rules) : Parse (Option Form) := do
  match ← field r false with
  | some f => return some (← columnEnding r f)
  | none =>
    if ← rowsName then return some (← columnEnding r .term)
    else if ← brackets r then return some (← columnEnding r .term)
    else return none

/-- A length of time: a quantity and its unit, which may be inside of the quoted quantity. -/
def interval (r : Rules) : Parse Bool := do
  let before ← get
  if !(← accept "INTERVAL") then return false
  let quoted ← acceptString
  let counted ← if quoted then pure (some .literal) else r.unary
  match ← get with
  | .word w :: ts =>
    if counted.isSome && isUnit w then
      set ts
      match ← get with
      | .word "TO" :: .word w :: ts => if isUnit w then set ts
      | _ => return true
      return true
  | _ => pure ()
  if quoted || counted == some .literal then return true
  set before
  return false

/-- A type in front of a literal converts it. -/
def converted (r : Rules) : Parse Bool := do
  let before ← get
  match ← typeExtent r false with
  | some extent =>
    if ← acceptString then
      many acceptString
      return true
    else if ← pure (extent == .plain) <&&> acceptNumber then return true
  | none => pure ()
  set before
  return false

def operand (r : Rules) : Parse (Option Form) := do
  if ← interval r then return some .term
  else if ← converted r then return some (← columnEnding r .term)
  else column r

/-! ## Levels of operators -/

def unary (r : Rules) : Parse (Option Form) := do
  if ← accept "+" then r.unary
  else if ← acceptOne ["-", "~"] then
    discard <| need r.unary
    return some .term
  else if ← acceptOne ["NOT", "!"] then
    discard <| need r.equality
    return some .term
  else
    let f ← operand r
    many do
      if ← acceptAll ["AT", "TIME", "ZONE"] then
        discard <| need r.unary
        return true
      else return false
    return f

def productMarks : List String := ["*", "/", "<->", "DIV"]

/-- Products. The word for whole quotients is a name where no operand follows. -/
def productFrom (r : Rules) : Nat → Option Form → Parse (Option Form)
  | 0, f => return f
  | n + 1, f => do
    let before ← get
    let whole ← follows ["DIV"]
    if ← acceptOne productMarks then
      discard <| need (pure f)
      match ← unary r with
      | some _ => productFrom r n (some .term)
      | none =>
        if !whole then fail
        set before
        return f
    else return f

def product (r : Rules) : Parse (Option Form) := do
  let f ← unary r
  if ← followsOne productMarks then productFrom r (← get).length f else return f

def sum (r : Rules) : Parse (Option Form) := chain ["+", "-", "%", "COLLATE"] (product r)

/-- Operators on bits, and those that join texts or stand in for a missing value. -/
def bitwiseMarks (d : Dialect) : List (List String) :=
  [["&"], ["^"], ["|"], ["??"], ["<", "<"], [">", ">"]] ++ if d == .mysql then [] else [["||"]]

def bitwiseFrom (r : Rules) : Nat → Option Form → Parse (Option Form)
  | 0, f => return f
  | n + 1, f => do
    if ← acceptAny (bitwiseMarks r.dialect) then
      discard <| need (pure f)
      discard <| need (sum r)
      bitwiseFrom r n (some .term)
    else return f

def bitwise (r : Rules) : Parse (Option Form) := do
  let f ← sum r
  if ← (bitwiseMarks r.dialect).anyM follows then bitwiseFrom r (← get).length f else return f

def comparisons (d : Dialect) : List String :=
  ["LIKE", "ILIKE", "RLIKE", "REGEXP", "SIMILAR TO", "GLOB", "OVERLAPS", "~~", "~~*", "~*", "@>", "<@"] ++
    match d with
    | .postgres => ["~", "@@", "&&", "?|", "?&", "#-"]
    | .duckdb => ["&&"]
    | _ => []

def namedOperator (r : Rules) : Parse Bool := afterMark "OPERATOR" do
  if ← accept "(" then
    many do
      let more := (← upcoming).isSome && !(← follows [")"])
      if more then skip
      return more
    expect ")"
    discard <| need (bitwise r)

def membership (r : Rules) : Parse Unit := do
  if ← accept "(" then
    let item : Parse (Option Form) := do
      match ← r.query {} with
      | some f => return some f
      | none =>
        match ← assignment r with
        | some f => return some (← r.operators f)
        | none => return none
    match ← listed item with
    | [f] => if f.isQuery then discard <| r.modifiers f
    | _ => pure ()
    expect ")"
  else if ← accept "[" then
    discard <| listed (assignment r)
    expect "]"
  else discard <| column r

/-- A property of the value before; nothing is said of a value that is not there. -/
def statedOf (r : Rules) : Parse Bool := do
  let before ← get
  if ← accept "IS" then
    discard <| accept "NOT"
    if ← acceptAll ["DISTINCT", "FROM"] then
      discard <| need (bitwise r)
      return true
    else if (← bitwise r).isSome then return true
    else
      set before
      return false
  else return false

def range (r : Rules) : Parse (Option Form) := do
  let f ← bitwise r
  let negated ← acceptOne ["NOT", "!"]
  let said ←
    if ← accept "BETWEEN" then do
      discard <| acceptOne ["SYMMETRIC", "ASYMMETRIC"]
      discard <| need (bitwise r)
      discard <| accept "AND"
      discard <| need (bitwise r)
      pure true
    else if ← accept "IN" then do
      membership r
      pure true
    else if ← acceptOne (comparisons r.dialect) then do
      discard <| need (bitwise r)
      if ← accept "ESCAPE" then needTrue acceptString
      pure true
    else if ← pure (r.dialect == .mysql) <&&> acceptAll ["SOUNDS", "LIKE"] then do
      discard <| need (sum r)
      pure true
    else if ← pure (r.dialect == .mysql) <&&> acceptAll ["MEMBER", "OF"] then do
      discard <| enclosed (need (expression r))
      pure true
    else if ← namedOperator r then do
      many (namedOperator r)
      pure true
    else if ← accept "ISNULL" then pure true
    else if ← pure negated <&&> accept "NULL" then pure true
    else statedOf r
  let said := (← accept "NOTNULL") || said
  let said := (← statedOf r) || said
  if said then
    discard <| need (pure f)
    return some .term
  else return f

def comparison (r : Rules) : Parse (Option Form) := chain [">", ">=", "<", "<="] (range r)

def equality (r : Rules) : Parse (Option Form) := chain ["=", "==", "<>", "!=", "<=>"] (comparison r)

def conjunction (r : Rules) : Parse (Option Form) :=
  chain (if r.dialect == .mysql then ["AND", "&&", "XOR"] else ["AND"]) (equality r)

/-- A condition, the widest kind of value that has no name. -/
def condition (r : Rules) : Parse (Option Form) :=
  chain (if r.dialect == .mysql then ["OR", "||"] else ["OR"]) (conjunction r)

end Prepared.Grammar
