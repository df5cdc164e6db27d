import Prepared.Error

/-!
# Configuration

Settings of the rewriting. A flag holds whatever value it was given and counts
as set when that value is true. `Config.replace` checks the names of the fields
before their values; the configuration itself is called `self`, which cannot
name a field.
-/

namespace Prepared

open Number Text

/-- How arguments become text: by the historical quoting rules, or as literals of a dialect. -/
inductive LiteralStyle
  | heuristic
  | escaped
deriving DecidableEq, Repr

namespace LiteralStyle

def name : LiteralStyle → String
  | .heuristic => "heuristic"
  | .escaped => "escaped"

def description : LiteralStyle → String
  | .heuristic => "<LiteralStyle.HEURISTIC: 'heuristic'>"
  | .escaped => "<LiteralStyle.ESCAPED: 'escaped'>"

def ofValue? : Value → Option LiteralStyle
  | .text s => [LiteralStyle.heuristic, .escaped].find? (·.name == s)
  | _ => none

end LiteralStyle

structure Config where
  unifiedStyleDetection : Value := .bool false
  strictParsing : Value := .bool false
  localQuoteContext : Value := .bool false
  literalStyle : LiteralStyle := .heuristic
  dialect : Value := .null

inductive Field
  | dialect
  | literalStyle
  | localQuoteContext
  | strictParsing
  | unifiedStyleDetection
deriving DecidableEq, Repr

namespace Field

def name : Field → String
  | .dialect => "dialect"
  | .literalStyle => "literal_style"
  | .localQuoteContext => "local_quote_context"
  | .strictParsing => "strict_parsing"
  | .unifiedStyleDetection => "unified_style_detection"

/-- In the order of their names. -/
def all : List Field :=
  [.dialect, .literalStyle, .localQuoteContext, .strictParsing, .unifiedStyleDetection]

def ofName? (s : String) : Option Field := all.find? (·.name == s)

end Field

inductive ConfigError
  | takenName
  | unknownField (name : String)
  | unknownStyle (value : Value)

namespace ConfigError

def failure : ConfigError → Failure
  | .takenName => .foreign .type "ParameterConfig.replace() got multiple values for argument 'self'"
  | .unknownField name =>
    .foreign .type (String.ofList (quoted name.toList) ++ " is not a field of ParameterConfig")
  | .unknownStyle v =>
    match v.description with
    | .ok s => .foreign .value (String.ofList s ++ " is not a valid LiteralStyle")
    | .error e => .overlong e

end ConfigError

namespace Config

def get (c : Config) : Field → Value
  | .dialect => c.dialect
  | .literalStyle => .text c.literalStyle.name
  | .localQuoteContext => c.localQuoteContext
  | .strictParsing => c.strictParsing
  | .unifiedStyleDetection => c.unifiedStyleDetection

def latest (c : Config) (updates : List (String × Value)) (f : Field) : Value :=
  ((updates.reverse.find? (·.1 == f.name)).map (·.2)).getD (c.get f)

/-- The configuration with new values for some fields, a later one winning over
an earlier. -/
def replace (c : Config) (updates : List (String × Value)) : Except ConfigError Config :=
  if updates.any (·.1 == "self") then .error .takenName
  else match updates.find? fun u => (Field.ofName? u.1).isNone with
  | some u => .error (.unknownField u.1)
  | none =>
    let style := c.latest updates .literalStyle
    match LiteralStyle.ofValue? style with
    | none => .error (.unknownStyle style)
    | some literalStyle =>
      .ok
        { unifiedStyleDetection := c.latest updates .unifiedStyleDetection
          strictParsing := c.latest updates .strictParsing
          localQuoteContext := c.latest updates .localQuoteContext
          literalStyle
          dialect := c.latest updates .dialect }

def fieldText (c : Config) (f : Field) : Except Overlong (List Char) := do
  let value ← match f with
    | .literalStyle => .ok c.literalStyle.description.toList
    | f => (c.get f).description
  return f.name.toList ++ '=' :: value

def description (c : Config) : Except Overlong String := do
  let fields ← Field.all.mapM c.fieldText
  return String.ofList (callText "ParameterConfig" fields)

def isUnified (c : Config) : Bool := c.unifiedStyleDetection.truthy
def isStrict (c : Config) : Bool := c.strictParsing.truthy
def looksLocally (c : Config) : Bool := c.localQuoteContext.truthy
def escapes (c : Config) : Bool := c.literalStyle == .escaped

end Config
end Prepared
