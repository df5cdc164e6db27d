import Prepared.Json.Token
import Prepared.Value.Equality

/-!
# Reading JSON

Tokens are taken one by one by a reader with a stack of the collections that
are still open. Of two members with one key the later wins, in the place of the
earlier.
-/

namespace Prepared.Json

open Text

/-- An open collection. An object has a key whose value is still to come. -/
inductive Frame
  | array (items : List Value)
  | object (entries : List (Value × Value)) (key : List Char)

inductive Expect
  | value
  | valueOrClose
  | key (entries : List (Value × Value)) (orClose : Bool)
  | colon (entries : List (Value × Value)) (key : List Char)
  | close (v : Value)

structure State where
  frames : List Frame
  expect : Expect

/-- The start of a value. At most `limit` collections may be open in one another. -/
def startValue (limit : Nat) (frames : List Frame) : Token → Except ReadError State
  | .literal v => .ok ⟨frames, .close v⟩
  | .text s => .ok ⟨frames, .close (.text (String.ofList s))⟩
  | .arrayOpen => if frames.length < limit then .ok ⟨.array [] :: frames, .valueOrClose⟩ else .error .tooDeep
  | .objectOpen => if frames.length < limit then .ok ⟨frames, .key [] true⟩ else .error .tooDeep
  | .fault e => .error e
  | _ => .error .malformed

/-- One token. An error of the token itself counts only where such a token may stand. -/
def step (limit : Nat) (s : State) (t : Token) : Except ReadError State :=
  match s.expect, t with
  | .value, t => startValue limit s.frames t
  | .valueOrClose, .arrayClose =>
    match s.frames with
    | .array items :: frames => .ok ⟨frames, .close (.list items)⟩
    | _ => .error .malformed
  | .valueOrClose, t => startValue limit s.frames t
  | .key _ _, .fault .badEncoding => .error .badEncoding
  | .key entries _, .text k => .ok ⟨s.frames, .colon entries k⟩
  | .key entries true, .objectClose => .ok ⟨s.frames, .close (.dict entries)⟩
  | .colon entries k, .colon => .ok ⟨.object entries k :: s.frames, .value⟩
  | .close v, .comma =>
    match s.frames with
    | .array items :: frames => .ok ⟨.array (items ++ [v]) :: frames, .value⟩
    | .object entries k :: frames =>
      .ok ⟨frames, .key (Value.insertEntry entries (.text (String.ofList k)) v) false⟩
    | [] => .error .malformed
  | .close v, .arrayClose =>
    match s.frames with
    | .array items :: frames => .ok ⟨frames, .close (.list (items ++ [v]))⟩
    | _ => .error .malformed
  | .close v, .objectClose =>
    match s.frames with
    | .object entries k :: frames =>
      .ok ⟨frames, .close (.dict (Value.insertEntry entries (.text (String.ofList k)) v))⟩
    | _ => .error .malformed
  | _, _ => .error .malformed

def run (limit : Nat) : State → List Token → Except ReadError State
  | s, [] => .ok s
  | s, t :: ts => do run limit (← step limit s t) ts

def ofTokens (limit : Nat) (ts : List Token) : Except ReadError Value := do
  match ← run limit ⟨[], .value⟩ ts with
  | ⟨[], .close v⟩ => return v
  | _ => .error .malformed

def readWithin (limit : Nat) (s : List Char) : Except ReadError Value := ofTokens limit (tokens (s.map some))

/-- The limit that the usual stack leaves. -/
def depthLimit : Nat := 990

def read (s : List Char) : Except ReadError Value := readWithin depthLimit s

def readOctets (bytes : List UInt8) : Except ReadError Value := ofTokens depthLimit (tokens (Utf8.units bytes))

end Prepared.Json
