import TiledView.Callback.Kind
import TiledView.Callback.Numerals
import TiledView.Json.Value

/-!
# Callbacks

A `Callback` is what a document engine delivers: a code and perhaps some bytes.  `Payload.decode`
reads the bytes in the shape that belongs to the code.  It answers every input: a payload that is
missing, empty or malformed decodes to `Payload.null`.

Some payloads are JSON, or end in it.  How that is read does not matter to the rest, so
`Payload.decodeWith` is given a reader, and `Payload.decode` has it read by `Payload.readJson?`.
-/

namespace TiledView

/-- One callback of a document engine, before decoding. -/
structure Callback where
  code : Int
  payload? : Option Bytes
  deriving DecidableEq, Repr

/-- A decoded payload. -/
inductive Payload where
  | list (values : List UInt64)
  | matrix (rows : List (List UInt64))
  | graphicSelection (values : List UInt64) (properties? : Option Json.Value)
  | json (value : Json.Value)
  | text (content : String)
  | null
  deriving Repr

namespace Payload

def isNull : Payload → Bool
  | .null => true
  | .list _ | .matrix _ | .graphicSelection _ _ | .json _ | .text _ => false

def numbers? : Payload → Option (List UInt64)
  | .list values => some values
  | .matrix _ | .graphicSelection _ _ | .json _ | .text _ | .null => none

def text? : Payload → Option String
  | .text content => some content
  | .list _ | .matrix _ | .graphicSelection _ _ | .json _ | .null => none

def ofText (bytes : Bytes) : Payload :=
  match bytes.text? with
  | some content => .text content
  | none => .null

def openBrace : UInt8 := 123

section Reader

variable (reader : Bytes → Option Json.Value)

def ofJson (bytes : Bytes) : Payload :=
  match reader bytes with
  | some value => .json value
  | none => .null

/-- Numbers, and what follows them as JSON.  Malformed properties leave the numbers as they are. -/
def ofGraphicSelection (bytes : Bytes) : Payload :=
  let (values, rest) := Numerals.list bytes
  .graphicSelection values (if rest.all Numerals.isBlank then none else reader rest)

/-- Decodes a payload in the shape registered for `code`. -/
def decodeWith (code : Int) (payload? : Option Bytes) : Payload :=
  match payload? with
  | none | some [] => .null
  | some (first :: rest) =>
    let bytes := first :: rest
    match (CallbackInfo.ofCode code).shape with
    | .numericList => if first = openBrace then ofJson reader bytes else .list (Numerals.list bytes).1
    | .numericMatrix => .matrix (Numerals.matrix bytes).1
    | .graphicSelection => ofGraphicSelection reader bytes
    | .stateChange => if first = openBrace then ofJson reader bytes else ofText bytes
    | .json => ofJson reader bytes
    | .rawString => ofText bytes

end Reader

/-- Reads bytes as one JSON document. -/
def readJson? (bytes : Bytes) : Option Json.Value := bytes.text?.bind Json.Value.read?

/-- Decodes a payload, with all JSON read by `readJson?`. -/
def decode (code : Int) (payload? : Option Bytes) : Payload := decodeWith readJson? code payload?

end Payload

namespace Callback

def ofText (code : Int) (text : String) : Callback := ⟨code, some (.ofText text)⟩

def name (c : Callback) : String := (CallbackInfo.ofCode c.code).name

/-- The payload as text, if there is one and it is UTF-8. -/
def text? (c : Callback) : Option String := c.payload?.bind Bytes.text?

def decode (c : Callback) : Payload := .decode c.code c.payload?

end Callback

end TiledView
