import TiledView.Json.Token

/-!
# JSON values

`Value.read?` reads a JSON document strictly.  It goes in two steps, since some readers want less:

* `Tree.read?` arranges the tokens of a text.  Every text of the right shape has a tree, however
  deep it is nested, and even if a number in it is too large or a string in it cannot be decoded.
* `Tree.value?` asks for the rest: strings that decode, numbers within range, and nesting up to a
  limit.

The tree is built by a machine (`TreeBuilder.step`) that takes one token at a time and keeps the
containers it is inside of.
-/

namespace TiledView.Json

inductive Value where
  | null
  | bool (b : Bool)
  | number (n : Number)
  | string (text : String)
  | array (items : List Value)
  /-- Every key occurs once. -/
  | object (fields : List (String × Value))
  deriving Repr

/-- The shape of a JSON text. -/
inductive Tree where
  | null
  | bool (b : Bool)
  | number (n : Number)
  | string (text? : Option String)
  | array (items : List Tree)
  | object (fields : List (Option String × Tree))
  deriving Repr

/-! ## Building trees -/

/-- A container around the value that is being read, with what it holds so far, last first. -/
inductive Enclosing where
  | array (items : List Tree)
  | object (fields : List (Option String × Tree)) (key : Option String)

/-- What a builder waits for. -/
inductive Awaiting where
  | value
  /-- An item, or the end of an empty array. -/
  | firstItem
  | itemEnd (items : List Tree)
  /-- A key, or the end of an empty object. -/
  | firstKey
  | key (fields : List (Option String × Tree))
  | colon (fields : List (Option String × Tree)) (key : Option String)
  | fieldEnd (fields : List (Option String × Tree))
  | nothing (tree : Tree)

structure TreeBuilder where
  /-- The containers around what is awaited, innermost first. -/
  enclosing : List Enclosing
  awaiting : Awaiting

namespace TreeBuilder

def start : TreeBuilder := ⟨[], .value⟩

/-- Goes on after `tree` has been read inside of `enclosing`. -/
def deliver (tree : Tree) : List Enclosing → TreeBuilder
  | [] => ⟨[], .nothing tree⟩
  | .array items :: outer => ⟨outer, .itemEnd (tree :: items)⟩
  | .object fields key :: outer => ⟨outer, .fieldEnd ((key, tree) :: fields)⟩

/-- Takes the first token of a value. -/
def beginValue (enclosing : List Enclosing) : Token → Option TreeBuilder
  | .null => some (deliver .null enclosing)
  | .bool b => some (deliver (.bool b) enclosing)
  | .number n => some (deliver (.number n) enclosing)
  | .string text? => some (deliver (.string text?) enclosing)
  | .openBracket => some ⟨enclosing, .firstItem⟩
  | .openBrace => some ⟨enclosing, .firstKey⟩
  | .closeBracket | .closeBrace | .comma | .colon => none

def step (b : TreeBuilder) (token : Token) : Option TreeBuilder :=
  match b.awaiting, token with
  | .value, token => beginValue b.enclosing token
  | .firstItem, .closeBracket => some (deliver (.array []) b.enclosing)
  | .firstItem, token => beginValue (.array [] :: b.enclosing) token
  | .itemEnd items, .comma => some ⟨.array items :: b.enclosing, .value⟩
  | .itemEnd items, .closeBracket => some (deliver (.array items.reverse) b.enclosing)
  | .firstKey, .closeBrace => some (deliver (.object []) b.enclosing)
  | .firstKey, .string key => some ⟨b.enclosing, .colon [] key⟩
  | .key fields, .string key => some ⟨b.enclosing, .colon fields key⟩
  | .colon fields key, .colon => some ⟨.object fields key :: b.enclosing, .value⟩
  | .fieldEnd fields, .comma => some ⟨b.enclosing, .key fields⟩
  | .fieldEnd fields, .closeBrace => some (deliver (.object fields.reverse) b.enclosing)
  | _, _ => none

end TreeBuilder

/-- Reads the shape of a whole text. -/
def Tree.read? (text : String) : Option Tree := do
  let tokens ← Token.scan text.toList
  let built ← tokens.foldlM TreeBuilder.step .start
  match built.awaiting with
  | .nothing tree => some tree
  | _ => none

/-! ## Values -/

/-- Nesting beyond this many containers is refused. -/
def maxDepth : Nat := 127

/-- Sets a field.  A key that is there already keeps its place and takes the new value. -/
def setField (fields : List (String × Value)) (key : String) (value : Value) :
    List (String × Value) :=
  if fields.any fun field => field.1 == key then
    fields.map fun field => if field.1 == key then (key, value) else field
  else
    fields ++ [(key, value)]

mutual

/-- The value of a tree whose containers are nested at most `depth` deep.  Of two fields with the
same key the later one counts. -/
def Tree.value? (depth : Nat) : Tree → Option Value
  | .null => some .null
  | .bool b => some (.bool b)
  | .number n => if n.value?.isSome then some (.number n) else none
  | .string text? => text?.map .string
  | .array items => if depth = 0 then none else (itemValues? (depth - 1) items).map .array
  | .object fields => if depth = 0 then none else (fieldValues? (depth - 1) [] fields).map .object

def itemValues? (depth : Nat) : List Tree → Option (List Value)
  | [] => some []
  | item :: items =>
    match item.value? depth, itemValues? depth items with
    | some value, some values => some (value :: values)
    | _, _ => none

def fieldValues? (depth : Nat) (done : List (String × Value)) :
    List (Option String × Tree) → Option (List (String × Value))
  | [] => some done
  | (key?, tree) :: fields =>
    match key?, tree.value? depth with
    | some key, some value => fieldValues? depth (setField done key value) fields
    | _, _ => none

end

/-- Reads a whole text as one value. -/
def Value.read? (text : String) : Option Value := (Tree.read? text).bind (Tree.value? maxDepth)

end TiledView.Json
