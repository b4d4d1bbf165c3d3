import TiledView.Json.Number

/-!
# The tokens of JSON text

`Token.scan` cuts a text into tokens.  A token that is well formed but stands for nothing, such as a
string with half of a surrogate pair, is a token all the same: whether that matters is for the
reader of the token to say.
-/

namespace TiledView.Json

inductive Token where
  | openBrace
  | closeBrace
  | openBracket
  | closeBracket
  | comma
  | colon
  | null
  | bool (b : Bool)
  | number (n : Number)
  /-- A string, with its text where its escapes make one. -/
  | string (text? : Option String)
  deriving DecidableEq, Repr

/-- A piece of a string: a character, or a code unit written as an escape. -/
inductive Piece where
  | char (c : Char)
  | unit (code : Nat)
  deriving DecidableEq, Repr

namespace Piece

def isHighSurrogate (code : Nat) : Bool := 0xd800 ≤ code && code < 0xdc00

def isLowSurrogate (code : Nat) : Bool := 0xdc00 ≤ code && code < 0xe000

/-- The characters that pieces stand for.  Surrogates count in pairs only, the high one first. -/
def join : List Piece → Option (List Char)
  | [] => some []
  | .char c :: rest => (join rest).map (c :: ·)
  | .unit high :: .unit low :: rest =>
    if isHighSurrogate high then
      if isLowSurrogate low then
        let c := Char.ofNat (0x10000 + (high - 0xd800) * 0x400 + (low - 0xdc00))
        (join rest).map (c :: ·)
      else
        none
    else if isLowSurrogate high then none
    else (join (.unit low :: rest)).map (Char.ofNat high :: ·)
  | .unit code :: rest =>
    if isHighSurrogate code || isLowSurrogate code then none
    else (join rest).map (Char.ofNat code :: ·)

end Piece

namespace Token

/-! ## Strings -/

def hexDigit? (c : Char) : Option Nat :=
  if '0' ≤ c ∧ c ≤ '9' then some (c.toNat - '0'.toNat)
  else if 'a' ≤ c ∧ c ≤ 'f' then some (c.toNat - 'a'.toNat + 10)
  else if 'A' ≤ c ∧ c ≤ 'F' then some (c.toNat - 'A'.toNat + 10)
  else none

def hexUnit? (a b c d : Char) : Option Nat := do
  let a ← hexDigit? a
  let b ← hexDigit? b
  let c ← hexDigit? c
  let d ← hexDigit? d
  return ((a * 16 + b) * 16 + c) * 16 + d

/-- The character behind a one-letter escape. -/
def escape? : Char → Option Char
  | '"' => some '"'
  | '\\' => some '\\'
  | '/' => some '/'
  | 'b' => some '\x08'
  | 'f' => some '\x0c'
  | 'n' => some '\n'
  | 'r' => some '\r'
  | 't' => some '\t'
  | _ => none

/-- The pieces of a string up to its closing quote, and what follows.  Control characters must not
stand in it unescaped. -/
def stringBody : List Char → Option (List Piece × List Char)
  | [] => none
  | '"' :: rest => some ([], rest)
  | '\\' :: 'u' :: a :: b :: c :: d :: rest =>
    match hexUnit? a b c d, stringBody rest with
    | some code, some (pieces, rest) => some (.unit code :: pieces, rest)
    | _, _ => none
  | '\\' :: c :: rest =>
    match escape? c, stringBody rest with
    | some c, some (pieces, rest) => some (.char c :: pieces, rest)
    | _, _ => none
  | c :: rest =>
    if c = '\\' ∨ c.toNat < 0x20 then
      none
    else
      match stringBody rest with
      | some (pieces, rest) => some (.char c :: pieces, rest)
      | none => none

theorem length_of_stringBody {cs rest : List Char} {pieces : List Piece}
    (h : stringBody cs = some (pieces, rest)) : rest.length < cs.length := by
  fun_induction stringBody cs generalizing pieces <;> (try simp only [List.length_cons]) <;> grind

/-! ## Words and punctuation -/

def isBlank (c : Char) : Bool := c == ' ' || c == '\n' || c == '\t' || c == '\r'

def punctuation? : Char → Option Token
  | '{' => some .openBrace
  | '}' => some .closeBrace
  | '[' => some .openBracket
  | ']' => some .closeBracket
  | ',' => some .comma
  | ':' => some .colon
  | _ => none

def isWordChar (c : Char) : Bool := c.isAlphanum || c == '+' || c == '-' || c == '.'

/-- A literal name or a number. -/
def ofWord? (word : List Char) : Option Token :=
  if word = "null".toList then some .null
  else if word = "true".toList then some (.bool true)
  else if word = "false".toList then some (.bool false)
  else (Number.ofChars? word).map .number

/-- The tokens of a text. -/
def scan : List Char → Option (List Token)
  | [] => some []
  | c :: rest =>
    if isBlank c then
      scan rest
    else if c = '"' then
      match _h : stringBody rest with
      | none => none
      | some (pieces, after) =>
        (scan after).map (.string ((Piece.join pieces).map String.ofList) :: ·)
    else
      match punctuation? c with
      | some token => (scan rest).map (token :: ·)
      | none =>
        match ofWord? (c :: rest.takeWhile isWordChar) with
        | none => none
        | some token => (scan (rest.dropWhile isWordChar)).map (token :: ·)
  termination_by cs => cs.length
  decreasing_by
    · simp
    · have := length_of_stringBody ‹_›
      simp only [List.length_cons]
      omega
    · simp
    · have := (List.dropWhile_suffix isWordChar (l := rest)).length_le
      simp only [List.length_cons]
      omega

end Token

end TiledView.Json
