import TiledView.Plane.Rect
import TiledView.Text

/-!
# Numbers in callback payloads

Document engines write lists of numbers as text.  Each reader here takes the bytes that are left and
returns what it read together with the bytes that are left then.  None of them fails: an unexpected
byte ends the list, and a number beyond 64 bits wraps around.

* `Numerals.list` — `a,b,c` up to and including an optional `;`.
* `Numerals.matrix` — lists one after the other, until the input ends or a list consumes nothing.
* `Numerals.rect`, `Numerals.rects` — numbers in groups of four, whatever stands between them.
-/

namespace TiledView.Numerals

def isDigit (b : UInt8) : Bool := 48 ≤ b && b ≤ 57

/-- Space, tab, line feed, form feed and carriage return. -/
def isBlank (b : UInt8) : Bool := b == 32 || b == 9 || b == 10 || b == 12 || b == 13

def comma : UInt8 := 44

def semicolon : UInt8 := 59

/-! ## Numbers -/

def skipBlanks (bytes : Bytes) : Bytes := bytes.dropWhile isBlank

def skipToDigit (bytes : Bytes) : Bytes := bytes.dropWhile fun b => !isDigit b

theorem isDigit_of_skipToDigit {bytes digits : Bytes} {d : UInt8}
    (h : skipToDigit bytes = d :: digits) : isDigit d := by
  induction bytes with
  | nil => simp [skipToDigit] at h
  | cons b rest ih =>
    cases digit : isDigit b with
    | true => simp_all [skipToDigit]
    | false => exact ih (by simpa [skipToDigit, digit] using h)

/-- The number that decimal digits stand for, modulo `2 ^ 64`. -/
def ofDigits (digits : Bytes) : UInt64 := digits.foldl (fun n d => n * 10 + (d - 48).toUInt64) 0

/-- Reads a run of decimal digits.  An empty run reads as zero. -/
def number (bytes : Bytes) : UInt64 × Bytes :=
  (ofDigits (bytes.takeWhile isDigit), bytes.dropWhile isDigit)

theorem length_dropWhile_le {α : Type} (p : α → Bool) (l : List α) :
    (l.dropWhile p).length ≤ l.length := (List.dropWhile_suffix p).length_le

theorem length_number_le (bytes : Bytes) : (number bytes).2.length ≤ bytes.length :=
  length_dropWhile_le _ _

theorem length_number_lt {bytes : Bytes} {b : UInt8} (digit : isDigit b) :
    (number (b :: bytes)).2.length < (b :: bytes).length := by
  have := length_dropWhile_le isDigit bytes
  simp only [number, List.dropWhile_cons, digit, if_true, List.length_cons]
  omega

/-! ## Lists -/

/-- Reads `a,b,c` up to and including an optional `;`.  Blanks may stand before a number. -/
def list : Bytes → List UInt64 × Bytes
  | [] => ([], [])
  | b :: rest =>
    if b = semicolon then
      ([], rest)
    else
      match _h : skipBlanks (if b = comma then rest else b :: rest) with
      | [] => ([], [])
      | d :: digits =>
        if _digit : isDigit d then
          let (values, left) := list (number (d :: digits)).2
          ((number (d :: digits)).1 :: values, left)
        else
          ([], d :: digits)
  termination_by bytes => bytes.length
  decreasing_by
    have skipped : (d :: digits).length ≤ (b :: rest).length := by
      have := length_dropWhile_le isBlank (if b = comma then rest else b :: rest)
      simp only [skipBlanks] at _h
      grind
    exact Nat.lt_of_lt_of_le (length_number_lt _digit) skipped

/-- Reads lists one after the other, until the input ends or a list consumes nothing. -/
def matrix (bytes : Bytes) : List (List UInt64) × Bytes :=
  if (list bytes).2.length < bytes.length then
    let (rows, left) := matrix (list bytes).2
    ((list bytes).1 :: rows, left)
  else
    ([], bytes)
  termination_by bytes.length

/-! ## Rectangles -/

/-- Reads the next number, whatever stands before it.  Where there is none it reads as zero.
Numbers from `2 ^ 63` on are negative. -/
def field (bytes : Bytes) : Int × Bytes :=
  let (n, left) := number (skipToDigit bytes)
  (n.toInt64.toInt, left)

theorem length_field_le (bytes : Bytes) : (field bytes).2.length ≤ bytes.length :=
  Nat.le_trans (length_number_le _) (length_dropWhile_le _ _)

/-- Reads four numbers as `x, y, width, height`. -/
def rect (bytes : Bytes) : Rect .twips × Bytes :=
  let (x, bytes) := field bytes
  let (y, bytes) := field bytes
  let (width, bytes) := field bytes
  let (height, bytes) := field bytes
  (⟨x, y, width, height⟩, bytes)

theorem length_rect_le (bytes : Bytes) : (rect bytes).2.length ≤ (field bytes).2.length := by
  refine Nat.le_trans (length_field_le _) ?_
  refine Nat.le_trans (length_field_le _) ?_
  exact length_field_le _

/-- Reads rectangles until no number is left. -/
def rects (bytes : Bytes) : List (Rect .twips) × Bytes :=
  match _h : skipToDigit bytes with
  | [] => ([], [])
  | d :: digits =>
    let (rest, left) := rects (rect (d :: digits)).2
    ((rect (d :: digits)).1 :: rest, left)
  termination_by bytes.length
  decreasing_by
    have digit := isDigit_of_skipToDigit _h
    have skipped : (d :: digits).length ≤ bytes.length := by
      rw [← _h]
      exact length_dropWhile_le _ _
    have consumed : (field (d :: digits)).2.length < (d :: digits).length := by
      have unmoved : skipToDigit (d :: digits) = d :: digits := by
        simp [skipToDigit, digit]
      simp only [field, unmoved]
      exact length_number_lt digit
    exact Nat.lt_of_lt_of_le (Nat.lt_of_le_of_lt (length_rect_le _) consumed) skipped

end TiledView.Numerals
